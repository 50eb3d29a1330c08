import EvalSession.Coordinator

/-!
# Frames of the coordinator

Hooks, the transform and the worker may call the coordinator again while it is busy, so its work is kept as a stack of
frames. `Frame.tick` runs the top frame one stage; three frames wait for outside code instead, which may start further
operations above them before it answers. A fault takes frames off the stack: one of a hook is contained, one of the
transform becomes an error reply, and the drain loop always gives up its flag.
-/
namespace EvalSession.Coordinator

inductive Frame (H X : Type) where
  /-- Takes a task in. -/
  | submit (task : Task H)
  /-- Starts the drain loop unless it runs already. -/
  | drain
  | drainLoop
  | dispatch (task : Nat)
  /-- Applies the transform, if any, to the code of a run task. -/
  | prepare (task id : Nat)
  | awaitTransform (task id : Nat) (transform : X) (code : Value)
  | send (task id : Nat)
  | awaitSend (request : Request)
  /-- Delivers a reply made up by the coordinator. -/
  | loop (message : Value)
  | route (message : Value)
  | close (id : Option Int) (task : Nat)
  | advance (task : Nat)
  /-- Calls the hook that a task has for a moment, if any. -/
  | call (task : Nat) (moment : Moment) (argument : Argument)
  | awaitHook (hook : H) (argument : Argument)
  | kill
  | assign (transform : Option X)
  deriving DecidableEq

inductive Event (H X : Type) where
  /-- A task is taken in, as it was handed in. -/
  | submitted (number : Nat) (task : Task H)
  | opened (task id : Nat)
  /-- The hook before the run is over; this transform is in force now. -/
  | ready (id : Nat) (transform : Option X)
  | closed (task : Nat) (id : Option Int)
  /-- The router takes a message in. -/
  | routed (message : Value)
  /-- A task is told of a moment of its life, by the call of its hook for it. -/
  | told (task : Nat) (moment : Moment) (argument : Argument)
  | called (hook : H) (argument : Argument)
  | raised (hook : H)
  /-- A hook lets a fault out that is not contained. -/
  | escaped (hook : H) (fault : Fault)
  | transforming (transform : X) (code : Value)
  /-- The transform returned this code. -/
  | transformed (id : Nat) (code : Value)
  | sent (request : Request)
  /-- A reply given to the observer in place of the router. -/
  | looped (message : Value)
  /-- A transform is set, or taken away. -/
  | assigned (transform : Option X)
  | log (entry : Diagnostic)
  deriving DecidableEq

/-- What outside code does in the end. -/
inductive Answer where
  | done
  | code (v : Value)
  | raised (f : Fault)
  deriving DecidableEq

/-- The outcome of one stage: the frames stand in place of the one that ran. -/
structure Turn (H X : Type) where
  state : Coordinator H X
  frames : List (Frame H X) := []
  events : List (Event H X) := []
  fault : Option Fault := none

variable {H X : Type}

def errorReply (id : Nat) (f : Fault) : Value :=
  .object
    [("id", .int id), ("end", .bool true),
      ("error", (ErrorContent.mk f.name (if f.text.isEmpty then f.form else f.text) f.report).toValue)]

def submitTurn (c : Coordinator H X) (task : Task H) : Turn H X :=
  let t := c.tasks.length
  let c := { c with tasks := c.tasks ++ [task] }
  if c.killed then { state := c, events := [.log .ignored] }
  else
    let c := { c with pending := c.pending ++ [t] }
    if c.inFlight.isNone then { state := c, frames := [.drain], events := [.submitted t task] }
    else { state := c, events := [.submitted t task, .log (.queued task.action c.pending.length)] }

def drainLoopTurn (c : Coordinator H X) : Turn H X :=
  match c.inFlight, c.pending, c.killed with
  | none, t :: rest, false => { state := { c with pending := rest }, frames := [.dispatch t, .drainLoop] }
  | _, _, _ => { state := { c with draining := false } }

def dispatchTurn (c : Coordinator H X) (t : Nat) : Turn H X :=
  let c := c.openContext t
  { state := c
    frames := [.call t .beforeRun .nothing, .prepare t c.lastContext]
    events := [.opened t c.lastContext] }

def prepareTurn (c : Coordinator H X) (t id : Nat) : Turn H X :=
  match c.actionOf t, c.transform with
  | .run, some x =>
    { state := c
      frames := [.awaitTransform t id x (c.codeOf t)]
      events := [.ready id (some x), .transforming x (c.codeOf t)] }
  | _, x => { state := c, frames := [.send t id], events := [.ready id x] }

def sendTurn (c : Coordinator H X) (t id : Nat) : Turn H X :=
  let log : Event H X := .log (.dispatching (c.actionOf t))
  match Request.make (c.actionOf t) (c.codeOf t) id with
  | .error problems => { state := c, events := [log], fault := some (.badRequest problems) }
  | .ok request => { state := c, frames := [.awaitSend request], events := [log, .sent request] }

def loopTurn (c : Coordinator H X) (message : Value) : Turn H X :=
  match c.loopback with
  | .dropped => { state := c, events := [.log .noLocalRoute] }
  | .router => { state := c, frames := [.route message] }
  | .observer => { state := c, events := [.looped message] }

def resolveEvents (c : Coordinator H X) (id : Option Int) : List (Event H X) :=
  if (c.owner? id).isSome then [] else [.log (.missingContext id)]

def streamTurn (c : Coordinator H X) (t : Nat) (channel : Channel) (text : String) (events : List (Event H X)) :
    Turn H X :=
  let moment : Moment := match channel with
    | .stdout => .stdout
    | .stderr => .stderr
  match c.hookOf t moment with
  | some _ => { state := c, frames := [.call t moment (.chunk text)], events := events }
  | none => { state := c, events := events ++ [.log (.missingStream channel)] }

def replyTurn (c : Coordinator H X) (t : Nat) (variant : Variant) (id : Option Int) (last : Bool) (payload : Object)
    (events : List (Event H X)) : Turn H X :=
  let moment : Moment := if variant = .error then .error else .success
  let missing : List (Event H X) := if (c.hookOf t moment).isNone then [.log (.missingHook moment)] else []
  let closing : List (Frame H X) := if last then [.close id t] else []
  { state := c, frames := .call t moment (.payload payload) :: (closing ++ [.advance t]), events := events ++ missing }

def routeTurn (c : Coordinator H X) (message : Value) : Turn H X :=
  let taken : Event H X := .routed message
  match Message.decode message with
  | .error e => { state := c, events := [taken, .log (.undecodable e)] }
  | .ok (.log _) => { state := c, events := [taken, .log .workerLog] }
  | .ok (.stream id channel text) =>
    match c.resolve id with
    | none => { state := c, events := taken :: (c.resolveEvents id ++ [.log .noTask]) }
    | some t => streamTurn c t channel text (taken :: c.resolveEvents id)
  | .ok (.reply variant id last payload) =>
    match c.resolve id with
    | none => { state := c, events := taken :: (c.resolveEvents id ++ [.log .noTask]) }
    | some t => replyTurn c t variant id last payload (taken :: c.resolveEvents id)

def closeTurn (c : Coordinator H X) (id : Option Int) (t : Nat) : Turn H X :=
  { state := c.closeContext id
    frames := [.call t .afterRun .nothing]
    events := [.log .contextEnded, .closed t id] }

def advanceTurn (c : Coordinator H X) (t : Nat) : Turn H X :=
  if c.inFlight = some t then { state := { c with inFlight := none }, frames := [.drain] } else { state := c }

def callTurn (c : Coordinator H X) (t : Nat) (moment : Moment) (argument : Argument) : Turn H X :=
  match c.hookOf t moment with
  | none => { state := c }
  | some h =>
    { state := c
      frames := [.awaitHook h argument]
      events := [.told t moment argument, .called h argument] }

def killTurn (c : Coordinator H X) : Turn H X :=
  { state := { c with killed := true, pending := [] }
    events := if c.pending.isEmpty then [] else [.log (.discarded c.pending.length)] }

namespace Frame

/-- One stage of the top frame; `none` where it waits for outside code. -/
def tick (c : Coordinator H X) : Frame H X → Option (Turn H X)
  | .submit task => some (submitTurn c task)
  | .drain =>
    some (if c.draining then { state := c } else { state := { c with draining := true }, frames := [.drainLoop] })
  | .drainLoop => some (drainLoopTurn c)
  | .dispatch t => some (dispatchTurn c t)
  | .prepare t id => some (prepareTurn c t id)
  | .send t id => some (sendTurn c t id)
  | .loop message => some (loopTurn c message)
  | .route message => some (routeTurn c message)
  | .close id t => some (closeTurn c id t)
  | .advance t => some (advanceTurn c t)
  | .call t moment argument => some (callTurn c t moment argument)
  | .kill => some (killTurn c)
  | .assign x => some { state := { c with transform := x }, events := [.assigned x] }
  | .awaitTransform .. => none
  | .awaitSend _ => none
  | .awaitHook .. => none

/-- An ordinary fault of a hook goes no further. -/
def hookFailed (c : Coordinator H X) (h : H) (f : Fault) : Turn H X :=
  if f.ordinary then { state := c, events := [.raised h] } else { state := c, events := [.escaped h f], fault := some f }

/-- A failed transform is answered like an error of the worker. -/
def transformFailed (c : Coordinator H X) (id : Nat) (f : Fault) : Turn H X :=
  if f.ordinary then
    { state := c, frames := [.loop (errorReply id f)], events := [.log (.transformFailed id f.form)] }
  else { state := c, fault := some f }

def unwind (c : Coordinator H X) (f : Fault) : Frame H X → Turn H X
  | .awaitHook h _ => hookFailed c h f
  | .awaitTransform _ id _ _ => transformFailed c id f
  | .drainLoop => { state := { c with draining := false }, fault := some f }
  | _ => { state := c, fault := some f }

def answer (c : Coordinator H X) : Frame H X → Answer → Option (Turn H X)
  | .awaitHook _ _, .done => some { state := c }
  | .awaitSend _, .done => some { state := c }
  | .awaitTransform t id _ _, .code v =>
    some { state := c.setCode t v, frames := [.send t id], events := [.transformed id v, .log .transformed] }
  | .awaitHook h _, .raised f => some (hookFailed c h f)
  | .awaitSend _, .raised f => some { state := c, fault := some f }
  | .awaitTransform _ id _ _, .raised f => some (transformFailed c id f)
  | _, _ => none

def waits : Frame H X → Bool
  | .awaitHook .. => true
  | .awaitSend _ => true
  | .awaitTransform .. => true
  | _ => false

end Frame

end EvalSession.Coordinator

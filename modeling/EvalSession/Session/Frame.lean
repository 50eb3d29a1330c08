import EvalSession.Session

/-!
# Frames of a session

A session works like its coordinators: its work is a stack of frames, `Frame.tick` runs the top frame one stage, and
the frames for which there is no stage wait for outside code. Frames of a link's coordinator stand between those of
the session. A kernel and the session's own hooks are no outside code: their frames run on by themselves.
-/
namespace EvalSession.Session

inductive Ending where
  /-- Nothing: only the worker was to end. -/
  | stop
  | kill (notify : Bool)
  /-- Another worker takes its place. -/
  | restart (notify : Bool)
  deriving DecidableEq, Repr

inductive Frame (U X : Type) where
  | link (g : Nat) (f : Coordinator.Frame (Hook U) X)
  | execute (code : String) (hooks : Option (Hooks U))
  | complete (code : List Char) (cursor : Int) (hooks : Hooks U)
  | inspect (code : List Char) (cursor : Int) (hooks : Hooks U)
  | assign (transform : Option X)
  /-- Answers without the worker. -/
  | respond (hooks : Hooks U) (result : Object)
  | call (moment : Moment) (hook : Option U) (argument : Argument)
  /-- Waits for a hook of a caller, whose ordinary faults may be contained here. -/
  | awaitCall (contained : Bool) (moment : Moment) (hook : U) (argument : Argument)
  /-- Runs a hook of the session. -/
  | body (hook : Hook U) (payload : Object)
  /-- A remote worker delivers a message. -/
  | deliver (worker : Nat) (message : Value)
  /-- A message arrives from the kernel, or receiving it fails. -/
  | arrive (channel : Kernel.Channel) (message : Option Value)
  | emit (g : Nat) (message : Object)
  /-- Contains what goes wrong while a message of the kernel is handled. -/
  | guarded
  /-- A request is handed to the kernel past the coordinator. -/
  | transmit (fields : Object) (messageId : Option String)
  | install (handler : Option Handler)
  | kill (signal : String) (notify : Bool)
  | restart (signal : String) (notify : Bool)
  | terminate (signal : String) (ending : Ending)
  | awaitTermination (ending : Ending)
  | finish (ending : Ending) (status : Kernel.ExitStatus)
  | awaitWorker (notify : Bool) (status : Kernel.ExitStatus)
  deriving DecidableEq

inductive Event (U X : Type) where
  | link (g : Nat) (e : Coordinator.Event (Hook U) X)
  /-- A hook of a caller is called by the session itself. -/
  | called (moment : Moment) (hook : U) (argument : Argument)
  | raised (moment : Moment)
  | executed (messageId : String) (code : String) (options : Object)
  /-- A message of the kernel given to the observer. -/
  | emitted (message : Object)
  /-- A message of a worker that has no handler. -/
  | detached (worker : Nat)
  /-- Something is done to the kernel of link `g`. -/
  | act {g : Nat} (a : Kernel.Act)
  | terminating (worker : Nat) (signal : String)
  | creating
  | notified (status : Kernel.ExitStatus)
  | ended (status : Kernel.ExitStatus)
  | log (entry : Diagnostic)
  deriving DecidableEq

/-- What outside code does in the end. -/
inductive Answer where
  | done
  | code (v : Value)
  | raised (f : Fault)
  | exited (status : Kernel.ExitStatus)
  | worker (w : Worker)
  deriving DecidableEq

def Answer.coordinator? : Answer → Option Coordinator.Answer
  | .done => some .done
  | .code v => some (.code v)
  | .raised f => some (.raised f)
  | _ => none

structure Turn (U X : Type) where
  state : Session U X
  frames : List (Frame U X) := []
  events : List (Event U X) := []
  fault : Option Fault := none

variable {U X : Type}

def linkTurn (s : Session U X) (g : Nat) (t : Coordinator.Turn (Hook U) X) : Turn U X where
  state := s.setCoordinator g t.state
  frames := t.frames.map (.link g)
  events := t.events.map (.link g)
  fault := t.fault

def bodyOf : Hook U → Argument → List (Frame U X)
  | .user .., _ => []
  | hook, .payload fields => [.body hook fields]
  | _, _ => []

def transmitTurn (s : Session U X) (g : Nat) (k : Kernel) (r : Request) (messageId : Option String) : Turn U X :=
  let id := messageId.getD k.nextMessageId
  let (code, options) := Kernel.execution r
  { state := s.setKernel g (k.register r id), events := [.executed id code options, .log .sent] }

/-- A stage of a frame of a link. A kernel takes a request at once, and a hook of the session has no more to do when
its body is over. -/
def tickLink (s : Session U X) (g : Nat) (l : Link U X) (f : Coordinator.Frame (Hook U) X) : Option (Turn U X) :=
  match f, l.worker with
  | .awaitSend r, .kernel k => some (transmitTurn s g k r none)
  | .awaitHook (.user ..) _, _ => none
  | .awaitHook _ _, _ => some { state := s }
  | .call task moment argument, _ =>
    let turn := linkTurn s g (Coordinator.callTurn l.coordinator task moment argument)
    let body := (l.coordinator.hookOf task moment).toList.flatMap (bodyOf · argument)
    some { turn with frames := body ++ turn.frames }
  | f, _ => (f.tick l.coordinator).map (linkTurn s g)

def submit (s : Session U X) (task : Task (Hook U)) : Frame U X := .link s.current (.submit task)

def executeTurn (s : Session U X) (code : String) (hooks : Option (Hooks U)) : Turn U X :=
  { state := s, frames := [s.submit (runTask code hooks)], events := [.log .execute] }

def completeTurn (s : Session U X) (code : List Char) (cursor : Int) (hooks : Hooks U) : Turn U X :=
  { state := s
    frames := match Expression.parse code cursor with
      | none => [.respond hooks (Completion.unsupported code cursor)]
      | some e => [s.submit (namesTask ⟨code, cursor, e⟩ hooks)]
    events := [.log .complete] }

def inspectTurn (s : Session U X) (code : List Char) (cursor : Int) (hooks : Hooks U) : Turn U X :=
  { state := s
    frames := match Expression.parse code cursor with
      | none => [.respond hooks (Inspection.unsupported code cursor)]
      | some e => [s.submit (inspectionTask ⟨code, cursor, e⟩ hooks)]
    events := [.log .inspect] }

def respondTurn (s : Session U X) (hooks : Hooks U) (result : Object) : Turn U X :=
  if s.killed then { state := s }
  else
    { state := s
      frames := [.call .beforeRun hooks.beforeRun .nothing, .call .success hooks.success (.payload result),
        .call .afterRun hooks.afterRun .nothing] }

def callTurn (s : Session U X) (contained : Bool) (moment : Moment) (hook : Option U) (argument : Argument) :
    Turn U X :=
  match hook with
  | none => { state := s }
  | some u =>
    { state := s, frames := [.awaitCall contained moment u argument], events := [.called moment u argument] }

/-- The body of a hook that turns names into a completion. A fault of the caller's hook is a fault of this one. -/
def namesTurn (s : Session U X) (q : Question) (success : Option U) (payload : Object) : Turn U X :=
  match Completion.ofPayload q payload with
  | none => { state := s, fault := some .unexpectedShape }
  | some result => callTurn s false .success success (.payload result)

def inspectionTurn (s : Session U X) (q : Question) (hooks : Hooks U) (payload : Object) : Turn U X :=
  match Inspection.withQuestion q payload with
  | none => { state := s, fault := some .unexpectedShape }
  | some report =>
    if q.expression.scope.isEmpty then
      let report := Inspection.withEntry report (Inspection.found s.documentation q.expression.matchedText)
      { state := s
        frames := [.call .success hooks.success (.payload report), .call .afterRun hooks.afterRun .nothing] }
    else
      { state := { s with reports := s.reports ++ [report] }
        frames := [s.submit (scopeTask q hooks s.reports.length)] }

/-- A report keeps the entry that an earlier inspection of the scope found for it. -/
def scopeInspectionTurn (s : Session U X) (report : Nat) (q : Question) (hooks : Hooks U) (payload : Object) :
    Turn U X :=
  match Inspection.constructors payload with
  | none => { state := s, fault := some .unexpectedShape }
  | some names =>
    let result := Inspection.withEntry (s.reports[report]?.getD [])
      (Inspection.memberEntry s.documentation names q.expression.selector)
    { state := { s with reports := s.reports.set report result }
      frames := [.call .success hooks.success (.payload result)] }

def bodyTurn (s : Session U X) (hook : Hook U) (payload : Object) : Turn U X :=
  match hook with
  | .user .. => { state := s }
  | .names q success => namesTurn s q success payload
  | .inspection q hooks => inspectionTurn s q hooks payload
  | .inspectionError hooks =>
    { state := s
      frames := [.call .error hooks.error (.payload payload), .call .afterRun hooks.afterRun .nothing] }
  | .scopeInspection report q hooks => scopeInspectionTurn s report q hooks payload

def handlerOf (s : Session U X) (g : Nat) : Option Handler := s.links[g]?.bind Link.handler

def deliverTurn (s : Session U X) (worker : Nat) (message : Value) : Turn U X :=
  match s.linkOf? worker with
  | none => { state := s, events := [.detached worker] }
  | some g =>
    match s.handlerOf g with
    | none => { state := s, events := [.detached worker] }
    | some _ => { state := s, frames := [.link g (.route message)] }

def emitTurn (s : Session U X) (g : Nat) (message : Object) : Turn U X :=
  match s.handlerOf g with
  | none => { state := s, events := [.log .noHandler] }
  | some .router => { state := s, frames := [.link g (.route (.object message))] }
  | some .observer => { state := s, events := [.emitted message] }

def arriveTurn (s : Session U X) (channel : Kernel.Channel) (message : Option Value) : Turn U X :=
  match s.kernel? with
  | none => { state := s }
  | some k =>
    if !k.listening then { state := s }
    else
      match message with
      | none => { state := s, events := [.log .handlingFailed] }
      | some m =>
        let a := k.receive channel m
        { state := s.setKernel s.current a.kernel
          frames := match a.emitted with
            | some e => [.emit s.current e, .guarded]
            | none => [.guarded]
          fault := a.fault }

/-- Ends the current worker. A kernel that is ended loses its handler; one that refuses the signal is left alone. -/
def terminateTurn (s : Session U X) (signal : String) (ending : Ending) : Turn U X :=
  match s.link? with
  | none => { state := s }
  | some l =>
    match l.worker with
    | .remote n =>
      { state := s, frames := [.awaitTermination ending], events := [.terminating n signal] }
    | .kernel k =>
      let g := s.current
      let t := k.terminate signal
      let gone := !t.acts.isEmpty
      let s := s.setKernel s.current t.kernel
      let s := if gone then s.setHandler s.current none else s
      let events := t.acts.map (.act (g := g)) ++ (if gone then [.log .kernelTerminated] else [])
      match t.status with
      | .ok status => { state := s, frames := [.finish ending status], events := events }
      | .error f => { state := s, events := events, fault := some f }

def endedEvents (notify : Bool) (status : Kernel.ExitStatus) : List (Event U X) :=
  (if notify then [.notified status] else []) ++ [.ended status]

def finishTurn (s : Session U X) (ending : Ending) (status : Kernel.ExitStatus) : Turn U X :=
  match ending with
  | .stop => { state := s, events := [.ended status] }
  | .kill notify => { state := s, events := .log .killed :: endedEvents notify status }
  | .restart notify =>
    { state := s, frames := [.awaitWorker notify status], events := [.log .killed, .creating] }

/-- Ends the session with its worker: no task is dispatched from here on and no message is heard. -/
def endTurn (s : Session U X) (signal : String) (ending : Ending) : Turn U X :=
  { state := s, frames := [.link s.current .kill, .install none, .terminate signal ending] }

namespace Frame

/-- One stage of the top frame; `none` where it waits for outside code. -/
def tick (s : Session U X) : Frame U X → Option (Turn U X)
  | .link g f =>
    match s.links[g]? with
    | none => some { state := s }
    | some l => tickLink s g l f
  | .execute code hooks => some (executeTurn s code hooks)
  | .complete code cursor hooks => some (completeTurn s code cursor hooks)
  | .inspect code cursor hooks => some (inspectTurn s code cursor hooks)
  | .assign x => some { state := { s with transform := x }, frames := [.link s.current (.assign x)] }
  | .respond hooks result => some (respondTurn s hooks result)
  | .call moment hook argument => some (callTurn s true moment hook argument)
  | .body hook payload => some (bodyTurn s hook payload)
  | .deliver worker message => some (deliverTurn s worker message)
  | .arrive channel message => some (arriveTurn s channel message)
  | .emit g message => some (emitTurn s g message)
  | .guarded => some { state := s }
  | .transmit fields messageId =>
    some (match s.kernel?, Request.ofFields fields with
      | none, _ => { state := s }
      | _, .error problems => { state := s, fault := some (.badRequest problems) }
      | some k, .ok r => transmitTurn s s.current k r messageId)
  | .install handler => some { state := s.setHandler s.current handler }
  | .kill signal notify => some (endTurn s signal (.kill notify))
  | .restart signal notify =>
    some (if s.restartable then endTurn s signal (.restart notify) else { state := s, fault := some .notRestartable })
  | .terminate signal ending => some (terminateTurn s signal ending)
  | .finish ending status => some (finishTurn s ending status)
  | .awaitCall .. => none
  | .awaitTermination _ => none
  | .awaitWorker .. => none

def callFailed (s : Session U X) (contained : Bool) (moment : Moment) (f : Fault) : Turn U X :=
  if contained && f.ordinary then { state := s, events := [.raised moment] } else { state := s, fault := some f }

def unwind (s : Session U X) (f : Fault) : Frame U X → Turn U X
  | .link g frame =>
    match s.links[g]? with
    | none => { state := s, fault := some f }
    | some l => linkTurn s g (frame.unwind l.coordinator f)
  | .awaitCall contained moment _ _ => callFailed s contained moment f
  | .guarded =>
    if f.ordinary then { state := s, events := [.log .handlingFailed] } else { state := s, fault := some f }
  | _ => { state := s, fault := some f }

def answerLink (s : Session U X) (g : Nat) (frame : Coordinator.Frame (Hook U) X) (a : Answer) :
    Option (Turn U X) :=
  match s.links[g]?, a.coordinator? with
  | some l, some a => (frame.answer l.coordinator a).map (linkTurn s g)
  | _, _ => none

def answer (s : Session U X) (frame : Frame U X) (a : Answer) : Option (Turn U X) :=
  match frame, a with
  | .link g f, a => answerLink s g f a
  | .awaitCall .., .done => some { state := s }
  | .awaitCall contained moment _ _, .raised f => some (callFailed s contained moment f)
  | .awaitTermination ending, .exited status => some { state := s, frames := [.finish ending status] }
  | .awaitTermination _, .raised f => some { state := s, fault := some f }
  | .awaitWorker notify status, .worker w =>
    some { state := s.attach w, events := .log .restarted :: endedEvents notify status }
  | .awaitWorker .., .raised f => some { state := s, fault := some f }
  | _, _ => none

end Frame

end EvalSession.Session

import EvalSession.Rehearsal.Transform
import EvalSession.Session.Machine

/-!
# Rehearsing a session

Plays a script against a session whose callers, transforms and workers are scripted too. As for one coordinator,
outside code that is called is an activation: the steps it has yet to perform and the answer it gives then. The steps
of a hook or a transform are performed the first time it is called.
-/
namespace EvalSession.Rehearsal.Ensemble

/-- What the hooks of one call do; `S` are the steps they can perform. -/
structure CallScript (S : Type) where
  tag : String
  hooks : List Moment
  raises : List Moment
  steps : List (Moment × List S)

inductive Step where
  | execute (code : String) (script : Option (CallScript Step))
  | complete (code : String) (cursor : Int) (script : Option (CallScript Step))
  | inspect (code : String) (cursor : Int) (script : Option (CallScript Step))
  /-- A worker, the current one unless another is named, delivers a message. -/
  | reply (worker : Option Nat) (message : Value)
  | transform (script : Option (TransformScript Step))
  | kill (signal : String) (notify : Bool)
  | restart (signal : String) (notify : Bool)
  | arrive (channel : Kernel.Channel) (message : Option Value)
  | transmit (fields : Object) (messageId : Option String)
  | install (handler : Option Handler)
  | terminate (signal : String)
  deriving Inhabited

structure Cue where
  call : Nat
  script : CallScript Step

structure WorkerPlan where
  exit : Kernel.ExitStatus := ⟨none, some "SIGTERM"⟩
  /-- Making the worker fails with this text. -/
  failure : Option String := none
  /-- Codes that it refuses. -/
  refused : List String := []
  /-- Messages that it delivers at once, by the code they answer; `*` stands for any other code. -/
  replies : List (String × List Value) := []

namespace WorkerPlan

/-- The message with the context of the request in the place of the mark for it. -/
def address (contextId : Nat) : Value → Value
  | .object o =>
    if Object.get? o "id" = some (.string "$") then .object (Object.put o "id" (.int contextId)) else .object o
  | v => v

def repliesTo (plan : WorkerPlan) (r : Request) : List Value :=
  let messages := (plan.replies.find? (·.1 == r.code)).or (plan.replies.find? (·.1 == "*"))
  ((messages.map (·.2)).getD []).map (address r.contextId)

end WorkerPlan

abbrev Machine := Session.Machine Cue (Transform Step)

abbrev Frame := Session.Frame Cue (Transform Step)

/-- A call of outside code; `height` is the height of the stack while it waits on top. -/
structure Activation where
  height : Nat
  steps : List Step
  answer : Session.Answer

structure State where
  machine : Machine
  activations : List Activation := []
  plans : List WorkerPlan := []
  /-- Workers made so far, among them those that failed. -/
  made : Nat := 0
  /-- Calls with scripted hooks so far. -/
  calls : Nat := 0
  /-- Hooks that have been called. -/
  cued : List (Nat × Moment) := []
  /-- Transforms assigned so far. -/
  assigned : Nat := 0
  /-- Transforms that have been called. -/
  applied : List Nat := []

namespace State

def planOf (s : State) (worker : Nat) : WorkerPlan := s.plans[worker]?.getD {}

/-- Makes the next worker; the number of one that fails is used up. -/
def makeWorker (s : State) : State × Except Fault Worker :=
  let next := { s with made := s.made + 1 }
  match (s.planOf s.made).failure with
  | some text => (next, .error (thrownText "WorkerError" text))
  | none => (next, .ok (.remote s.made))

def push (s : State) (operation : Session.Operation Cue (Transform Step)) : State :=
  { s with machine := s.machine.push operation }

def enroll (s : State) (script : Option (CallScript Step)) : State × Option (Hooks Cue) :=
  match script with
  | none => (s, none)
  | some c =>
    ({ s with calls := s.calls + 1 },
      some (Hooks.ofMoments fun m => if c.hooks.contains m then some ⟨s.calls, c⟩ else none))

def currentWorker (s : State) : Nat :=
  match s.machine.state.link?.map Link.worker with
  | some (.remote n) => n
  | _ => 0

def start (s : State) : Step → State
  | .execute code script =>
    let (s, hooks) := s.enroll script
    s.push (.execute code hooks)
  | .complete code cursor script =>
    let (s, hooks) := s.enroll script
    s.push (.complete code.toList cursor (hooks.getD {}))
  | .inspect code cursor script =>
    let (s, hooks) := s.enroll script
    s.push (.inspect code.toList cursor (hooks.getD {}))
  | .reply worker message => s.push (.deliver (worker.getD s.currentWorker) message)
  | .transform script =>
    { s with assigned := s.assigned + 1 }.push (.assign (script.map fun t => ⟨s.assigned, t⟩))
  | .kill signal notify => s.push (.kill signal notify)
  | .restart signal notify => s.push (.restart signal notify)
  | .arrive channel message => s.push (.arrive channel message)
  | .transmit fields messageId => s.push (.transmit fields messageId)
  | .install handler => s.push (.install handler)
  | .terminate signal => s.push (.terminate signal)

def cue (s : State) (moment : Moment) (c : Cue) : State × List Step × Session.Answer :=
  let steps := ((c.script.steps.find? fun e => e.1 == moment).map (·.2)).getD []
  ({ s with cued := (c.call, moment) :: s.cued }, if s.cued.contains (c.call, moment) then [] else steps,
    if c.script.raises.contains moment then .raised (thrownText "RuntimeError" "hook") else .done)

def apply (s : State) (x : Transform Step) (code : Value) : State × List Step × Session.Answer :=
  ({ s with applied := x.serial :: s.applied }, if s.applied.contains x.serial then [] else x.script.steps,
    match x.script.answer code with
    | .code v => .code v
    | .raised f => .raised f
    | .done => .done)

def accept (s : State) (g : Nat) (r : Request) : State × List Step × Session.Answer :=
  match (s.machine.state.links[g]?).map Link.worker with
  | some (.remote n) =>
    let plan := s.planOf n
    if plan.refused.contains r.code then (s, [], .raised (thrownText "WorkerError" s!"send failed: {r.code}"))
    else (s, (plan.repliesTo r).map (.reply (some n)), .done)
  | _ => (s, [], .done)

def react (s : State) (f : Frame) : State × List Step × Session.Answer :=
  match f with
  | .link _ (.awaitHook (.user moment c) _) => s.cue moment c
  | .awaitCall _ moment c _ => s.cue moment c
  | .link _ (.awaitTransform _ _ x code) => s.apply x code
  | .link g (.awaitSend r) => s.accept g r
  | .awaitTermination _ => (s, [], .exited (s.planOf s.currentWorker).exit)
  | .awaitWorker .. =>
    match s.makeWorker with
    | (s, .ok w) => (s, [], .worker w)
    | (s, .error f) => (s, [], .raised f)
  | _ => (s, [], .done)

/-- One move of the machine or of outside code; `none` when the step is over. -/
def advance (s : State) : Option State :=
  match s.machine.stack with
  | [] => none
  | f :: _ =>
    let height := s.machine.stack.length
    if s.machine.fault.isSome then
      let left := s.activations.filter (·.height < height)
      s.machine.tick.map fun m => { s with machine := m, activations := left }
    else
      match s.machine.tick, s.activations with
      | some m, _ => some { s with machine := m }
      | none, [] =>
        let (s, steps, answer) := s.react f
        some { s with activations := [⟨height, steps, answer⟩] }
      | none, a :: rest =>
        if a.height = height then
          match a.steps with
          | step :: more => some ({ s with activations := { a with steps := more } :: rest }.start step)
          | [] => (s.machine.answer a.answer).map fun m => { s with machine := m, activations := rest }
        else
          let (s, steps, answer) := s.react f
          some { s with activations := ⟨height, steps, answer⟩ :: s.activations }

/-- Moves until the step is over, at most `fuel` times. -/
def settle : Nat → State → State
  | 0, s => s
  | fuel + 1, s =>
    match s.advance with
    | none => s
    | some t => settle fuel t

def perform (fuel : Nat) (s : State) (step : Step) : State :=
  settle fuel ({ s with machine := { s.machine with events := [] }, activations := [] }.start step)

def outcome? (s : State) : Option Kernel.ExitStatus :=
  s.machine.events.findSome? fun e => match e with
    | .ended status => some status
    | _ => none

end State

structure Setting where
  plans : List WorkerPlan := []
  /-- A kernel in place of remote workers. -/
  kernel : Option Kernel.Host := none
  /-- Workers are made by a factory, the first one too. -/
  factory : Bool := false
  transform : Option (TransformScript Step) := none
  documentation : Documentation.Index

def Setting.begin (setting : Setting) : Except Fault State :=
  let session (w : Worker) (restartable : Bool) : Machine :=
    { state := Session.make w (setting.transform.map fun t => ⟨0, t⟩) restartable setting.documentation }
  let blank (m : Machine) : State := { machine := m, plans := setting.plans, made := 1, assigned := 1 }
  match setting.kernel with
  | some host => .ok (blank (session (.kernel { host := host }) false))
  | none =>
    match setting.plans[0]?.bind WorkerPlan.failure with
    | some text => .error (thrownText "WorkerError" text)
    | none => .ok (blank (session (.remote 0) setting.factory))

/-- A kernel alone, its messages observed. -/
def soloKernel (host : Kernel.Host) (documentation : Documentation.Index) : State :=
  let session : Session Cue (Transform Step) :=
    Session.make (.kernel { host := host }) none false documentation
  { machine := { state := session.setHandler 0 (some .observer) } }

end EvalSession.Rehearsal.Ensemble

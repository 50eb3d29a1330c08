import EvalSession.Coordinator.Machine
import EvalSession.Rehearsal.Transform

/-!
# Rehearsing a coordinator

Plays a script against one coordinator whose hooks, transforms and worker are scripted too. Outside code that is
called is an activation: the steps it has yet to perform and the answer it gives then. A nested step that ends in a
fault ends the activation it belongs to.
-/
namespace EvalSession.Rehearsal.Solo

inductive Step where
  | submit (action : Action) (code : String) (raises : List Moment)
  | dispatch (task : Nat)
  | advance (task : Nat)
  | close (id : Option Int) (task : Nat)
  | resolve (id : Option Int)
  | kill
  | transform (script : Option (TransformScript Step))
  deriving Inhabited

/-- A scripted hook: the task it belongs to, and whether it raises when it is called. -/
structure Cue where
  task : Nat
  moment : Moment
  raises : Bool
  deriving DecidableEq, Repr

abbrev Machine := Coordinator.Machine Cue (Transform Step)

/-- A call of outside code; `height` is the height of the stack while it waits on top. -/
structure Activation where
  height : Nat
  steps : List Step
  answer : Coordinator.Answer

structure State where
  machine : Machine := {}
  activations : List Activation := []
  /-- Transforms assigned so far. -/
  assigned : Nat := 0
  /-- Transforms that have been called. -/
  called : List Nat := []
  /-- What the last look-up found. -/
  found : Option (Option Nat) := none

namespace State

def push (s : State) (f : Coordinator.Frame Cue (Transform Step)) : State := { s with machine := s.machine.push f }

def start (s : State) : Step → State
  | .submit action code raises =>
    let task := s.machine.state.tasks.length
    let hooks := Hooks.ofMoments fun m => some ⟨task, m, raises.contains m⟩
    s.push (.submit (Task.build action code (some hooks)))
  | .dispatch t => s.push (.dispatch t)
  | .advance t => s.push (.advance t)
  | .close id t => s.push (.close id t)
  | .kill => s.push .kill
  | .transform script =>
    { s with assigned := s.assigned + 1 }.push (.assign (script.map fun t => ⟨s.assigned, t⟩))
  | .resolve id =>
    let m := s.machine
    { s with
      machine := { m with events := (m.state.resolveEvents id).reverse ++ m.events, fault := none }
      found := some (m.state.resolve id) }

def react (s : State) (f : Coordinator.Frame Cue (Transform Step)) : State × List Step × Coordinator.Answer :=
  match f with
  | .awaitHook cue _ => (s, [], if cue.raises then .raised (thrownText "RuntimeError" "hook") else .done)
  | .awaitTransform _ _ x code =>
    ({ s with called := x.serial :: s.called }, if s.called.contains x.serial then [] else x.script.steps,
      x.script.answer code)
  | _ => (s, [], .done)

/-- One move of the machine or of outside code; `none` when the step is over. -/
def advance (s : State) : Option State :=
  match s.machine.stack with
  | [] => none
  | f :: _ =>
    let height := s.machine.stack.length
    if s.machine.fault.isSome then
      let left := s.activations.filter (·.height < height)
      s.machine.tick.map fun m => { s with machine := m, activations := left }
    else if f.waits then
      match s.activations with
      | a :: rest =>
        if a.height = height then
          match a.steps with
          | step :: more => some ({ s with activations := { a with steps := more } :: rest }.start step)
          | [] => (s.machine.answer a.answer).map fun m => { s with machine := m, activations := rest }
        else
          let (s, steps, answer) := s.react f
          some { s with activations := ⟨height, steps, answer⟩ :: s.activations }
      | [] =>
        let (s, steps, answer) := s.react f
        some { s with activations := [⟨height, steps, answer⟩] }
    else s.machine.tick.map fun m => { s with machine := m }

def settle : Nat → State → State
  | 0, s => s
  | fuel + 1, s =>
    match s.advance with
    | none => s
    | some t => settle fuel t

def perform (fuel : Nat) (s : State) (step : Step) : State :=
  settle fuel ({ s with machine := { s.machine with events := [] }, activations := [], found := none }.start step)

end State

end EvalSession.Rehearsal.Solo

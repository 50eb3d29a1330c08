import EvalSession.Diagnostic
import EvalSession.Fault

/-!
# The coordinator of one worker

Owns the queue, the single slot for the task that waits on the worker, and the table of open contexts. A task is known
by the number it got when it was handed in. A context outlives the slot: the slot is freed by the first reply, the
context is closed by the reply that ends it.
-/
namespace EvalSession

/-- Where a reply that the coordinator makes up itself goes. -/
inductive Loopback where
  | dropped
  | router
  | observer
  deriving DecidableEq, Repr

/-- `H` are the hooks, `X` the transforms; neither is looked into. -/
structure Coordinator (H X : Type) where
  killed : Bool := false
  draining : Bool := false
  tasks : List (Task H) := []
  pending : List Nat := []
  inFlight : Option Nat := none
  /-- Open contexts and their tasks, by ascending context id. -/
  contexts : List (Nat × Nat) := []
  lastContext : Nat := 0
  lastTask : Option Nat := none
  transform : Option X := none
  loopback : Loopback := .router

/-- What a hook is called with. -/
inductive Argument where
  | nothing
  | payload (fields : Object)
  | chunk (text : String)
  deriving DecidableEq, Repr

namespace Coordinator

variable {H X : Type}

/-- A hook that is set never counts as none, so it makes no difference whether a test asks for one that is set or for one that
is not absent. -/
def hookOf (c : Coordinator H X) (task : Nat) (moment : Moment) : Option H :=
  c.tasks[task]?.bind fun t => t.hooks.get moment

def actionOf (c : Coordinator H X) (task : Nat) : Action := (c.tasks[task]?.map Task.action).getD .run

def codeOf (c : Coordinator H X) (task : Nat) : Value := (c.tasks[task]?.map Task.code).getD .null

def setCode (c : Coordinator H X) (task : Nat) (code : Value) : Coordinator H X :=
  { c with tasks := c.tasks.modify task fun t => { t with code := code } }

def owner? (c : Coordinator H X) : Option Int → Option Nat
  | none => none
  | some id => (c.contexts.find? fun e => (e.1 : Int) = id).map (·.2)

/-- The task a message belongs to: the owner of its context or, failing that, the task dispatched last. -/
def resolve (c : Coordinator H X) (id : Option Int) : Option Nat :=
  (c.owner? id).or c.lastTask

def openContext (c : Coordinator H X) (task : Nat) : Coordinator H X :=
  { c with
    inFlight := some task
    lastContext := c.lastContext + 1
    lastTask := some task
    contexts := c.contexts ++ [(c.lastContext + 1, task)] }

def closeContext (c : Coordinator H X) : Option Int → Coordinator H X
  | none => c
  | some id => { c with contexts := c.contexts.filter fun e => (e.1 : Int) ≠ id }

end Coordinator

end EvalSession

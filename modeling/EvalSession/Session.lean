import EvalSession.Coordinator.Machine
import EvalSession.Inspection
import EvalSession.Kernel

/-!
# Sessions

A session is linked to one worker at a time. Each link has a coordinator of its own, so a restart leaves the contexts
and the queue of the worker before behind. The session sets hooks of its own on the tasks of completions and
inspections; `U` are the hooks of callers and `X` the transforms, and neither is looked into.
-/
namespace EvalSession

inductive Hook (U : Type) where
  | user (moment : Moment) (hook : U)
  /-- Makes a completion of the names that a worker lists. -/
  | names (question : Question) (success : Option U)
  /-- Passes the inspection of a value on, or asks for that of its scope first. -/
  | inspection (question : Question) (hooks : Hooks U)
  | inspectionError (hooks : Hooks U)
  /-- Looks up a member in the inspection of its scope and passes on the report on the member. -/
  | scopeInspection (report : Nat) (question : Question) (hooks : Hooks U)
  deriving DecidableEq

def Hook.name {U : Type} : Hook U → String
  | .user moment _ => moment.name
  | .names .. => "on_names"
  | .inspection .. => "on_inspection"
  | .inspectionError _ => "on_error"
  | .scopeInspection .. => "<lambda>"

/-- The session itself runs a kernel; a remote worker is known by its number alone. -/
inductive Worker where
  | remote (number : Nat)
  | kernel (k : Kernel)
  deriving DecidableEq

inductive Handler where
  | router
  | observer
  deriving DecidableEq, Repr

structure Link (U X : Type) where
  worker : Worker
  handler : Option Handler := some .router
  coordinator : Coordinator (Hook U) X := {}

structure Session (U X : Type) where
  /-- Links in the order of their workers; the last one is current. -/
  links : List (Link U X)
  transform : Option X := none
  /-- There is a way to make further workers. -/
  restartable : Bool := false
  documentation : Documentation.Index
  /-- Reports on members whose scopes are looked up. -/
  reports : List Object := []

namespace Session

variable {U X : Type}

def attach (s : Session U X) (worker : Worker) : Session U X :=
  { s with links := s.links ++ [{ worker := worker, coordinator := { transform := s.transform } }] }

def make (worker : Worker) (transform : Option X) (restartable : Bool) (documentation : Documentation.Index) :
    Session U X :=
  attach { links := [], transform := transform, restartable := restartable, documentation := documentation } worker

def current (s : Session U X) : Nat := s.links.length - 1

def link? (s : Session U X) : Option (Link U X) := s.links[s.current]?

def coordinator (s : Session U X) : Coordinator (Hook U) X := (s.link?.map Link.coordinator).getD {}

def killed (s : Session U X) : Bool := s.coordinator.killed

def kernel? (s : Session U X) : Option Kernel :=
  s.link?.bind fun l => match l.worker with
    | .kernel k => some k
    | .remote _ => none

def setCoordinator (s : Session U X) (g : Nat) (c : Coordinator (Hook U) X) : Session U X :=
  { s with links := s.links.modify g fun l => { l with coordinator := c } }

def setKernel (s : Session U X) (g : Nat) (k : Kernel) : Session U X :=
  { s with links := s.links.modify g fun l => { l with worker := .kernel k } }

def setHandler (s : Session U X) (g : Nat) (handler : Option Handler) : Session U X :=
  { s with links := s.links.modify g fun l => { l with handler := handler } }

def linkOf? (s : Session U X) (worker : Nat) : Option Nat :=
  s.links.findIdx? fun l => decide (l.worker = .remote worker)

def callers (hooks : Hooks U) : Hooks (Hook U) := Hooks.ofMoments fun m => (hooks.get m).map (.user m)

def runTask (code : String) (hooks : Option (Hooks U)) : Task (Hook U) :=
  Task.build .run code (hooks.map callers)

def namesTask (q : Question) (hooks : Hooks U) : Task (Hook U) :=
  let scope := if q.expression.scope.isEmpty then Query.globalScope else String.ofList q.expression.scope
  Task.build .listNames scope (some (callers hooks)) [(.success, some (.names q hooks.success))]

/-- The first request of an inspection; how its run ends is told when the whole inspection is over. -/
def inspectionTask (q : Question) (hooks : Hooks U) : Task (Hook U) :=
  Task.build .inspect (String.ofList q.expression.matchedText) (some (callers hooks))
    [(.success, some (.inspection q hooks)), (.error, some (.inspectionError hooks)), (.afterRun, none)]

/-- The second request of an inspection; its run has been announced by the first. -/
def scopeTask (q : Question) (hooks : Hooks U) (report : Nat) : Task (Hook U) :=
  Task.build .inspect (String.ofList q.expression.scope) (some (callers hooks))
    [(.beforeRun, none), (.success, some (.scopeInspection report q hooks))]

end Session

end EvalSession

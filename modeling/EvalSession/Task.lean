import EvalSession.Field

/-!
# Tasks and requests

A task is one unit of work with the hooks that observe it; a request is what a worker receives of it. Hooks are names
of outside callbacks and are never looked into here.
-/
namespace EvalSession

inductive Action where
  | run
  | listNames
  | inspect
  deriving DecidableEq, Repr

def Action.name : Action → String
  | .run => "run"
  | .listNames => "getAllPropertyNames"
  | .inspect => "inspect"

def Action.ofName? (name : String) : Option Action :=
  [Action.run, .listNames, .inspect].find? (·.name == name)

inductive Moment where
  | success
  | error
  | beforeRun
  | afterRun
  | stdout
  | stderr
  deriving DecidableEq, Repr

namespace Moment

def all : List Moment := [.success, .error, .beforeRun, .afterRun, .stdout, .stderr]

def name : Moment → String
  | .success => "on_success"
  | .error => "on_error"
  | .beforeRun => "before_run"
  | .afterRun => "after_run"
  | .stdout => "on_stdout"
  | .stderr => "on_stderr"

def ofName? (name : String) : Option Moment := all.find? (·.name == name)

end Moment

structure Hooks (H : Type) where
  success : Option H := none
  error : Option H := none
  beforeRun : Option H := none
  afterRun : Option H := none
  stdout : Option H := none
  stderr : Option H := none
  deriving DecidableEq, Repr

namespace Hooks

variable {H K : Type}

def get (hooks : Hooks H) : Moment → Option H
  | .success => hooks.success
  | .error => hooks.error
  | .beforeRun => hooks.beforeRun
  | .afterRun => hooks.afterRun
  | .stdout => hooks.stdout
  | .stderr => hooks.stderr

def set (hooks : Hooks H) (hook : Option H) : Moment → Hooks H
  | .success => { hooks with success := hook }
  | .error => { hooks with error := hook }
  | .beforeRun => { hooks with beforeRun := hook }
  | .afterRun => { hooks with afterRun := hook }
  | .stdout => { hooks with stdout := hook }
  | .stderr => { hooks with stderr := hook }

def map (f : H → K) (hooks : Hooks H) : Hooks K where
  success := hooks.success.map f
  error := hooks.error.map f
  beforeRun := hooks.beforeRun.map f
  afterRun := hooks.afterRun.map f
  stdout := hooks.stdout.map f
  stderr := hooks.stderr.map f

def ofMoments (hook : Moment → Option H) : Hooks H where
  success := hook .success
  error := hook .error
  beforeRun := hook .beforeRun
  afterRun := hook .afterRun
  stdout := hook .stdout
  stderr := hook .stderr

/-- The hooks with some of them replaced, the last replacement of a hook winning. -/
def override (hooks : Hooks H) (changes : List (Moment × Option H)) : Hooks H :=
  changes.foldl (fun acc c => acc.set c.2 c.1) hooks

end Hooks

/-- The code is any value, since a transform may leave one that is no text. -/
structure Task (H : Type) where
  action : Action
  code : Value
  hooks : Hooks H := {}
  deriving DecidableEq

def Task.build {H : Type} (action : Action) (code : String) (hooks : Option (Hooks H))
    (changes : List (Moment × Option H) := []) : Task H where
  action := action
  code := .string code
  hooks := (hooks.getD {}).override changes

structure Request where
  action : Action
  code : String
  contextId : Nat
  deriving DecidableEq, Repr

namespace Request

def readAction : Value → Field.Checked Action
  | .string s =>
    match Action.ofName? s with
    | some a => .ok a
    | none => Field.fail .enumeration
  | _ => Field.fail .enumeration

def readContextId (v : Value) : Field.Checked Nat :=
  match Field.int v with
  | .error p => .error p
  | .ok n => if 1 ≤ n then .ok n.toNat else Field.fail .notAtLeast

/-- Reads a request from its fields; others are ignored. -/
def ofFields (o : Object) : Field.Checked Request :=
  (Field.both (Field.required o "action" readAction)
    (Field.both (Field.required o "code" Field.string) (Field.required o "context_id" readContextId))).map
    fun (action, code, contextId) => ⟨action, code, contextId⟩

/-- The request for a task in a context; its code must be text. -/
def make (action : Action) (code : Value) (contextId : Nat) : Field.Checked Request :=
  (Field.within "code" (Field.string code)).map fun text => ⟨action, text, contextId⟩

end Request

end EvalSession

import EvalSession.Coordinator.Frame
import EvalSession.Rehearsal.Raise

/-!
# Scripted transforms

What a scripted transform makes of the code of a task. `S` are the steps that a script can perform.
-/
namespace EvalSession.Rehearsal

inductive TransformScript (S : Type) where
  /-- Puts the code in parentheses. -/
  | wrap
  | reverse
  | constant (v : Value)
  /-- Performs steps the first time and leaves the code as it is. -/
  | perform (steps : List S)
  /-- Raises a fault on code that starts with a text. -/
  | raise (start : String) (fault : Thrown)

/-- A transform in force, with a number that tells it from others with the same script. -/
structure Transform (S : Type) where
  serial : Nat
  script : TransformScript S

namespace TransformScript

variable {S : Type}

def steps : TransformScript S → List S
  | .perform steps => steps
  | _ => []

def noText : Coordinator.Answer := .raised (.thrown (thrown "TypeError" []))

def answer (script : TransformScript S) (code : Value) : Coordinator.Answer :=
  match script, code with
  | .wrap, .string s => .code (.string ("(" ++ s ++ ")"))
  | .wrap, _ => noText
  | .reverse, .string s => .code (.string (String.ofList s.toList.reverse))
  | .reverse, .list items => .code (.list items.reverse)
  | .reverse, _ => noText
  | .constant v, _ => .code v
  | .perform _, code => .code code
  | .raise start fault, .string s =>
    if start.toList.isPrefixOf s.toList then .raised (.thrown fault) else .code (.string s)
  | .raise _ _, _ => noText

end TransformScript

end EvalSession.Rehearsal

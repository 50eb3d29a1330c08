/-!
# How deep readers go

A reader that keeps its place on the stack of its process goes only so deep. A text that nests deeper ends the reading
with a fault of its own, where the stack runs out, whatever stands behind that place.
-/
namespace EvalSession

/-- What a reader was about to go into. -/
inductive Overrun where
  /-- A part of an expression. -/
  | part
  /-- A term of the tree that an expression was read as. -/
  | term
  | array
  | object
  deriving DecidableEq, Repr

def Overrun.name : Overrun → String
  | .part => "MemoryError"
  | _ => "RecursionError"

def Overrun.text : Overrun → String
  | .part => ""
  | .term => "maximum recursion depth exceeded during ast construction"
  | .array => "maximum recursion depth exceeded while decoding a JSON array from a unicode string"
  | .object => "maximum recursion depth exceeded while decoding a JSON object from a unicode string"

/-- How deep the readers of a process go: the levels that an expression may nest to while it is read, the height of the
tree that it is read as, and the arrays and objects of a JSON text that may be open at a time. -/
structure Depths where
  parts : Nat := 5975
  terms : Nat := 2953
  containers : Nat := 983
  deriving DecidableEq, Repr

end EvalSession

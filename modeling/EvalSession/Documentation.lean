import EvalSession.Documentation.Pattern
import EvalSession.Value

/-!
# Documentation index

Entries by name. A name without an entry is looked up once more under the family name that each rule makes of it, in
order, so that a member inherited from a base type is found under that type.
-/
namespace EvalSession.Documentation

def letters : Class := .ranges [('A', 'Z'), ('a', 'z')]

def chars (s : String) : List Piece := s.toList.map fun c => .one (.char c)

def defaultRules : List Rule :=
  [⟨⟨true, .many letters :: chars "Error."⟩, "BaseException.".toList.map .char⟩,
    ⟨⟨true, .many letters :: chars "List."⟩, "list.".toList.map .char⟩]

structure Index where
  entries : List (String × Object)
  rules : List Rule := defaultRules

namespace Index

def entry? (index : Index) (name : String) : Option Object :=
  (index.entries.find? (·.1 == name)).map (·.2)

def contains (index : Index) (name : String) : Bool := (index.entry? name).isSome

def size (index : Index) : Nat := index.entries.length

def lookup (index : Index) (name : String) : Option Object :=
  match index.entry? name with
  | some e => some e
  | none => index.rules.findSome? fun r => index.entry? (String.ofList (r.substitute name.toList))

end Index

end EvalSession.Documentation

import EvalSession.Completion
import EvalSession.Documentation
import EvalSession.Value.Display

/-!
# Inspection

The answer to an inspection: the payload of the worker with the question written into it and, where one is found, an
entry of the documentation. A member is looked up under each name of the constructor list of its scope in turn.
-/
namespace EvalSession.Inspection

/-- The payload with the question written into its inspection; `none` if it has one that is no object. -/
def withQuestion (q : Question) (payload : Object) : Option Object :=
  let asked : Object :=
    [("code", Completion.text q.code), ("cursorPos", .int q.cursor),
      ("matchedText", Completion.text q.expression.matchedText)]
  match payload.get? "inspection" with
  | none => some (payload.put "inspection" (.object asked))
  | some (.object fields) => some (payload.put "inspection" (.object (Object.update fields asked)))
  | some _ => none

/-- The constructor names of a scope, most specific first; `none` if the payload has not the shape for it. -/
def constructors (payload : Object) : Option (List (List Char)) :=
  match (payload.get? "inspection").getD (.object []) with
  | .object fields =>
    let names := (Object.get? fields "constructorList").getD .null
    if names.isVacant then some [] else names.items?.map fun items => items.map Value.display
  | _ => none

/-- An entry that holds anything. -/
def found (index : Documentation.Index) (name : List Char) : Option Object :=
  (index.lookup (String.ofList name)).filter (!·.isEmpty)

def memberEntry (index : Documentation.Index) (constructors : List (List Char)) (selector : List Char) :
    Option Object :=
  constructors.findSome? fun name => found index (name ++ '.' :: selector)

def withEntry (result : Object) : Option Object → Object
  | none => result
  | some entry => result.put "doc" (.object entry)

def unsupported (code : List Char) (cursor : Int) : Object :=
  [("inspection", .object
    [("code", Completion.text code), ("cursorPos", .int cursor), ("matchedText", .string ""), ("string", .string ""),
      ("type", .string "")])]

end EvalSession.Inspection

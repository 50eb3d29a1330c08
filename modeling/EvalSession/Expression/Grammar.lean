import EvalSession.Expression

/-!
# The grammar of scopes

The chains that may stand before an access operator, said without reference to the reader.
-/
namespace EvalSession.Expression

/-- A word character that is no digit, then word characters. -/
inductive Ident : List Char → Prop where
  | mk {c : Char} {rest : List Char} :
      Text.isIdentStart c = true → (∀ d ∈ rest, Text.isWord d = true) → Ident (c :: rest)

/-- An attribute access, or a subscript by a quoted text on one line. -/
inductive Segment : List Char → Prop where
  | attribute {name : List Char} : Ident name → Segment ('.' :: name)
  | doubleQuoted {text : List Char} : '\n' ∉ text → Segment ('[' :: '"' :: (text ++ ['"', ']']))
  | singleQuoted {text : List Char} : '\n' ∉ text → Segment ('[' :: '\'' :: (text ++ ['\'', ']']))

inductive Segments : List Char → Prop where
  | nil : Segments []
  | cons {first rest : List Char} : Segment first → Segments rest → Segments (first ++ rest)

inductive Chain : List Char → Prop where
  | mk {name rest : List Char} : Ident name → Segments rest → Chain (name ++ rest)

/-- `s` is the longest suffix of `text` with the property `P`. -/
def LongestSuffix (P : List Char → Prop) (text s : List Char) : Prop :=
  P s ∧ s <:+ text ∧ ∀ t, P t → t <:+ text → t.length ≤ s.length

end EvalSession.Expression

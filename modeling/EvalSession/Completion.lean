import EvalSession.Expression
import EvalSession.Value

/-!
# Completion

The completions of an expression from the names that a worker lists, and the range of the source that a completion
replaces. Inside a subscript the keys of a mapping are offered, if it lists any, and elsewhere the names of the scope;
at top level the reserved words are offered too.
-/
namespace EvalSession

/-- What a completion or inspection was asked about. -/
structure Question where
  code : List Char
  cursor : Int
  expression : Expression
  deriving DecidableEq, Repr

namespace Completion

def reservedWords : List String :=
  ["False", "None", "True", "and", "as", "assert", "async", "await", "break", "class", "continue", "def", "del",
    "elif", "else", "except", "finally", "for", "from", "global", "if", "import", "in", "is", "lambda", "nonlocal",
    "not", "or", "pass", "raise", "return", "try", "while", "with", "yield"]

/-- What the worker offers behind the operator of an expression. -/
def offered (e : Expression) (result : Object) : Value :=
  match e.rightOp.isEmpty, result.get? "keys" with
  | false, some keys => keys
  | _, _ => (result.get? "names").getD (.list [])

/-- The offered names; `none` if they cannot be listed or one is no text. -/
def names? (e : Expression) (result : Object) : Option (List (List Char)) :=
  (offered e result).items?.bind fun items => items.mapM fun v => v.text?.map String.toList

def candidates (e : Expression) (names : List (List Char)) : List (List Char) :=
  if e.scope.isEmpty then (names ++ reservedWords.map String.toList).eraseDups else names

/-- The texts that may replace an expression, in the order of the names. -/
def list (e : Expression) (names : List (List Char)) : List (List Char) :=
  ((candidates e names).filter e.selector.isPrefixOf).map fun n => e.scope ++ e.leftOp ++ n ++ e.rightOp

/-- The first of the shortest texts. -/
def shortest : List (List Char) → Option (List Char)
  | [] => none
  | s :: rest =>
    match shortest rest with
    | none => some s
    | some t => if t.length < s.length then some t else some s

def indexOf? (needle : List Char) : List Char → Option Nat
  | [] => if needle.isEmpty then some 0 else none
  | c :: rest => if needle.isPrefixOf (c :: rest) then some 0 else (indexOf? needle rest).map (· + 1)

def commonLength : List Char → List Char → Nat
  | c :: s, d :: t => if c = d then commonLength s t + 1 else 0
  | _, _ => 0

/-- The range of the source to replace: from the first occurrence of the matched text as far as the source agrees with
the shortest completion. Without completions it is empty and at the cursor. -/
def range (q : Question) (texts : List (List Char)) : Int × Int :=
  match shortest texts with
  | none => (q.cursor, q.cursor)
  | some s =>
    match indexOf? q.expression.matchedText q.code with
    | none => (-1, -1)
    | some start => (start, start + commonLength s (q.code.drop start))

def text (s : List Char) : Value := .string (String.ofList s)

def result (q : Question) (texts : List (List Char)) : Object :=
  [("completion", .object
    [("list", .list (texts.map text)), ("code", text q.code), ("cursorPos", .int q.cursor),
      ("matchedText", text q.expression.matchedText), ("cursorStart", .int (range q texts).1),
      ("cursorEnd", .int (range q texts).2)])]

def ofPayload (q : Question) (payload : Object) : Option Object :=
  (names? q.expression payload).map fun names => result q (list q.expression names)

def unsupported (code : List Char) (cursor : Int) : Object := result ⟨code, cursor, {}⟩ []

end Completion

end EvalSession

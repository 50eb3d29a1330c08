import EvalSession.Text.Class

/-!
# The expression left of a cursor

Finds the access expression that ends at a cursor: a bare identifier, or an identifier typed behind `.`, `["` or
`['` on a scope. A scope is a chain: an identifier followed by attribute accesses and quoted subscripts, without
calls. The longest chain that ends before the operator is taken; where there is none the expression is unsupported.
-/
namespace EvalSession

inductive Access where
  | attribute
  | doubleQuoted
  | singleQuoted
  deriving DecidableEq, Repr

namespace Access

def opening : Access → List Char
  | .attribute => ['.']
  | .doubleQuoted => ['[', '"']
  | .singleQuoted => ['[', '\'']

def closing : Access → List Char
  | .attribute => []
  | .doubleQuoted => ['"', ']']
  | .singleQuoted => ['\'', ']']

end Access

/-- A parsed fragment; `matchedText` is the source it was read from. -/
structure Expression where
  matchedText : List Char := []
  scope : List Char := []
  access : Option Access := none
  selector : List Char := []
  deriving DecidableEq, Repr

namespace Expression

def leftOp (e : Expression) : List Char := (e.access.map Access.opening).getD []

def rightOp (e : Expression) : List Char := (e.access.map Access.closing).getD []

/-- What the rest of a text can be read as. -/
structure Reading where
  /-- A chain. -/
  chain : Bool := false
  /-- The rest of an identifier, then segments. -/
  word : Bool := false
  /-- Segments only. -/
  segments : Bool := false
  /-- A double quote that opens a subscript, and what follows. -/
  openDouble : Bool := false
  /-- A single quote that opens a subscript, and what follows. -/
  openSingle : Bool := false
  /-- The rest of a double-quoted subscript, then segments. -/
  double : Bool := false
  /-- The rest of a single-quoted subscript, then segments. -/
  single : Bool := false
  /-- The bracket that closes a subscript, then segments. -/
  bracket : Bool := false
  deriving DecidableEq, Repr

namespace Reading

def nil : Reading := { segments := true, word := true }

def cons (c : Char) (r : Reading) : Reading :=
  let segments := (c == '.' && r.chain) || (c == '[' && (r.openDouble || r.openSingle))
  { chain := Text.isIdentStart c && r.word
    word := segments || (Text.isWord c && r.word)
    segments := segments
    openDouble := c == '"' && r.double
    openSingle := c == '\'' && r.single
    double := (c == '"' && r.bracket) || (c != '\n' && r.double)
    single := (c == '\'' && r.bracket) || (c != '\n' && r.single)
    bracket := c == ']' && r.segments }

def of (s : List Char) : Reading := s.foldr cons nil

end Reading

/-- The readings of a text, and its longest suffix that is a chain. -/
def scan : List Char → Reading × Option (List Char)
  | [] => (.nil, none)
  | c :: rest =>
    let (r, longest) := scan rest
    let here := Reading.cons c r
    (here, if here.chain then some (c :: rest) else longest)

def longestChain (s : List Char) : Option (List Char) := (scan s).2

/-- Cuts the longest identifier off the end of a text. -/
def splitIdent (s : List Char) : List Char × List Char :=
  let backwards := s.reverse
  let word := (backwards.takeWhile Text.isWord).reverse
  let ident := word.dropWhile (!Text.isIdentStart ·)
  (s.take (s.length - ident.length), ident)

/-- Cuts an access operator off the end of a text. -/
def splitAccess (s : List Char) : Option (List Char × Access) :=
  match s.reverse with
  | '.' :: rest => some (rest.reverse, .attribute)
  | '"' :: '[' :: rest => some (rest.reverse, .doubleQuoted)
  | '\'' :: '[' :: rest => some (rest.reverse, .singleQuoted)
  | _ => none

/-- The text before a position; a negative position counts from the end. -/
def before (code : List Char) (position : Int) : List Char :=
  if 0 ≤ position then code.take position.toNat else code.take (code.length - position.natAbs)

/-- The expression that ends a text, `none` where an operator follows no chain. What it was read from is cut out of the
text where the selector starts, or the scope. -/
def ofText (text : List Char) : Option Expression :=
  match text.getLast? with
  | none => some {}
  | some c =>
    if Text.isSpace c then some {}
    else
      let (rest, selector) := splitIdent text
      match splitAccess rest with
      | none => some { matchedText := text.drop rest.length, selector := selector }
      | some (front, access) =>
        (longestChain front).map fun scope =>
          { matchedText := text.drop (front.length - scope.length)
            scope := scope
            access := some access
            selector := selector }

def parse (code : List Char) (cursor : Int) : Option Expression := ofText (before code cursor)

end Expression

end EvalSession

import EvalSession.Text.Class

/-!
# Name patterns

Small patterns over names: an optional anchor at the start, then characters of a class, once or repeated, with one
group, and an optional anchor at the end. A repetition takes as much as the rest of the pattern allows. `substitute`
replaces the leftmost match.
-/
namespace EvalSession.Documentation

inductive Class where
  | char (c : Char)
  | word
  | digit
  | ranges (bounds : List (Char × Char))
  deriving DecidableEq, Repr

def Class.holds : Class → Char → Bool
  | .char d, c => c == d
  | .word, c => Text.isWord c
  | .digit, c => Text.isDigit c
  | .ranges bounds, c => bounds.any fun b => b.1 ≤ c && c ≤ b.2

inductive Piece where
  | one (cls : Class)
  | many (cls : Class)
  | openGroup
  | closeGroup
  /-- The end of the text, or a line feed that ends it. -/
  | atEnd
  deriving DecidableEq, Repr

structure Pattern where
  anchored : Bool
  pieces : List Piece
  deriving DecidableEq, Repr

inductive Part where
  | char (c : Char)
  | group
  deriving DecidableEq, Repr

structure Rule where
  pattern : Pattern
  replacement : List Part
  deriving DecidableEq, Repr

/-- The text of the group and the text behind the match, for a match at the start. -/
def matchHere : List Piece → Bool → List Char → List Char → Option (List Char × List Char)
  | [], _, group, s => some (group, s)
  | .openGroup :: ps, _, _, s => matchHere ps true [] s
  | .closeGroup :: ps, _, group, s => matchHere ps false group s
  | .atEnd :: ps, inGroup, group, s => if s.isEmpty || s == ['\n'] then matchHere ps inGroup group s else none
  | .one cls :: ps, inGroup, group, s =>
    match s with
    | [] => none
    | c :: rest => if cls.holds c then matchHere ps inGroup (if inGroup then group ++ [c] else group) rest else none
  | .many cls :: ps, inGroup, group, s =>
    (List.range (s.takeWhile cls.holds).length).reverse.findSome? fun n =>
      matchHere ps inGroup (if inGroup then group ++ s.take (n + 1) else group) (s.drop (n + 1))

def expand (group : List Char) (parts : List Part) : List Char :=
  parts.flatMap fun
    | .char c => [c]
    | .group => group

/-- Replaces the first match at or behind the start of the text. -/
def substituteFrom (r : Rule) : List Char → List Char
  | [] =>
    match matchHere r.pattern.pieces false [] [] with
    | some (group, rest) => expand group r.replacement ++ rest
    | none => []
  | c :: tail =>
    match matchHere r.pattern.pieces false [] (c :: tail) with
    | some (group, rest) => expand group r.replacement ++ rest
    | none => if r.pattern.anchored then c :: tail else c :: substituteFrom r tail

def Rule.substitute (r : Rule) (text : List Char) : List Char := substituteFrom r text

/-- The bounds of a bracketed class such as `A-Za-z`. -/
def readRanges : List Char → Option (List (Char × Char) × List Char)
  | ']' :: rest => some ([], rest)
  | a :: '-' :: b :: rest => (readRanges rest).map fun (bounds, r) => ((a, b) :: bounds, r)
  | _ => none

def readClass : List Char → Option (Class × List Char)
  | '\\' :: 'w' :: rest => some (.word, rest)
  | '\\' :: 'd' :: rest => some (.digit, rest)
  | '\\' :: c :: rest => some (.char c, rest)
  | '[' :: rest => (readRanges rest).map fun (bounds, r) => (.ranges bounds, r)
  | c :: rest => some (.char c, rest)
  | [] => none

/-- The pieces of a written pattern; every piece takes a character, so its length is enough fuel. -/
def readPieces : Nat → List Char → Option (List Piece)
  | _, [] => some []
  | 0, _ => none
  | fuel + 1, '(' :: rest => (readPieces fuel rest).map (.openGroup :: ·)
  | fuel + 1, ')' :: rest => (readPieces fuel rest).map (.closeGroup :: ·)
  | fuel + 1, '$' :: rest => (readPieces fuel rest).map (.atEnd :: ·)
  | fuel + 1, s =>
    match readClass s with
    | none => none
    | some (cls, '+' :: rest) => (readPieces fuel rest).map (.many cls :: ·)
    | some (cls, rest) => (readPieces fuel rest).map (.one cls :: ·)

def Pattern.ofText? (text : List Char) : Option Pattern :=
  match text with
  | '^' :: rest => (readPieces rest.length rest).map (⟨true, ·⟩)
  | _ => (readPieces text.length text).map (⟨false, ·⟩)

def readParts : List Char → List Part
  | [] => []
  | '\\' :: '1' :: rest => .group :: readParts rest
  | c :: rest => .char c :: readParts rest

def Rule.ofText? (pattern replacement : String) : Option Rule :=
  (Pattern.ofText? pattern.toList).map (⟨·, readParts replacement.toList⟩)

end EvalSession.Documentation

/-!
# Templates

A text with places where another one is inserted. In its source a name in braces marks such a place, and a brace that
stands for itself is doubled. Nothing that is inserted is read again.
-/
namespace EvalSession

/-- A character that stands for itself, or a place where a text is inserted. -/
inductive Piece where
  | char (c : Char)
  | hole
  deriving DecidableEq, Repr

def Piece.fill (text : List Char) : Piece → List Char
  | .char c => [c]
  | .hole => text

namespace Template

/-- Reads the source of a template whose places have this name. Behind an opening brace, what has been read of a name
so far is kept apart. A brace that stands alone is refused, and so is every other name. -/
def readPieces (name : List Char) : Option (List Char) → List Char → Option (List Piece)
  | none, [] => some []
  | none, '\x7b' :: '\x7b' :: rest => (readPieces name none rest).map (.char '\x7b' :: ·)
  | none, '\x7d' :: '\x7d' :: rest => (readPieces name none rest).map (.char '\x7d' :: ·)
  | none, c :: rest =>
    if c = '\x7b' then readPieces name (some []) rest
    else if c = '\x7d' then none
    else (readPieces name none rest).map (.char c :: ·)
  | some _, [] => none
  | some word, c :: rest =>
    if c = '\x7d' then
      if word = name then (readPieces name none rest).map (.hole :: ·) else none
    else if c = '\x7b' then none
    else readPieces name (some (word ++ [c])) rest

end Template

structure Template (name : String) where
  source : List Char
  pieces : List Piece
  readable : Template.readPieces name.toList none source = some pieces

namespace Template

variable {name : String}

def ofLines (lines : List String) (h : (readPieces name.toList none (lines.flatMap String.toList)).isSome = true) :
    Template name :=
  ⟨lines.flatMap String.toList, _, (Option.some_get h).symm⟩

def fill (t : Template name) (text : String) : String := String.ofList (t.pieces.flatMap (Piece.fill text.toList))

/-- Characters are quicker to check than texts. -/
theorem isSome_readPieces (lines : List (List Char)) (h : (readPieces name.toList none lines.flatten).isSome = true) :
    (readPieces name.toList none ((lines.map String.ofList).flatMap String.toList)).isSome = true := by
  simpa [List.flatMap, Function.comp_def] using h

end Template

end EvalSession

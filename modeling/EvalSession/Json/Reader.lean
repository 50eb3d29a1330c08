import EvalSession.Decimal
import EvalSession.Nesting
import EvalSession.Text.Class

/-!
# Reading JSON

The reader takes JSON and also the numbers `NaN`, `Infinity` and `-Infinity`; the last of several equal keys wins. A
problem is reported with the text from its place on, so the place is a length, and `Failure.message` turns it into
line, column and offset.

`fuel` bounds the number of values, items and members read; every one of them takes a character, so the length of the
text is enough. `room` is how many more arrays and objects may be opened inside each other.
-/
namespace EvalSession.Json

inductive Problem where
  | value
  | extraData
  | propertyName
  | colon
  | comma
  | unterminated
  | controlCharacter
  | escape
  | unicodeEscape
  | byteOrderMark
  | integerTooLong
  | tooDeep (o : Overrun)
  deriving DecidableEq, Repr

structure Failure where
  problem : Problem
  rest : List Char
  deriving DecidableEq, Repr

abbrev Read (α : Type) := Except Failure (α × List Char)

def isBlank (c : Char) : Bool := c == ' ' || c == '\t' || c == '\n' || c == '\r'

def skipBlanks (s : List Char) : List Char := s.dropWhile isBlank

/-- Characters and `\u` escapes of a string as code points; a surrogate comes from an escape only. -/
def readUnits (start : List Char) : List Char → Read (List Nat)
  | [] => .error ⟨.unterminated, start⟩
  | '"' :: rest => .ok ([], rest)
  | ['\\'] => .error ⟨.unterminated, start⟩
  | '\\' :: 'u' :: rest =>
    match rest with
    | a :: b :: c :: d :: e :: more =>
      if [a, b, c, d].all Text.isHexDigit then
        match readUnits start (e :: more) with
        | .error f => .error f
        | .ok (units, rest) => .ok (Text.ofDigits 16 [a, b, c, d] :: units, rest)
      else .error ⟨.unicodeEscape, 'u' :: rest⟩
    | _ => .error ⟨.unicodeEscape, 'u' :: rest⟩
  | '\\' :: c :: rest =>
    let code : Option Nat :=
      match c with
      | '"' => some 0x22
      | '\\' => some 0x5C
      | '/' => some 0x2F
      | 'b' => some 0x8
      | 'f' => some 0xC
      | 'n' => some 0xA
      | 'r' => some 0xD
      | 't' => some 0x9
      | _ => none
    match code with
    | none => .error ⟨.escape, '\\' :: c :: rest⟩
    | some n =>
      match readUnits start rest with
      | .error f => .error f
      | .ok (units, rest) => .ok (n :: units, rest)
  | c :: rest =>
    if c.toNat < 0x20 then .error ⟨.controlCharacter, c :: rest⟩
    else
      match readUnits start rest with
      | .error f => .error f
      | .ok (units, rest) => .ok (c.toNat :: units, rest)

/-- Joins the two halves of a surrogate pair; a lone half becomes the replacement character. -/
def joinUnits : List Nat → List Char
  | [] => []
  | [n] => [if 0xD800 ≤ n && n < 0xE000 then '\uFFFD' else Char.ofNat n]
  | n :: m :: rest =>
    if 0xD800 ≤ n && n < 0xDC00 && 0xDC00 ≤ m && m < 0xE000 then
      Char.ofNat (0x10000 + (n - 0xD800) * 0x400 + (m - 0xDC00)) :: joinUnits rest
    else if 0xD800 ≤ n && n < 0xE000 then '\uFFFD' :: joinUnits (m :: rest)
    else Char.ofNat n :: joinUnits (m :: rest)

/-- A string from behind its opening quote; `start` is the text from that quote on. -/
def readString (start rest : List Char) : Read String :=
  match readUnits start rest with
  | .error f => .error f
  | .ok (units, rest) => .ok (String.ofList (joinUnits units), rest)

def readWhole : List Char → Option (List Char × List Char)
  | '0' :: rest => some (['0'], rest)
  | c :: rest => if c.isDigit then some (c :: rest.takeWhile Char.isDigit, rest.dropWhile Char.isDigit) else none
  | [] => none

/-- Digits behind a point; a point without digits is left unread. -/
def readFraction : List Char → List Char × List Char
  | '.' :: rest => if (rest.takeWhile Char.isDigit).isEmpty then ([], '.' :: rest)
      else (rest.takeWhile Char.isDigit, rest.dropWhile Char.isDigit)
  | s => ([], s)

/-- An exponent with its sign; one without digits is left unread. -/
def readExponent (s : List Char) : Option Int × List Char :=
  match s with
  | e :: rest =>
    if e == 'e' || e == 'E' then
      let (negative, digits) := match rest with
        | '-' :: r => (true, r)
        | '+' :: r => (false, r)
        | r => (false, r)
      let run := digits.takeWhile Char.isDigit
      if run.isEmpty then (none, s)
      else
        let size : Int := Text.ofDigits 10 run
        (some (if negative then -size else size), digits.dropWhile Char.isDigit)
    else (none, s)
  | [] => (none, s)

def maxIntegerDigits : Nat := 4300

def readNumber (s : List Char) : Read Value :=
  let (negative, body) := match s with
    | '-' :: r => (true, r)
    | r => (false, r)
  match readWhole body with
  | none => .error ⟨.value, s⟩
  | some (whole, r) =>
    let (fraction, r) := readFraction r
    let (exponent, r) := readExponent r
    if fraction.isEmpty && exponent.isNone then
      if whole.length > maxIntegerDigits then .error ⟨.integerTooLong, s⟩
      else
        let n : Int := Text.ofDigits 10 whole
        .ok (.int (if negative then -n else n), r)
    else
      let digits := Text.ofDigits 10 (whole ++ fraction)
      .ok (.float (Binary64.ofDecimal negative digits (exponent.getD 0 - fraction.length)), r)

mutual

/-- A value at the start of the text. -/
def readValue : Nat → Nat → List Char → Read Value
  | 0, _, s => .error ⟨.value, s⟩
  | fuel + 1, room, s =>
    match s with
    | '"' :: r =>
      match readString s r with
      | .error f => .error f
      | .ok (t, r) => .ok (.string t, r)
    | '\x7b' :: r =>
      match room with
      | 0 => .error ⟨.tooDeep .object, s⟩
      | room + 1 =>
        match skipBlanks r with
        | '\x7d' :: r => .ok (.object [], r)
        | r =>
          match readMembers fuel room [] r with
          | .error f => .error f
          | .ok (fields, r) => .ok (.object fields, r)
    | '[' :: r =>
      match room with
      | 0 => .error ⟨.tooDeep .array, s⟩
      | room + 1 =>
        match skipBlanks r with
        | ']' :: r => .ok (.list [], r)
        | r =>
          match readItems fuel room r with
          | .error f => .error f
          | .ok (items, r) => .ok (.list items, r)
    | 'n' :: 'u' :: 'l' :: 'l' :: r => .ok (.null, r)
    | 't' :: 'r' :: 'u' :: 'e' :: r => .ok (.bool true, r)
    | 'f' :: 'a' :: 'l' :: 's' :: 'e' :: r => .ok (.bool false, r)
    | 'N' :: 'a' :: 'N' :: r => .ok (.float Binary64.nan, r)
    | 'I' :: 'n' :: 'f' :: 'i' :: 'n' :: 'i' :: 't' :: 'y' :: r => .ok (.float (Binary64.infinity false), r)
    | '-' :: 'I' :: 'n' :: 'f' :: 'i' :: 'n' :: 'i' :: 't' :: 'y' :: r => .ok (.float (Binary64.infinity true), r)
    | _ => readNumber s

def readItems : Nat → Nat → List Char → Read (List Value)
  | 0, _, s => .error ⟨.value, s⟩
  | fuel + 1, room, s =>
    match readValue fuel room s with
    | .error f => .error f
    | .ok (v, r) =>
      match skipBlanks r with
      | ']' :: r => .ok ([v], r)
      | ',' :: r =>
        match readItems fuel room (skipBlanks r) with
        | .error f => .error f
        | .ok (vs, r) => .ok (v :: vs, r)
      | r => .error ⟨.comma, r⟩

/-- One or more members up to the closing brace, put into the object read so far. -/
def readMembers : Nat → Nat → Object → List Char → Read Object
  | 0, _, _, s => .error ⟨.value, s⟩
  | fuel + 1, room, seen, s =>
    match s with
    | '"' :: r =>
      match readString s r with
      | .error f => .error f
      | .ok (key, r) =>
        match skipBlanks r with
        | ':' :: r =>
          match readValue fuel room (skipBlanks r) with
          | .error f => .error f
          | .ok (v, r) =>
            let seen := seen.put key v
            match skipBlanks r with
            | '\x7d' :: r => .ok (seen, r)
            | ',' :: r => readMembers fuel room seen (skipBlanks r)
            | r => .error ⟨.comma, r⟩
        | r => .error ⟨.colon, r⟩
    | _ => .error ⟨.propertyName, s⟩

end

/-- Reads a whole text, blanks around the value allowed, that nests no deeper than there is room. -/
def readWithin (room : Nat) (text : List Char) : Except Failure Value :=
  match text with
  | '\uFEFF' :: _ => .error ⟨.byteOrderMark, text⟩
  | _ =>
    match readValue (2 * text.length + 2) room (skipBlanks text) with
    | .error f => .error f
    | .ok (v, r) =>
      match skipBlanks r with
      | [] => .ok v
      | rest => .error ⟨.extraData, rest⟩

/-- Reads a whole text, however deep it nests. -/
def read (text : List Char) : Except Failure Value := readWithin text.length text

def Problem.text : Problem → String
  | .value => "Expecting value"
  | .extraData => "Extra data"
  | .propertyName => "Expecting property name enclosed in double quotes"
  | .colon => "Expecting ':' delimiter"
  | .comma => "Expecting ',' delimiter"
  | .unterminated => "Unterminated string starting at"
  | .controlCharacter => "Invalid control character at"
  | .escape => "Invalid \\escape"
  | .unicodeEscape => "Invalid \\uXXXX escape"
  | .byteOrderMark => "Unexpected UTF-8 BOM (decode using utf-8-sig)"
  | .integerTooLong => "Exceeds the limit (4300 digits) for integer string conversion"
  | .tooDeep o => o.text

/-- The problem and its place: the line and the column, both from 1, and the offset from 0. -/
def Failure.message (f : Failure) (text : List Char) : String :=
  let before := text.take (text.length - f.rest.length)
  let line := before.count '\n' + 1
  let column := (before.reverse.takeWhile (· != '\n')).length + 1
  s!"{f.problem.text}: line {line} column {column} (char {before.length})"

end EvalSession.Json

import EvalSession.Decimal
import EvalSession.Text.Class

/-!
# Typed fields of objects

Readers for the fields of objects that come from outside. They are lenient about numbers and booleans written in
other forms, strict about everything else, and report every problem of an object at once, in field order.
-/
namespace EvalSession.Field

inductive Kind where
  | missing
  | stringType
  | listType
  | objectType
  | recordType
  | intType
  | intParsing
  | intParsingSize
  | intFromFloat
  | finiteNumber
  | boolType
  | boolParsing
  | floatType
  | floatParsing
  | enumeration
  | notAtLeast
  | notAbove
  | tooShort
  | notListed
  | notCallable
  /-- A check of the field's own failed with this text. -/
  | refused (text : String)
  deriving DecidableEq, Repr

def Kind.name : Kind → String
  | .missing => "missing"
  | .stringType => "string_type"
  | .listType => "list_type"
  | .objectType => "dict_type"
  | .recordType => "model_type"
  | .intType => "int_type"
  | .intParsing => "int_parsing"
  | .intParsingSize => "int_parsing_size"
  | .intFromFloat => "int_from_float"
  | .finiteNumber => "finite_number"
  | .boolType => "bool_type"
  | .boolParsing => "bool_parsing"
  | .floatType => "float_type"
  | .floatParsing => "float_parsing"
  | .enumeration => "enum"
  | .notAtLeast => "greater_than_equal"
  | .notAbove => "greater_than"
  | .tooShort => "string_too_short"
  | .notListed => "literal_error"
  | .notCallable => "callable_type"
  | .refused _ => "value_error"

/-- What is wrong, and where: the keys and indices that lead to the place. -/
structure Problem where
  path : List String
  kind : Kind
  deriving DecidableEq, Repr

def Problem.location (p : Problem) : String := ".".intercalate p.path

abbrev Checked (α : Type) := Except (List Problem) α

def fail {α : Type} (kind : Kind) : Checked α := .error [⟨[], kind⟩]

def within {α : Type} (key : String) : Checked α → Checked α
  | .error ps => .error (ps.map fun p => ⟨key :: p.path, p.kind⟩)
  | .ok a => .ok a

/-- Both results, or the problems of both. -/
def both {α β : Type} : Checked α → Checked β → Checked (α × β)
  | .ok a, .ok b => .ok (a, b)
  | .ok _, .error q => .error q
  | .error p, .ok _ => .error p
  | .error p, .error q => .error (p ++ q)

def string : Value → Checked String
  | .string s => .ok s
  | _ => fail .stringType

def object : Value → Checked Object
  | .object o => .ok o
  | _ => fail .objectType

def nullable {α : Type} (read : Value → Checked α) : Value → Checked (Option α)
  | .null => .ok none
  | v => (read v).map some

def stringsFrom (index : Nat) : List Value → Checked (List String)
  | [] => .ok []
  | v :: rest => (both (within (toString index) (string v)) (stringsFrom (index + 1) rest)).map fun p => p.1 :: p.2

def strings : Value → Checked (List String)
  | .list items => stringsFrom 0 items
  | _ => fail .listType

/-- White space around a number, which the information separators are not. -/
def isPadding (c : Char) : Bool := Text.isSpace c && !(0x1C ≤ c.toNat && c.toNat ≤ 0x1F)

def trim (s : List Char) : List Char :=
  ((s.dropWhile isPadding).reverse.dropWhile isPadding).reverse

/-- The digits of a run in which single underscores may stand between digits. -/
def digitRun : List Char → Option (List Char)
  | [] => none
  | [c] => if c.isDigit then some [c] else none
  | c :: '_' :: rest => if c.isDigit then (digitRun rest).map (c :: ·) else none
  | c :: rest => if c.isDigit then (digitRun rest).map (c :: ·) else none

def splitSign : List Char → Bool × List Char
  | '-' :: r => (true, r)
  | '+' :: r => (false, r)
  | r => (false, r)

def maxIntegerLength : Nat := 4300

/-- An integer written out, with a fraction of zeros or none. -/
def intOfText (text : List Char) : Checked Int :=
  let s := trim text
  if s.length > maxIntegerLength then fail .intParsingSize
  else
    let (negative, body) := splitSign s
    let whole := body.takeWhile (· != '.')
    let fraction := (body.dropWhile (· != '.')).drop 1
    match digitRun whole, fraction.all (· == '0') with
    | some digits, true =>
      let n : Int := Text.ofDigits 10 digits
      .ok (if negative then -n else n)
    | _, _ => fail .intParsing

def intOfFloat (x : Binary64) : Checked Int :=
  match x.parts? with
  | none => fail .finiteNumber
  | some _ =>
    match x.toInt? with
    | none => fail .intFromFloat
    | some n => if -Int.pow 2 63 < n ∧ n < Int.pow 2 63 then .ok n else fail .intParsingSize

def int : Value → Checked Int
  | .int n => .ok n
  | .bool b => .ok (if b then 1 else 0)
  | .float x => intOfFloat x
  | .string s => intOfText s.toList
  | _ => fail .intType

/-- The exponent behind a mantissa; no text is no exponent. -/
def exponentOf (s : List Char) : Option Int :=
  match s with
  | [] => some 0
  | e :: rest =>
    let (negative, digits) := splitSign rest
    if (e == 'e' || e == 'E') && !digits.isEmpty && digits.all Char.isDigit then
      some (if negative then -(Text.ofDigits 10 digits : Int) else Text.ofDigits 10 digits)
    else none

/-- A number with digits before or behind its point. -/
def decimalOf (negative : Bool) (body : List Char) : Option Binary64 :=
  let whole := body.takeWhile Char.isDigit
  let rest := body.dropWhile Char.isDigit
  let fraction := match rest with
    | '.' :: r => r.takeWhile Char.isDigit
    | _ => []
  let tail := match rest with
    | '.' :: r => r.dropWhile Char.isDigit
    | _ => rest
  if whole.isEmpty && fraction.isEmpty then none
  else
    (exponentOf tail).map fun e =>
      Binary64.ofDecimal negative (Text.ofDigits 10 (whole ++ fraction)) (e - fraction.length)

/-- A float written out, or a name for infinity or no number in any case. -/
def floatOfPlain (s : List Char) : Option Binary64 :=
  let (negative, body) := splitSign s
  let word := String.ofList (body.map Char.toLower)
  if word == "inf" || word == "infinity" then some (Binary64.infinity negative)
  else if word == "nan" then some Binary64.nan
  else decimalOf negative body

def spacedOut : List Char → Bool
  | [] => true
  | ['_'] => false
  | '_' :: '_' :: _ => false
  | _ :: rest => spacedOut rest

def floatOfText (text : List Char) : Checked Binary64 :=
  let s := trim text
  let plain := if s.head? != some '_' && spacedOut s then s.filter (· != '_') else s
  match floatOfPlain plain with
  | some x => .ok x
  | none => fail .floatParsing

def float : Value → Checked Binary64
  | .float x => .ok x
  | .int n =>
    let x := Binary64.ofRatio (decide (n < 0)) n.natAbs 1
    if x.isInfinite then fail .floatType else .ok x
  | .bool b => .ok (Binary64.ofRatio false (if b then 1 else 0) 1)
  | .string s => floatOfText s.toList
  | _ => fail .floatType

def boolOfWord (word : String) : Option Bool :=
  if ["0", "off", "f", "false", "n", "no"].contains word then some false
  else if ["1", "on", "t", "true", "y", "yes"].contains word then some true
  else none

def bool : Value → Checked Bool
  | .bool b => .ok b
  | .int n => if n = 0 then .ok false else if n = 1 then .ok true else fail .boolParsing
  | .float x =>
    match x.toInt? with
    | some 0 => .ok false
    | some 1 => .ok true
    | _ => fail .boolType
  | .string s =>
    match boolOfWord (String.ofList (s.toList.map Char.toLower)) with
    | some b => .ok b
    | none => fail .boolParsing
  | _ => fail .boolType

def required {α : Type} (o : Object) (key : String) (read : Value → Checked α) : Checked α :=
  within key <|
    match o.get? key with
    | none => fail .missing
    | some v => read v

def optional {α : Type} (o : Object) (key : String) (default : α) (read : Value → Checked α) : Checked α :=
  within key <|
    match o.get? key with
    | none => .ok default
    | some v => read v

def summary (count : Nat) (record : String) : String :=
  let errors := if count == 1 then "error" else "errors"
  s!"{count} validation {errors} for {record}"

end EvalSession.Field

import EvalSession.Text.Class
import EvalSession.Value

/-!
# Files of assignments

A line assigns a value to a name: `NAME=value`, after the word `export` or not. A value may be bare, up to the end of
the line or a comment behind a blank, or it may be in quotes and run over several lines. A line that cannot be read is
skipped from where reading fails. References such as `${NAME}` and `${NAME:-default}` are replaced in all values.
-/
namespace EvalSession.Settings

/-- A name with its value; a name alone has none. -/
structure Assignment where
  name : String
  value : Option (List Char)
  deriving DecidableEq, Repr

def unifyLines : List Char → List Char
  | [] => []
  | '\r' :: '\n' :: rest => '\n' :: unifyLines rest
  | '\r' :: rest => '\n' :: unifyLines rest
  | c :: rest => c :: unifyLines rest

def isGap (c : Char) : Bool := Text.isSpace c && c != '\n'

def skipGap (s : List Char) : List Char := s.dropWhile isGap

def skipLine (s : List Char) : List Char := (s.dropWhile (· != '\n')).drop 1

/-- The text up to the quote that closes it and the text behind. A backslash keeps the quote after it from closing,
unless no other quote is left. -/
def closeQuote (quote : Char) : List Char → Option (List Char × List Char)
  | [] => none
  | '\\' :: c :: rest =>
    if c = quote then
      match closeQuote quote rest with
      | some (inner, after) => some ('\\' :: c :: inner, after)
      | none => some (['\\'], rest)
    else (closeQuote quote (c :: rest)).map fun p => ('\\' :: p.1, p.2)
  | c :: rest => if c = quote then some ([], rest) else (closeQuote quote rest).map fun p => (c :: p.1, p.2)

/-- What a backslash and a character stand for between double quotes. -/
def doubleEscape : Char → Option Char
  | '\\' => some '\\'
  | '\'' => some '\''
  | '"' => some '"'
  | 'a' => some '\x07'
  | 'b' => some '\x08'
  | 'f' => some '\x0c'
  | 'n' => some '\n'
  | 'r' => some '\r'
  | 't' => some '\t'
  | 'v' => some '\x0b'
  | _ => none

def singleEscape : Char → Option Char
  | '\\' => some '\\'
  | '\'' => some '\''
  | _ => none

def unescape (escape : Char → Option Char) : List Char → List Char
  | [] => []
  | '\\' :: c :: rest =>
    match escape c with
    | some d => d :: unescape escape rest
    | none => '\\' :: unescape escape (c :: rest)
  | c :: rest => c :: unescape escape rest

/-- A comment starts at blanks with a hash behind them. -/
def beforeComment : List Char → List Char
  | [] => []
  | c :: rest =>
    if Text.isSpace c && (rest.dropWhile Text.isSpace).head? == some '#' then [] else c :: beforeComment rest

def dropTrailing (isBlank : Char → Bool) (s : List Char) : List Char := (s.reverse.dropWhile isBlank).reverse

abbrev Scan (α : Type) := Except (List Char) (α × List Char)

def scanQuoted (quote : Char) (escape : Char → Option Char) (all inner : List Char) : Scan (List Char) :=
  match closeQuote quote inner with
  | some (text, rest) => .ok (unescape escape text, rest)
  | none => .error all

def scanValue (s : List Char) : Scan (List Char) :=
  match s with
  | '\'' :: rest => scanQuoted '\'' singleEscape s rest
  | '"' :: rest => scanQuoted '"' doubleEscape s rest
  | _ =>
    let line := s.takeWhile (· != '\n')
    .ok (dropTrailing Text.isSpace (beforeComment line), s.dropWhile (· != '\n'))

/-- A name, bare or in single quotes; a comment stands for none. -/
def scanName (s : List Char) : Scan (Option (List Char)) :=
  let isBare (c : Char) : Bool := c != '=' && c != '#' && !Text.isSpace c
  match s with
  | '#' :: _ => .ok (none, s)
  | '\'' :: rest =>
    let name := rest.takeWhile (· != '\'')
    match name.isEmpty, rest.dropWhile (· != '\'') with
    | false, _ :: after => .ok (some name, after)
    | _, _ => .error s
  | _ => if (s.takeWhile isBare).isEmpty then .error s else .ok (some (s.takeWhile isBare), s.dropWhile isBare)

def skipExport (s : List Char) : List Char :=
  if "export".toList.isPrefixOf s && ((s.drop 6).head?.map isGap).getD false then skipGap (s.drop 6) else s

/-- The rest behind a comment, if any, and the end of the line. -/
def scanLineEnd (s : List Char) : Scan Unit :=
  let s := match skipGap s with
    | '#' :: rest => rest.dropWhile (· != '\n')
    | _ => s
  match skipGap s with
  | [] => .ok ((), [])
  | '\n' :: rest => .ok ((), rest)
  | _ => .error s

def scanEquals (s : List Char) : Scan (Option (List Char)) :=
  match skipGap s with
  | '=' :: rest => (scanValue (skipGap rest)).map fun p => (some p.1, p.2)
  | s => .ok (none, s)

/-- One line, or more if a quoted value runs over them. -/
def scanAssignment (s : List Char) : Scan (Option Assignment) :=
  match scanName (skipExport s) with
  | .error rest => .error rest
  | .ok (name, s) =>
    match scanEquals s with
    | .error rest => .error rest
    | .ok (value, s) =>
      (scanLineEnd s).map fun p => (name.map fun n => ⟨String.ofList n, value⟩, p.2)

def assignmentsFrom : Nat → List Char → List Assignment
  | 0, _ => []
  | fuel + 1, s =>
    match s.dropWhile Text.isSpace with
    | [] => []
    | s =>
      match scanAssignment s with
      | .ok (a, rest) => a.toList ++ assignmentsFrom fuel rest
      | .error rest => assignmentsFrom fuel (skipLine rest)

def assignments (text : String) : List Assignment :=
  let s := unifyLines text.toList
  assignmentsFrom s.length s

/-- A reference at the start of a text behind `${`: the name, the default if any, and the text behind it. -/
def scanReference (s : List Char) : Option (String × Option (List Char) × List Char) :=
  let isName (c : Char) : Bool := c != '\x7d' && c != ':'
  let name := String.ofList (s.takeWhile isName)
  match s.dropWhile isName with
  | '\x7d' :: rest => some (name, none, rest)
  | ':' :: '-' :: rest =>
    match rest.dropWhile (· != '\x7d') with
    | _ :: after => some (name, some (rest.takeWhile (· != '\x7d')), after)
    | [] => none
  | _ => none

/-- Replaces the references in a value of at most `fuel` characters. A known name without a value stands for nothing. -/
def expandFrom (known : Object) : Nat → List Char → List Char
  | 0, s => s
  | _, [] => []
  | fuel + 1, '$' :: '\x7b' :: rest =>
    match scanReference rest with
    | none => '$' :: expandFrom known fuel ('\x7b' :: rest)
    | some (name, default, after) =>
      let text := match known.get? name with
        | some (.string s) => s.toList
        | some _ => []
        | none => default.getD []
      text ++ expandFrom known fuel after
  | fuel + 1, c :: rest => c :: expandFrom known fuel rest

/-- The variables that a file assigns: each value is expanded by those before it and the given ones, and the last value
of a name counts. A name without a value is null. -/
def assigned (given : Object) (text : String) : Object :=
  (assignments text).foldl (fun acc a =>
    let known := Object.update given acc
    let value : Value := match a.value with
      | none => .null
      | some v => .string (String.ofList (expandFrom known v.length v))
    acc.put a.name value) []

end EvalSession.Settings

import EvalSession.Nesting
import EvalSession.Text.Class

/-!
# Tokens of the evaluated language

Cuts the text of an expression into tokens. Numbers are kept as their kind, quoted texts are decoded. Line ends, and
blanks at the start of a line that is not empty, count outside brackets only. Where no token can be read the last one is
`broken`: what stands before it is looked at first.

`fuel` bounds the number of tokens; each takes a character.
-/
namespace EvalSession.Literal

inductive Number where
  | int
  | float
  | complex
  deriving DecidableEq, Repr

inductive Token where
  | name (s : List Char)
  | number (kind : Number)
  /-- A quoted text, as code points; an escape may give half of a surrogate pair. -/
  | text (units : List Nat)
  | bytes (octets : List Nat)
  /-- A quoted text with fields to fill in. -/
  | formatted
  | symbol (s : List Char)
  | newline
  /-- Blanks at the start of a line; nothing behind them is read. -/
  | indent
  | broken
  deriving DecidableEq, Repr

/-- Why a text is no expression, or none that can be read. -/
inductive SyntaxFault where
  | malformed
  | indented
  | nullCharacter
  | tooDeep (o : Overrun)
  deriving DecidableEq, Repr

abbrev Lexed (α : Type) := Except SyntaxFault α

/-- The raw body of a quoted text and what follows its closing quotes; an escaped character stays with its backslash. -/
def scanBody (quote : Char) (triple : Bool) : List Char → Option (List Char × List Char)
  | [] => none
  | '\\' :: c :: rest => (scanBody quote triple rest).map fun (b, r) => ('\\' :: c :: b, r)
  | c :: rest =>
    if c == quote && (!triple || (rest.take 2 == [quote, quote])) then
      some ([], if triple then rest.drop 2 else rest)
    else if c == '\\' || (c == '\n' && !triple) then none
    else (scanBody quote triple rest).map fun (b, r) => (c :: b, r)

def isOctal (c : Char) : Bool := '0' ≤ c && c ≤ '7'

def simpleEscape (c : Char) : Option Nat :=
  match c with
  | '\\' => some 0x5C
  | '\'' => some 0x27
  | '"' => some 0x22
  | 'a' => some 0x7
  | 'b' => some 0x8
  | 'f' => some 0xC
  | 'n' => some 0xA
  | 'r' => some 0xD
  | 't' => some 0x9
  | 'v' => some 0xB
  | _ => none

def takeHex (count : Nat) (s : List Char) : Option (Nat × List Char) :=
  let digits := s.take count
  if digits.length == count && digits.all Text.isHexDigit then some (Text.ofDigits 16 digits, s.drop count) else none

/-- One escape from behind its backslash: the unit it stands for, if any, and the rest. An unknown escape stands for
itself. `wide` admits the forms that name a code point. -/
def readEscape (wide : Bool) : List Char → Option (List Nat × List Char)
  | [] => none
  | '\n' :: rest => some ([], rest)
  | 'x' :: rest => (takeHex 2 rest).map fun (n, r) => ([n], r)
  | c :: rest =>
    match simpleEscape c with
    | some n => some ([n], rest)
    | none =>
      if isOctal c then
        let more := (rest.take 2).takeWhile isOctal
        some ([Text.ofDigits 8 (c :: more)], rest.drop more.length)
      else if wide && c == 'u' then (takeHex 4 rest).map fun (n, r) => ([n], r)
      else if wide && c == 'U' then
        (takeHex 8 rest).bind fun (n, r) => if n < 0x110000 then some ([n], r) else none
      else if wide && c == 'N' then none
      else some ([0x5C, c.toNat], rest)

/-- The units of a body; every step takes a character, so its length is enough fuel. -/
def decodeBody (raw wide : Bool) : Nat → List Char → Option (List Nat)
  | _, [] => some []
  | 0, _ => none
  | fuel + 1, c :: rest =>
    if c == '\\' && !raw then
      (readEscape wide rest).bind fun (units, r) => (decodeBody raw wide fuel r).map (units ++ ·)
    else (decodeBody raw wide fuel rest).map (c.toNat :: ·)

/-- The kinds of quoted text that a run of letters before the quote asks for: raw, of octets, with fields. -/
def quotePrefix (letters : List Char) : Option (Bool × Bool × Bool) :=
  match String.ofList (letters.map Char.toLower) with
  | "" => some (false, false, false)
  | "u" => some (false, false, false)
  | "r" => some (true, false, false)
  | "b" => some (false, true, false)
  | "br" => some (true, true, false)
  | "rb" => some (true, true, false)
  | "f" => some (false, false, true)
  | "fr" => some (true, false, true)
  | "rf" => some (true, false, true)
  | _ => none

/-- Whether the fields of a formatted text are well formed, as far as their braces tell; `depth` counts open braces
and `filled` whether the field holds anything yet. -/
def fieldsClose : Nat → Bool → List Char → Bool
  | 0, _, '\x7b' :: '\x7b' :: rest => fieldsClose 0 false rest
  | 0, _, '\x7d' :: '\x7d' :: rest => fieldsClose 0 false rest
  | 0, _, '\x7b' :: rest => fieldsClose 1 false rest
  | 0, _, '\x7d' :: _ => false
  | 0, _, _ :: rest => fieldsClose 0 false rest
  | 0, _, [] => true
  | _ + 1, _, [] => false
  | d + 1, filled, '\x7d' :: rest => filled && fieldsClose d true rest
  | d + 1, _, '\x7b' :: rest => fieldsClose (d + 2) false rest
  | d + 1, filled, c :: rest => fieldsClose (d + 1) (filled || !(c == ' ' || c == '!' || c == ':')) rest

def readQuoted (raw octets fields : Bool) (quote : Char) (s : List Char) : Option (Token × List Char) :=
  let triple := s.take 3 == [quote, quote, quote]
  match scanBody quote triple (s.drop (if triple then 3 else 1)) with
  | none => none
  | some (body, rest) =>
    if octets && body.any (fun c => 128 ≤ c.toNat) then none
    else if fields then if fieldsClose 0 false body then some (.formatted, rest) else none
    else
      (decodeBody raw (!octets) body.length body).map fun units =>
        (if octets then .bytes (units.map (· % 256)) else .text units, rest)

/-- Digits with single underscores between them; nothing if the text starts with no digit. -/
def takeDigits (isDigit : Char → Bool) : List Char → List Char × List Char
  | [] => ([], [])
  | '_' :: c :: rest => if isDigit c then
      let (d, r) := takeDigits isDigit rest
      (c :: d, r)
    else ([], '_' :: c :: rest)
  | c :: rest => if isDigit c then
      let (d, r) := takeDigits isDigit rest
      (c :: d, r)
    else ([], c :: rest)

/-- Words that may follow a number without a blank. -/
def numberFollowers : List String := ["and", "else", "for", "if", "in", "is", "not", "or"]

def endsNumber (rest : List Char) : Bool :=
  match rest with
  | [] => true
  | c :: _ => !Text.isWord c || numberFollowers.contains (String.ofList (rest.takeWhile Text.isWord))

def maxIntegerDigits : Nat := 4300

/-- A number in a base named by a letter behind a zero. -/
def readBased (isDigit : Char → Bool) (s : List Char) : Option (Number × List Char) :=
  let (digits, rest) := takeDigits isDigit s
  if digits.isEmpty then none else some (.int, rest)

def readDecimal (s : List Char) : Option (Number × List Char) :=
  let (whole, r) := if s.head?.any Char.isDigit then takeDigits Char.isDigit s else ([], s)
  let (pointed, r) := match r with
    | '.' :: f => (true, if f.head?.any Char.isDigit then (takeDigits Char.isDigit f).2 else f)
    | r => (false, r)
  let (scaled, r) := match r with
    | e :: x =>
      if e == 'e' || e == 'E' then
        let y := match x with
          | '+' :: y => y
          | '-' :: y => y
          | y => y
        if y.head?.any Char.isDigit then (true, (takeDigits Char.isDigit y).2) else (false, r)
      else (false, r)
    | [] => (false, r)
  match r with
  | j :: more =>
    if j == 'j' || j == 'J' then some (.complex, more)
    else if pointed || scaled then some (.float, r)
    else if whole.head? == some '0' && whole.any (· != '0') then none
    else if whole.length > maxIntegerDigits then none
    else some (.int, r)
  | [] =>
    if pointed || scaled then some (.float, r)
    else if whole.head? == some '0' && whole.any (· != '0') then none
    else if whole.length > maxIntegerDigits then none
    else some (.int, r)

def readNumber (s : List Char) : Option (Number × List Char) :=
  let number := match s with
    | '0' :: c :: rest =>
      if c == 'x' || c == 'X' then readBased Text.isHexDigit rest
      else if c == 'o' || c == 'O' then readBased isOctal rest
      else if c == 'b' || c == 'B' then readBased (fun d => d == '0' || d == '1') rest
      else readDecimal s
    | _ => readDecimal s
  number.filter fun (_, rest) => endsNumber rest

/-- Symbols, longer ones before those they start with. -/
def symbols : List (List Char) :=
  ["**=", "//=", ">>=", "<<=", "...", "!=", "==", "<=", ">=", "->", ":=", "+=", "-=", "*=", "/=", "%=", "@=", "&=",
    "|=", "^=", "**", "//", "<<", ">>", "+", "-", "*", "/", "%", "@", "&", "|", "^", "~", "<", ">", "(", ")", "[",
    "]", "\x7b", "\x7d", ",", ":", ".", ";", "="].map String.toList

def readSymbol (s : List Char) : Option (List Char × List Char) :=
  (symbols.find? (·.isPrefixOf s)).map fun t => (t, s.drop t.length)

def opens (s : List Char) : Bool := s == ['('] || s == ['['] || s == ['\x7b']

def closes (s : List Char) : Bool := s == [')'] || s == [']'] || s == ['\x7d']

def isSpacing (c : Char) : Bool := c == ' ' || c == '\t' || c == '\x0c'

/-- A word, or the quoted text that it introduces. -/
def readWord (s : List Char) : Option (Token × List Char) :=
  let word := s.takeWhile Text.isWord
  let rest := s.dropWhile Text.isWord
  match rest, quotePrefix word with
  | q :: _, some (raw, octets, fields) =>
    if q == '"' || q == '\'' then readQuoted raw octets fields q rest else some (.name word, rest)
  | _, _ => some (.name word, rest)

def readToken (s : List Char) : Option (Token × List Char) :=
  match s with
  | [] => none
  | c :: rest =>
    if c == '"' || c == '\'' then readQuoted false false false c s
    else if c.isDigit || (c == '.' && rest.head?.any Char.isDigit) then
      (readNumber s).map fun (k, r) => (.number k, r)
    else if Text.isIdentStart c then readWord s
    else (readSymbol s).map fun (t, r) => (.symbol t, r)

/-- The width of the blanks that a line starts with, and the line behind them. A form feed starts anew; of a line that
is continued the first width counts. `none` if a backslash is not at the end of its line or the text. -/
def lineStart : Nat → Nat → List Char → Option (Nat × List Char)
  | width, kept, ' ' :: rest => lineStart (width + 1) kept rest
  | width, kept, '\t' :: rest => lineStart ((width / 8 + 1) * 8) kept rest
  | _, kept, '\x0c' :: rest => lineStart 0 kept rest
  | width, kept, '\\' :: '\n' :: rest =>
    if rest.isEmpty then none else lineStart width (if kept = 0 then width else kept) rest
  | _, _, '\\' :: _ => none
  | width, kept, rest => some (if kept = 0 then width else kept, rest)

def isIndented (line : List Char) : Option Bool :=
  (lineStart 0 0 line).map fun (width, rest) => width != 0 && rest.head? != some '#' && rest.head? != some '\n'

def maxBrackets : Nat := 200

/-- The tokens from a place in a line on. `depth` counts open brackets, `started` tells whether a token was met before,
and `fresh` whether the place is the start of a line. -/
def tokensFrom : Nat → Nat → Bool → Bool → List Char → List Token
  | 0, _, _, _, _ => [.broken]
  | fuel + 1, depth, started, true, s =>
    match isIndented s with
    | none => [.broken]
    | some true => [.indent]
    | some false => tokensFrom fuel depth started false s
  | fuel + 1, depth, started, false, s =>
    match s.dropWhile isSpacing with
    | [] => if depth == 0 then [] else [.broken]
    | '#' :: rest => tokensFrom fuel depth started false (rest.dropWhile (· != '\n'))
    | '\\' :: '\n' :: rest => if rest.isEmpty then [.broken] else tokensFrom fuel depth started false rest
    | '\n' :: rest =>
      if depth == 0 then
        if started then .newline :: tokensFrom fuel depth started true rest else tokensFrom fuel depth started true rest
      else tokensFrom fuel depth started false rest
    | r =>
      match readToken r with
      | none => [.broken]
      | some (.symbol t, rest) =>
        if opens t then
          if depth < maxBrackets then .symbol t :: tokensFrom fuel (depth + 1) true false rest else [.broken]
        else .symbol t :: tokensFrom fuel (if closes t then depth - 1 else depth) true false rest
      | some (t, rest) => t :: tokensFrom fuel depth true false rest

def unifyLineEnds : List Char → List Char
  | [] => []
  | '\r' :: '\n' :: rest => '\n' :: unifyLineEnds rest
  | '\r' :: rest => '\n' :: unifyLineEnds rest
  | c :: rest => c :: unifyLineEnds rest

/-- The tokens of a text without the blanks it starts with. -/
def tokens (text : List Char) : Lexed (List Token) :=
  let s := text.dropWhile fun c => c == ' ' || c == '\t'
  if s.contains '\x00' then .error .nullCharacter
  else .ok (tokensFrom (3 * s.length + 3) 0 false true (unifyLineEnds s))

end EvalSession.Literal

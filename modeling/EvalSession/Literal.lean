import EvalSession.Json.Reader
import EvalSession.Literal.Term
import EvalSession.Text.Octets

/-!
# Literals of the evaluated language

Evaluates a term that is a literal. Only texts and octets are kept, since nothing else can hold a JSON text; of all
other literals the kind is enough. `readJson` is the whole way from the written form of a value to the JSON value
that it holds.
-/
namespace EvalSession.Literal

inductive Kind where
  | int
  | float
  | complex
  | bool
  | none
  | ellipsis
  | list
  | tuple
  | dict
  | set
  deriving DecidableEq, Repr

def Kind.name : Kind → String
  | .int => "int"
  | .float => "float"
  | .complex => "complex"
  | .bool => "bool"
  | .none => "NoneType"
  | .ellipsis => "ellipsis"
  | .list => "list"
  | .tuple => "tuple"
  | .dict => "dict"
  | .set => "set"

inductive Datum where
  | text (units : List Nat)
  | bytes (octets : List Nat)
  /-- Any other literal, with the kind of a part that rules it out as a key. -/
  | other (kind : Kind) (unhashable : Option Kind)
  deriving DecidableEq, Repr

inductive Fault where
  | unreadable (why : SyntaxFault)
  /-- An expression that is no literal. -/
  | notLiteral
  | unhashable (kind : Kind)
  deriving DecidableEq, Repr

def Datum.unhashable : Datum → Option Kind
  | .other _ u => u
  | _ => none

def kindOf : Number → Kind
  | .int => .int
  | .float => .float
  | .complex => .complex

def signedNumber : Term → Option Number
  | .number k => some k
  | .signed (.number k) => some k
  | _ => none

/-- A sum is a literal if it joins a real and an imaginary number. -/
def isComplexSum (left right : Term) : Bool :=
  match signedNumber left, right with
  | some .int, .number .complex => true
  | some .float, .number .complex => true
  | _, _ => false

def asKey (l : Datum) : Except Fault Unit :=
  match l.unhashable with
  | some k => .error (.unhashable k)
  | none => .ok ()

mutual

def evaluate : Term → Except Fault Datum
  | .text units => .ok (.text units)
  | .bytes octets => .ok (.bytes octets)
  | .number k => .ok (.other (kindOf k) none)
  | .none => .ok (.other .none none)
  | .bool => .ok (.other .bool none)
  | .ellipsis => .ok (.other .ellipsis none)
  | .emptySet => .ok (.other .set (some .set))
  | .signed t =>
    match t with
    | .number k => .ok (.other (kindOf k) none)
    | _ => .error .notLiteral
  | .sum l r => if isComplexSum l r then .ok (.other .complex none) else .error .notLiteral
  | .list items => (evaluateItems false items).map fun _ => .other .list (some .list)
  | .set items => (evaluateItems true items).map fun _ => .other .set (some .set)
  | .tuple items => (evaluateItems false items).map fun u => .other .tuple u
  | .dict entries => (evaluateEntries entries).map fun _ => .other .dict (some .dict)
  | .name _ => .error .notLiteral
  | .compound _ => .error .notLiteral

/-- The first part that is no key, among items that must be keys or need not. -/
def evaluateItems (keys : Bool) : List Term → Except Fault (Option Kind)
  | [] => .ok none
  | t :: rest =>
    match evaluate t with
    | .error f => .error f
    | .ok l =>
      match keys, l.unhashable with
      | true, some k => .error (.unhashable k)
      | _, u => (evaluateItems keys rest).map u.or

def evaluateEntries : List (Term × Term) → Except Fault Unit
  | [] => .ok ()
  | (k, v) :: rest =>
    match evaluate k with
    | .error f => .error f
    | .ok key =>
      match evaluate v with
      | .error f => .error f
      | .ok _ =>
        match asKey key with
        | .error f => .error f
        | .ok _ => evaluateEntries rest

end

def read (depths : Depths) (text : List Char) : Except Fault Datum :=
  match readTerm depths text with
  | .error e => .error (.unreadable e)
  | .ok t => evaluate t

inductive JsonFault where
  | literal (f : Fault)
  | kind (k : Kind)
  | octets (f : Text.Octets.Fault)
  | json (f : Json.Failure) (text : List Char)
  deriving DecidableEq, Repr

def parseJson (depths : Depths) (text : List Char) : Except JsonFault Value :=
  match Json.readWithin depths.containers text with
  | .ok v => .ok v
  | .error f => .error (.json f text)

def withoutMark : List Nat → List Nat
  | 0xEF :: 0xBB :: 0xBF :: rest => rest
  | octets => octets

/-- A byte order mark in front of octets is skipped; in front of a text it is a fault. -/
def readJson (depths : Depths) (text : List Char) : Except JsonFault Value :=
  match read depths text with
  | .error f => .error (.literal f)
  | .ok (.other k _) => .error (.kind k)
  | .ok (.text units) => parseJson depths (Json.joinUnits units)
  | .ok (.bytes octets) =>
    match Text.Octets.decode (withoutMark octets) with
    | .error f => .error (.octets f)
    | .ok points => parseJson depths (Json.joinUnits points)

namespace JsonFault

/-- Where a reader could go no deeper, unlike all other faults, which say something of the text. -/
def overrun? : JsonFault → Option Overrun
  | .literal (.unreadable (.tooDeep o)) => some o
  | .json ⟨.tooDeep o, _⟩ _ => some o
  | _ => none

def name : JsonFault → String
  | .literal (.unreadable .malformed) => "SyntaxError"
  | .literal (.unreadable .indented) => "IndentationError"
  | .literal (.unreadable .nullCharacter) => "ValueError"
  | .literal (.unreadable (.tooDeep o)) => o.name
  | .literal .notLiteral => "ValueError"
  | .literal (.unhashable _) => "TypeError"
  | .kind _ => "TypeError"
  | .octets _ => "UnicodeDecodeError"
  | .json f _ =>
    match f.problem with
    | .integerTooLong => "ValueError"
    | .tooDeep o => o.name
    | _ => "JSONDecodeError"

def octetMessage (f : Text.Octets.Fault) : String :=
  let octets :=
    if f.count = 1 then s!"byte 0x{String.ofList (Text.hex 2 f.octet)} in position {f.place}"
    else s!"bytes in position {f.place}-{f.place + f.count - 1}"
  s!"'utf-8' codec can't decode {octets}: {f.reason.text}"

/-- The wording; a text that is no literal gets no details. -/
def message : JsonFault → String
  | .literal (.unhashable k) => s!"unhashable type: '{k.name}'"
  | .kind k => s!"the JSON object must be str, bytes or bytearray, not {k.name}"
  | .octets f => octetMessage f
  | .json f text =>
    match f.problem with
    | .integerTooLong => "*"
    | .tooDeep o => o.text
    | _ => f.message text
  | _ => "*"

end JsonFault

end EvalSession.Literal

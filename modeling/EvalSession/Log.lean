import EvalSession.Settings
import EvalSession.Value.Display

/-!
# Log lines

An entry is written if its level reaches the threshold: as an object for machines, or laid out in columns for a
terminal, where its fields follow sorted by name.
-/
namespace EvalSession.Log

def upper (c : Char) : Char :=
  if c == '\u0131' then 'I' else if c == '\u017F' then 'S' else c.toUpper

def thresholds : List (String × Nat) :=
  [("CRITICAL", 50), ("FATAL", 50), ("ERROR", 40), ("WARN", 30), ("WARNING", 30), ("INFO", 20), ("DEBUG", 10),
    ("NOTSET", 0)]

/-- The least rank that is written; what names no level is as good as `info`. -/
def threshold : Value → Nat
  | .string s =>
    ((thresholds.find? fun t => t.1.toList == s.toList.map upper).map (·.2)).getD Level.info.rank
  | _ => Level.info.rank

def configure (level : Value) (e : Settings.Environment) : Except Settings.Failure Nat :=
  if level = .null then (Settings.read [] e).map fun s => s.logLevel.rank else .ok (threshold level)

structure Entry where
  level : Level
  event : Value
  fields : Object := []
  deriving DecidableEq

def levelOf? (method : String) : Option Level :=
  match method with
  | "warn" => some .warning
  | "fatal" => some .critical
  | "exception" => some .error
  | "msg" => some .info
  | name => Level.ofName? name

def passes (least : Nat) (e : Entry) : Bool := decide (least ≤ e.level.rank)

/-- Fields with a meaning of their own are no data. -/
def data (e : Entry) : Object :=
  (e.fields.without "exc_info").without "stack_info"

def line (e : Entry) : Value :=
  .object ((((data e).put "event" e.event).put "level" (.string e.level.name)).without "timestamp")

def padTo (width : Nat) (s : List Char) : List Char := s ++ List.replicate (width - s.length) ' '

/-- Text with blanks or quotes in it is quoted. -/
def columnText : Value → List Char
  | .string s =>
    if s.toList.any [' ', '\t', '=', '\r', '\n', '"', '\''].contains then Value.literal (.string s) else s.toList
  | v => v.literal

def sorted (o : Object) : Object := o.mergeSort fun a b => !decide (b.1 < a.1)

def columns (e : Entry) : List Char :=
  let fields := ((sorted ((data e).without "level")).without "timestamp").map fun f =>
    f.1.toList ++ '=' :: columnText f.2
  ('[' :: padTo 9 e.level.name.toList) ++ ']' :: ' ' :: padTo 30 e.event.display ++
    (fields.map fun f => ' ' :: f).flatten

def trimmed (s : String) : String := String.ofList (s.toList.reverse.dropWhile (· == ' ')).reverse

def terminalLines (e : Entry) : List String := ((String.ofList (columns e)).splitOn "\n").map trimmed

end EvalSession.Log

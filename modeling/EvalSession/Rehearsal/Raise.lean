import EvalSession.Fault
import EvalSession.Value.Display

/-!
# Scripted faults

The faults that a script can raise, by the name of their type and their arguments. A type says what text it makes of
its arguments; the errors of the operating system are told apart by their number.
-/
namespace EvalSession.Rehearsal

def tupleText (items : List Value) : List Char :=
  match items with
  | [v] => '(' :: (v.literal ++ [',', ')'])
  | _ => '(' :: (Value.literalItems items ++ [')'])

/-- The text of a fault whose type makes nothing of its arguments. -/
def plainText : List Value → List Char
  | [] => []
  | [v] => v.display
  | args => tupleText args

def systemErrors : List (Int × String) :=
  [(1, "PermissionError"), (2, "FileNotFoundError"), (3, "ProcessLookupError"), (4, "InterruptedError"),
    (10, "ChildProcessError"), (11, "BlockingIOError"), (13, "PermissionError"), (17, "FileExistsError"),
    (20, "NotADirectoryError"), (21, "IsADirectoryError"), (32, "BrokenPipeError"), (103, "ConnectionAbortedError"),
    (104, "ConnectionResetError"), (108, "BrokenPipeError"), (110, "TimeoutError"), (111, "ConnectionRefusedError"),
    (114, "BlockingIOError"), (115, "BlockingIOError")]

/-- The number that a value is or counts as. -/
def errorNumber : Value → Option Int
  | .int n => some n
  | .bool b => some (if b then 1 else 0)
  | _ => none

def systemErrorName (args : List Value) : String :=
  match args with
  | v :: _ :: _ =>
    let named := systemErrors.find? fun e => some e.1 == errorNumber v
    if args.length ≤ 5 then (named.map (·.2)).getD "OSError" else "OSError"
  | _ => "OSError"

/-- The file that an error is about, and the second one if there are two. -/
def filesText : List Value → List Char
  | file :: rest =>
    let first := if file = .null then [] else ": ".toList ++ file.literal
    match rest with
    | [_, second] => if file = .null || second = .null then first else first ++ " -> ".toList ++ second.literal
    | _ => first
  | [] => []

/-- Number and text, with the files they are about. -/
def systemErrorText (args : List Value) : List Char :=
  match args with
  | n :: text :: rest =>
    if args.length ≤ 5 then "[Errno ".toList ++ n.display ++ "] ".toList ++ text.display ++ filesText rest
    else plainText args
  | _ => plainText args

/-- A system error keeps its file apart from its arguments. -/
def systemErrorArguments (args : List Value) : List Value :=
  match args with
  | n :: text :: file :: _ => if args.length ≤ 5 && file ≠ .null then [n, text] else args
  | _ => args

def formOf (name : String) (args : List Value) : String :=
  name ++ String.ofList ('(' :: (Value.literalItems args ++ [')']))

def summaryOf (name text : String) : String := if text.isEmpty then name else name ++ ": " ++ text

def thrown (type : String) (args : List Value) : Thrown :=
  let plain := String.ofList (plainText args)
  match type with
  | "OSError" =>
    let name := systemErrorName args
    let text := String.ofList (systemErrorText args)
    ⟨name, text, formOf name (systemErrorArguments args), Fault.reportOf (summaryOf name text), true⟩
  | "KeyError" =>
    let text := match args with
      | [v] => String.ofList v.literal
      | _ => plain
    ⟨type, text, formOf type args, Fault.reportOf (summaryOf type text), true⟩
  | "SyntaxError" =>
    let message := args.headD .null
    let detail := if message.isVacant then "<no detail available>" else String.ofList message.display
    ⟨type, String.ofList message.display, formOf type args, Fault.reportOf (type ++ ": " ++ detail), true⟩
  | "SilentFault" => ⟨type, "", formOf type args, Fault.reportOf type, true⟩
  | "KeyboardInterrupt" => ⟨type, plain, formOf type args, Fault.reportOf (summaryOf type plain), false⟩
  | _ => ⟨type, plain, formOf type args, Fault.reportOf (summaryOf type plain), true⟩

def thrownText (type text : String) : Fault := .thrown (thrown type [.string text])

end EvalSession.Rehearsal

import EvalSession.Field
import EvalSession.Level
import EvalSession.Settings.Assignments
import EvalSession.Settings.Place

/-!
# Settings of a session

Each setting is taken from the first source that has it: the caller's own values, the variables of the environment,
the settings file, and a default. Variables carry a prefix, and the case of names does not count. All problems are
reported at once, in the order of the settings.
-/
namespace EvalSession

structure Settings where
  workingDirectory : Option String := none
  kernelName : String := "python3"
  startupTimeout : Binary64 := Binary64.ofRatio false 60 1
  logLevel : Level := .info
  deriving DecidableEq, Repr

namespace Settings

/-- What settings are read from, besides the values of the caller. -/
structure Environment where
  exported : Object := []
  file : Option String := none
  places : Places

inductive Failure where
  | invalid (problems : List Field.Problem)
  /-- The home directory of another user is not known. -/
  | noHome
  deriving DecidableEq, Repr

def Failure.name : Failure → String
  | .invalid _ => "ValidationError"
  | .noHome => "RuntimeError"

def Failure.message : Failure → String
  | .invalid problems => Field.summary problems.length "SessionConfig"
  | .noHome => "Could not determine home directory."

def complaint : Field.Kind → String
  | .stringType => "Input should be a valid string"
  | .tooShort => "String should have at least 1 character"
  | .floatType => "Input should be a valid number"
  | .floatParsing => "Input should be a valid number, unable to parse string as a number"
  | .notAbove => "Input should be greater than 0"
  | .notListed => "Input should be 'debug', 'info', 'warning', 'error' or 'critical'"
  | .notCallable => "Input should be callable"
  | .refused text => "Value error, " ++ text
  | kind => kind.name

/-- A name in lower case; the Kelvin sign is a capital K. -/
def foldName (name : String) : String :=
  String.ofList (name.toList.map fun c => if c == '\u212A' then 'k' else c.toLower)

def lookup (o : Object) (name : String) : Option Value :=
  (o.reverse.find? fun f => foldName f.1 == name).map (·.2)

/-- A file is no use where it gives a name no value. -/
def given (values : Object) (e : Environment) (setting : String) : Option Value :=
  let key := "pel_" ++ setting
  let inFile := (e.file.map fun text => assigned e.exported text).getD []
  (lookup values setting).or ((lookup e.exported key).or ((lookup inFile key).filter (· ≠ .null)))

def readDirectory (p : Places) : Option Value → Except Failure (Field.Checked (Option String))
  | none => .ok (.ok none)
  | some .null => .ok (.ok none)
  | some (.string path) =>
    match p.resolve path with
    | none => .error .noHome
    | some none => .ok (Field.fail (.refused s!"Working directory does not exist: {path}"))
    | some (some names) => .ok (.ok (some (writePath names)))
  | some _ => .ok (Field.fail .stringType)

def defaults : Settings := {}

def readKernelName : Option Value → Field.Checked String
  | none => .ok defaults.kernelName
  | some v =>
    match Field.string v with
    | .error p => .error p
    | .ok name => if name.isEmpty then Field.fail .tooShort else .ok name

def isPositive (x : Binary64) : Bool := !x.isNaN && !x.isNegative && x.bits ≠ 0

def readTimeout : Option Value → Field.Checked Binary64
  | none => .ok defaults.startupTimeout
  | some v =>
    match Field.float v with
    | .error p => .error p
    | .ok x => if isPositive x then .ok x else Field.fail .notAbove

def readLevel : Option Value → Field.Checked Level
  | none => .ok defaults.logLevel
  | some (.string name) =>
    match Level.ofName? name with
    | some level => .ok level
    | none => Field.fail .notListed
  | some _ => Field.fail .notListed

/-- A transform is code and is never read from data. -/
def readTransform : Option Value → Field.Checked Unit
  | none => .ok ()
  | some .null => .ok ()
  | some _ => Field.fail .notCallable

def read (values : Object) (e : Environment) : Except Failure Settings :=
  match readDirectory e.places (given values e "cwd") with
  | .error failure => .error failure
  | .ok directory =>
    let fields :=
      Field.both (Field.within "cwd" directory)
        (Field.both (Field.within "kernel_name" (readKernelName (given values e "kernel_name")))
          (Field.both (Field.within "startup_timeout" (readTimeout (given values e "startup_timeout")))
            (Field.both (Field.within "log_level" (readLevel (given values e "log_level")))
              (Field.within "transform" (readTransform (given values e "transform"))))))
    match fields with
    | .error problems => .error (.invalid problems)
    | .ok (directory, kernel, timeout, level, _) => .ok ⟨directory, kernel, timeout, level⟩

end Settings

end EvalSession

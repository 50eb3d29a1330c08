import EvalSession.Field
import EvalSession.Nesting
import EvalSession.Text.Quoted

/-!
# Faults

What ends an operation early. A fault of outside code (a hook, the transform, a worker, the factory) carries all that
the session may show of it; the others are the session's own. Only ordinary faults are ever contained.
-/
namespace EvalSession

/-- A fault thrown by outside code: the name of its type, its text, the way it is written out with its arguments,
and the lines of its report. All of these are there: to write out a fault, or the hook that threw it, for the log or for a
reply does not itself fail. -/
structure Thrown where
  name : String
  text : String
  form : String
  report : List String
  ordinary : Bool := true
  deriving DecidableEq, Repr

inductive Fault where
  | thrown (e : Thrown)
  /-- A request whose fields are wrong. -/
  | badRequest (problems : List Field.Problem)
  /-- A restart without a way to make a worker. -/
  | notRestartable
  | unknownSignal (name : String)
  /-- An exit status that names no signal. -/
  | unnamedSignal (number : Nat)
  /-- A kernel that did not get ready, and why. -/
  | notReady (kernel reason : String)
  /-- Data from outside that has not the shape its use needs. -/
  | unexpectedShape
  /-- Data from outside that nests deeper than it can be read. -/
  | tooDeep (o : Overrun)
  deriving DecidableEq, Repr

namespace Fault

def ordinary : Fault → Bool
  | .thrown e => e.ordinary
  | _ => true

def name : Fault → String
  | .thrown e => e.name
  | .badRequest _ => "ValidationError"
  | .notRestartable => "SessionError"
  | .unknownSignal _ => "ValueError"
  | .unnamedSignal _ => "ValueError"
  | .notReady .. => "WorkerError"
  | .unexpectedShape => "TypeError"
  | .tooDeep o => o.name

def text : Fault → String
  | .thrown e => e.text
  | .badRequest problems => Field.summary problems.length "Request"
  | .notRestartable => "restart() requires a session created with a worker factory"
  | .unknownSignal name => s!"Unknown signal: {name}"
  | .unnamedSignal number => s!"{number} is not a valid Signals"
  | .notReady kernel reason => s!"Kernel '{kernel}' failed to start: {reason}"
  | .unexpectedShape => ""
  | .tooDeep o => o.text

def form : Fault → String
  | .thrown e => e.form
  | f => s!"{f.name}({String.ofList (Text.Quoted.quote f.text.toList)})"

/-- Data of the shape that is needed. -/
def expected {α : Type} : Option α → Except Fault α
  | some a => .ok a
  | none => .error .unexpectedShape

/-- A report: a heading, the place, and the lines of the fault itself, whose text is ended like a line. -/
def reportOf (summary : String) : List String :=
  "Traceback (most recent call last):" :: "<frames>" :: (Text.lines (summary.toList ++ ['\n'])).map String.ofList

def report : Fault → List String
  | .thrown e => e.report
  | f => reportOf (if f.text.isEmpty then f.name else s!"{f.name}: {f.text}")

end Fault

end EvalSession

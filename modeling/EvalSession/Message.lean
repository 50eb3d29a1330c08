import EvalSession.Field

/-!
# Messages from a worker

A raw message is decoded once. Its variant follows from the fields it has, in this order of precedence: `log`, then
`stdout` or `stderr`, then `error`, then the first of `mime`, `completion`, `inspection` and `names`; a message with
none of them is an opaque reply. `id` and `end` address a reply and are no part of its payload.
-/
namespace EvalSession

inductive Variant where
  | log
  | stream
  | error
  | execution
  | completion
  | inspection
  | nameList
  | opaqueReply
  deriving DecidableEq, Repr

namespace Variant

def name : Variant → String
  | .log => "LogMessage"
  | .stream => "StreamMessage"
  | .error => "ErrorMessage"
  | .execution => "ExecutionMessage"
  | .completion => "CompletionMessage"
  | .inspection => "InspectionMessage"
  | .nameList => "NameListMessage"
  | .opaqueReply => "ReplyMessage"

/-- The fields that give a message away, most telling first. -/
def markers : List (String × Variant) :=
  [("log", .log), ("stdout", .stream), ("stderr", .stream), ("error", .error), ("mime", .execution),
    ("completion", .completion), ("inspection", .inspection), ("names", .nameList)]

def of (o : Object) : Variant :=
  match markers.find? (fun m => o.has m.1) with
  | some m => m.2
  | none => .opaqueReply

end Variant

inductive Channel where
  | stdout
  | stderr
  deriving DecidableEq, Repr

def Channel.name : Channel → String
  | .stdout => "stdout"
  | .stderr => "stderr"

structure ErrorContent where
  ename : String
  evalue : String
  traceback : List String
  deriving DecidableEq, Repr

def ErrorContent.toValue (e : ErrorContent) : Value :=
  .object [("ename", .string e.ename), ("evalue", .string e.evalue), ("traceback", .list (e.traceback.map .string))]

/-- A decoded message. The variant of a reply is never `log` or `stream`. -/
inductive Message where
  | log (text : String)
  | stream (id : Option Int) (channel : Channel) (text : String)
  | reply (variant : Variant) (id : Option Int) (last : Bool) (payload : Object)
  deriving DecidableEq, Repr

inductive DecodeError where
  | notAnObject (kind : String)
  | malformed (variant : Variant) (problems : List Field.Problem)
  deriving DecidableEq, Repr

def DecodeError.message : DecodeError → String
  | .notAnObject kind => s!"Expected a mapping, got {kind}"
  | .malformed variant problems => s!"Malformed {variant.name}: {Field.summary problems.length variant.name}"

namespace Message

open EvalSession.Field

def readId (o : Object) : Checked (Option Int) := optional o "id" none (nullable int)

def readEnd (o : Object) : Checked Bool := optional o "end" false bool

def readErrorContent : Value → Checked ErrorContent
  | .object o =>
    (both (required o "ename" string) (both (required o "evalue" string) (optional o "traceback" [] strings))).map
      fun (ename, evalue, traceback) => ⟨ename, evalue, traceback⟩
  | _ => fail .recordType

def readContent (variant : Variant) (o : Object) : Checked Object :=
  let text (s : String) : Value := .string s
  match variant with
  | .error => (required o "error" readErrorContent).map fun e => [("error", e.toValue)]
  | .execution => (required o "mime" object).map fun m => [("mime", .object m)]
  | .completion => (required o "completion" object).map fun m => [("completion", .object m)]
  | .inspection => (required o "inspection" object).map fun m => [("inspection", .object m)]
  | .nameList =>
    (both (required o "names" strings) (optional o "keys" none (nullable strings))).map fun (names, keys) =>
      ("names", .list (names.map text)) :: (keys.toList.map fun ks => ("keys", .list (ks.map text)))
  | _ => .ok []

def declared : Variant → List String
  | .error => ["id", "end", "error"]
  | .execution => ["id", "end", "mime"]
  | .completion => ["id", "end", "completion"]
  | .inspection => ["id", "end", "inspection"]
  | .nameList => ["id", "end", "names", "keys"]
  | _ => ["id", "end"]

/-- The undeclared fields of a reply, which its payload keeps; a list of names drops those that are null. -/
def extras (variant : Variant) (o : Object) : Object :=
  let undeclared := o.filter fun f => !(declared variant).contains f.1
  if variant = .nameList then undeclared.filter fun f => f.2 ≠ .null else undeclared

def readReply (variant : Variant) (o : Object) : Checked Message :=
  (both (readId o) (both (readEnd o) (readContent variant o))).map fun (id, last, content) =>
    .reply variant id last (content ++ extras variant o)

/-- A chunk is from the standard output if that field is not null. -/
def readStream (o : Object) : Checked Message :=
  (both (readId o) (both (optional o "stdout" none (nullable string)) (optional o "stderr" none (nullable string)))).map
    fun (id, out, err) =>
      match out with
      | some text => .stream id .stdout text
      | none => .stream id .stderr (err.getD "")

def readObject (variant : Variant) (o : Object) : Checked Message :=
  match variant with
  | .log => (required o "log" string).map .log
  | .stream => readStream o
  | _ => readReply variant o

def decode : Value → Except DecodeError Message
  | .object o =>
    match readObject (Variant.of o) o with
    | .error problems => .error (.malformed (Variant.of o) problems)
    | .ok m => .ok m
  | v => .error (.notAnObject v.kind)

end Message

end EvalSession

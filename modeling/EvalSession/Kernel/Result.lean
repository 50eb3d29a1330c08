import EvalSession.Fault
import EvalSession.Literal
import EvalSession.Task
import EvalSession.Value.Display

/-!
# Results of a kernel

Turns the reply of a kernel to one request into the payload of the terminal message. A reply that is not `ok` is an
error; the result of a query is a JSON text, written by the kernel as a literal. A reply that has another shape, or whose
result nests too deep to be read, is at fault and gets no payload.
-/
namespace EvalSession.Kernel

def resultKey : String := "pel_result"

def errorPayload (ename evalue : Value) (traceback : List Value) : Object :=
  [("error", .object [("ename", ename), ("evalue", evalue), ("traceback", .list traceback)])]

def describedError (o : Object) : Option Object :=
  ((o.get? "traceback").getD (.list [])).items?.map fun traceback =>
    errorPayload ((o.get? "ename").getD (.string "Error")) ((o.get? "evalue").getD (.string "")) traceback

def namedError (name text : String) : Object := errorPayload (.string name) (.string text) []

def unreadable (name text : String) : Object := namedError name s!"Unreadable kernel result: {text}"

def lookupComplaint : Value → String
  | .string _ => "string indices must be integers, not 'str'"
  | .list _ => "list indices must be integers or slices, not str"
  | v => s!"'{v.kind}' object is not subscriptable"

inductive Unread where
  /-- The payload says why. -/
  | answered (payload : Object)
  | overrun (o : Overrun)
  deriving DecidableEq

def readResult (depths : Depths) (result : Object) : Except Unread Value :=
  match result.get? "data" with
  | none => .error (.answered (unreadable "KeyError" "'data'"))
  | some (.object data) =>
    match Object.get? data "text/plain" with
    | none => .error (.answered (unreadable "KeyError" "'text/plain'"))
    | some (.string written) =>
      match Literal.readJson depths written.toList with
      | .ok v => .ok v
      | .error f =>
        match f.overrun? with
        | some o => .error (.overrun o)
        | none => .error (.answered (unreadable f.name f.message))
    | some _ => .error (.answered (unreadable "ValueError" "*"))
  | some v => .error (.answered (unreadable "TypeError" (lookupComplaint v)))

def queryPayload (action : Action) (v : Value) : Object :=
  if action = .listNames then
    match v with
    | .object o =>
      [("names", (Object.get? o "names").getD (.list [])), ("keys", (Object.get? o "keys").getD (.list []))]
    | _ => namedError "TypeError" s!"Unexpected names result: {String.ofList v.literal}"
  else [("inspection", v)]

def isStatus (o : Object) (status : String) : Bool := o.get? "status" == some (.string status)

def queryReply (depths : Depths) (action : Action) (reply : Object) : Except Fault Object :=
  (Fault.expected (((reply.get? "user_expressions").getD (.object [])).object?.bind fun expressions =>
    ((expressions.get? resultKey).getD (.object [])).object?)).bind fun result =>
      if isStatus result "ok" then
        match readResult depths result with
        | .ok v => .ok (queryPayload action v)
        | .error (.answered payload) => .ok payload
        | .error (.overrun o) => .error (.tooDeep o)
      else Fault.expected (describedError result)

def replyPayload (depths : Depths) (action : Action) (mime : Object) (reply : Value) : Except Fault Object :=
  (Fault.expected (if reply.isVacant then .object [] else reply).object?).bind fun reply =>
    if isStatus reply "aborted" then .ok (namedError "Aborted" "Execution was aborted")
    else if isStatus reply "ok" then
      if action = .run then .ok [("mime", .object mime)] else queryReply depths action reply
    else Fault.expected (describedError reply)

end EvalSession.Kernel

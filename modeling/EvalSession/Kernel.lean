import EvalSession.Fault
import EvalSession.Kernel.Result
import EvalSession.Kernel.Signal
import EvalSession.Query

/-!
# A kernel as worker

A kernel answers every request on two channels: a reply on the one, output and at last an idle status on the other.
The table of open requests joins the two: when both have arrived the request is closed and one terminal message is
emitted for it, unless making it goes wrong. A message emits at most one message, and does so last. All messages are taken
in from the same depth of the stack, so what is left for reading results is the same for each of them.
-/
namespace EvalSession

namespace Kernel

structure Pending where
  messageId : String
  contextId : Nat
  action : Action
  mime : Object := []
  reply : Value := .null
  idle : Bool := false
  deriving DecidableEq

/-- The process behind a kernel: its next answers to whether it is alive (dead once they run out), and its exit code. -/
structure Host where
  alive : List Bool := [true, false]
  exitCode : Option Int := none
  deriving DecidableEq, Repr

end Kernel

structure Kernel where
  /-- Open requests in the order of their first use. -/
  pending : List Kernel.Pending := []
  /-- Executions asked for so far. -/
  executions : Nat := 0
  listening : Bool := true
  host : Kernel.Host := {}
  /-- How deep the results of queries may nest. -/
  depths : Depths := {}
  deriving DecidableEq

namespace Kernel

structure ExitStatus where
  code : Option Int
  signal : Option String
  deriving DecidableEq, Repr

def find? (k : Kernel) (messageId : String) : Option Pending := k.pending.find? (·.messageId == messageId)

/-- Puts a request in the table, in the place of one with the same message id. -/
def putPending (p : Pending) : List Pending → List Pending
  | [] => [p]
  | q :: rest => if q.messageId == p.messageId then p :: rest else q :: putPending p rest

def put (k : Kernel) (p : Pending) : Kernel := { k with pending := putPending p k.pending }

def remove (k : Kernel) (messageId : String) : Kernel :=
  { k with pending := k.pending.filter (·.messageId != messageId) }

/-- The code and the options of the execution for a request. A query runs silently and with no code of its own. -/
def execution (r : Request) : String × Object :=
  let query (text : String) : String × Object :=
    ("", [("silent", .bool true), ("store_history", .bool false),
      ("user_expressions", .object [(resultKey, .string text)]), ("allow_stdin", .bool false)])
  match r.action with
  | .run => (r.code, [("store_history", .bool true), ("allow_stdin", .bool false)])
  | .listNames => query (Query.names r.code)
  | .inspect => query (Query.inspection r.code)

def nextMessageId (k : Kernel) : String := s!"msg-{k.executions + 1}"

def register (k : Kernel) (r : Request) (messageId : String) : Kernel :=
  { k with executions := k.executions + 1 }.put ⟨messageId, r.contextId, r.action, [], .null, false⟩

structure Arrival where
  kernel : Kernel
  emitted : Option Object := none
  fault : Option Fault := none
  deriving DecidableEq

def Arrival.refused (k : Kernel) : Arrival := ⟨k, none, some .unexpectedShape⟩

/-- Emits the terminal message of a request once both its reply and its idle status are there. -/
def finish (k : Kernel) (p : Pending) : Arrival :=
  if p.reply = .null || !p.idle then ⟨k, none, none⟩
  else
    let k := k.remove p.messageId
    match replyPayload k.depths p.action p.mime p.reply with
    | .error f => ⟨k, none, some f⟩
    | .ok payload => ⟨k, some (Object.update [("id", .int p.contextId), ("end", .bool true)] payload), none⟩

/-- The open request a message belongs to: `none` if the message cannot be read, `some none` if it is not ours. -/
def parent (k : Kernel) (message : Object) : Option (Option Pending) :=
  ((message.get? "parent_header").getD (.object [])).object?.bind fun header =>
    match header.get? "msg_id" with
    | some (.string id) => some (k.find? id)
    | some (.list _) => none
    | some (.object _) => none
    | _ => some none

def pairs? : List Value → Option Object
  | [] => some []
  | .list [.string key, v] :: rest => (pairs? rest).map ((key, v) :: ·)
  | .string s :: rest =>
    match s.toList with
    | [a, b] => (pairs? rest).map ((String.ofList [a], .string (String.ofList [b])) :: ·)
    | _ => none
  | _ => none

def copyObject? : Value → Option Object
  | .object o => some o
  | .list items => (pairs? items).map (Object.update [])
  | .string s => if s.isEmpty then some [] else none
  | _ => none

def isText (v : Option Value) (text : String) : Bool := v == some (.string text)

def output (k : Kernel) (p : Pending) (kind : Value) (content : Value) : Arrival :=
  match kind, content with
  | .string "stream", .object o =>
    match Object.get? o "name", Object.get? o "text" with
    | some (.string name), some text => ⟨k, some (Object.put [("id", .int p.contextId)] name text), none⟩
    | _, _ => .refused k
  | .string "execute_result", .object o =>
    match copyObject? ((Object.get? o "data").getD (.object [])) with
    | some mime => ⟨k.put { p with mime := mime }, none, none⟩
    | none => .refused k
  | .string "status", .object o =>
    if isText (Object.get? o "execution_state") "idle" then
      let p := { p with idle := true }
      finish (k.put p) p
    else ⟨k, none, none⟩
  | .string "stream", _ => .refused k
  | .string "execute_result", _ => .refused k
  | .string "status", _ => .refused k
  | _, _ => ⟨k, none, none⟩

def onOutput (k : Kernel) : Value → Arrival
  | .object message =>
    match k.parent message with
    | none => .refused k
    | some none => ⟨k, none, none⟩
    | some (some p) =>
      match Object.get? message "msg_type", Object.get? message "content" with
      | some kind, some content => k.output p kind content
      | _, _ => .refused k
  | _ => .refused k

def onReply (k : Kernel) : Value → Arrival
  | .object message =>
    if isText (Object.get? message "msg_type") "execute_reply" then
      match k.parent message with
      | none => .refused k
      | some none => ⟨k, none, none⟩
      | some (some p) =>
        match Object.get? message "content" with
        | none => .refused k
        | some content =>
          let p := { p with reply := content }
          finish (k.put p) p
    else ⟨k, none, none⟩
  | _ => .refused k

inductive Channel where
  | output
  | replies
  deriving DecidableEq, Repr

def listeners (k : Kernel) : List Channel := if k.listening then [.output, .replies] else []

def receive (k : Kernel) (channel : Channel) (message : Value) : Arrival :=
  match channel with
  | .output => k.onOutput message
  | .replies => k.onReply message

inductive Act where
  | stopChannels
  | signal (number : Nat)
  | cleanUp
  deriving DecidableEq, Repr

structure Termination where
  kernel : Kernel
  acts : List Act := []
  status : Except Fault ExitStatus

/-- A negative exit code names the signal that ended the process. -/
def exitStatus : Option Int → Except Fault ExitStatus
  | none => .ok ⟨none, none⟩
  | some n =>
    if n < 0 then
      match Signal.name? n.natAbs with
      | some name => .ok ⟨none, some name⟩
      | none => .error (.unnamedSignal n.natAbs)
    else .ok ⟨some n, none⟩

/-- Stops the kernel: it is signalled if it is alive, and waited for. An unknown signal changes nothing. -/
def terminate (k : Kernel) (signal : String) : Termination :=
  match Signal.number? signal with
  | none => { kernel := k, status := .error (.unknownSignal signal) }
  | some number =>
    let alive := k.host.alive.headD false
    let left := if alive then (k.host.alive.dropWhile (· == true)).drop 1 else k.host.alive.drop 1
    { kernel := { k with listening := false, host := { k.host with alive := left } }
      acts := .stopChannels :: ((if alive then [.signal number] else []) ++ [.cleanUp])
      status := exitStatus k.host.exitCode }

end Kernel

end EvalSession

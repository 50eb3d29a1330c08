import EvalSession.Level
import EvalSession.Message
import EvalSession.Task

/-!
# Diagnostics

What the library logs about itself, with the level and the wording of each entry.
-/
namespace EvalSession

inductive Diagnostic where
  | ignored
  | queued (action : Action) (length : Nat)
  | transformFailed (contextId : Nat) (form : String)
  | transformed
  | dispatching (action : Action)
  | missingContext (id : Option Int)
  | contextEnded
  | discarded (count : Nat)
  | noLocalRoute
  | hookRaised (name : String)
  | undecodable (e : DecodeError)
  | workerLog
  | noTask
  | missingHook (moment : Moment)
  | missingStream (channel : Channel)
  | execute
  | complete
  | inspect
  | killed
  | restarted
  | sent
  | noHandler
  | handlingFailed
  | kernelTerminated
  | kernelStarted (name : String)
  deriving DecidableEq, Repr

namespace Diagnostic

def level : Diagnostic → Level
  | .transformFailed .. => .warning
  | .noLocalRoute => .warning
  | .undecodable _ => .warning
  | .hookRaised _ => .error
  | .handlingFailed => .error
  | .discarded _ => .info
  | .killed => .info
  | .restarted => .info
  | .kernelTerminated => .info
  | .kernelStarted _ => .info
  | _ => .debug

def text : Diagnostic → String
  | .ignored => "Ignoring task submitted to killed session"
  | .queued action length => s!"Queued {action.name} task (queue length={length})"
  | .transformFailed id form => s!"Code transform failed for context {id}: {form}"
  | .transformed => "Transformed code"
  | .dispatching action => s!"Dispatching {action.name} task"
  | .missingContext none => "Missing context None, using last task"
  | .missingContext (some id) => s!"Missing context {id}, using last task"
  | .contextEnded => "Context ended"
  | .discarded count => s!"Discarded {count} queued task(s) on kill"
  | .noLocalRoute => "No local reply route; dropping synthesized message"
  | .hookRaised name => s!"Task callback {name} raised"
  | .undecodable e => s!"Dropping undecodable worker message: {e.message}"
  | .workerLog => "Worker log"
  | .noTask => "Dropping message: no context and no last task"
  | .missingHook moment => s!"Missing {moment.name} callback"
  | .missingStream channel => s!"Missing {channel.name} callback"
  | .execute => "Execute"
  | .complete => "Complete"
  | .inspect => "Inspect"
  | .killed => "Session killed"
  | .restarted => "Session restarted"
  | .sent => "Sent execute_request"
  | .noHandler => "No message handler attached; dropping"
  | .handlingFailed => "Error while handling kernel message"
  | .kernelTerminated => "[KERNEL] Terminated"
  | .kernelStarted name => s!"[KERNEL] Started {name}"

end Diagnostic

end EvalSession

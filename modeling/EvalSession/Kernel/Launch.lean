import EvalSession.Diagnostic
import EvalSession.Kernel
import EvalSession.Settings

/-!
# Launching a kernel

A kernel is started, its channels are opened, and it is waited for. One that does not get ready in time is shut down
again; any other fault while waiting leaves it as it is.
-/
namespace EvalSession.Kernel

inductive Readiness where
  | ready
  | late (reason : String)
  | failed (f : Fault)
  deriving DecidableEq

inductive LaunchStep where
  | manager (kernelName : String)
  | start (directory : String)
  | client
  | openChannels
  | wait (timeout : Binary64)
  | closeChannels
  | shutDown (now : Bool)
  | log (entry : Diagnostic)
  deriving DecidableEq

structure Launch where
  steps : List LaunchStep
  outcome : Except Fault Kernel

/-- Launches a kernel; `here` is the directory to start it in unless the settings name another. -/
def launch (settings : Settings) (here : String) (readiness : Readiness) : Launch :=
  let steps : List LaunchStep :=
    [.manager settings.kernelName, .start (settings.workingDirectory.getD here), .client, .openChannels,
      .wait settings.startupTimeout]
  match readiness with
  | .ready => ⟨steps ++ [.log (.kernelStarted settings.kernelName)], .ok {}⟩
  | .late reason => ⟨steps ++ [.closeChannels, .shutDown true], .error (.notReady settings.kernelName reason)⟩
  | .failed f => ⟨steps, .error f⟩

end EvalSession.Kernel

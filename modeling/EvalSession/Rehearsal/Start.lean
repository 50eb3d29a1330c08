import EvalSession.Kernel.Launch
import EvalSession.Rehearsal.Raise

/-!
# Rehearsing a launch

What waiting for a kernel makes of a scripted fault.
-/
namespace EvalSession.Rehearsal

/-- The types of fault by which a kernel says that it is late. -/
def lateTypes : List String := ["RuntimeError", "NotImplementedError", "RecursionError"]

/-- A fault that ends an iteration cannot leave a wait as it is. -/
def readinessOf (type text : String) : Kernel.Readiness :=
  if lateTypes.contains type then .late text
  else if type == "StopIteration" || type == "StopAsyncIteration" then .late s!"coroutine raised {type}"
  else .failed (thrownText type text)

end EvalSession.Rehearsal

import EvalSession.Completion
import EvalSession.Coordinator.Machine
import EvalSession.Documentation.Builtin
import EvalSession.Expression.Grammar
import EvalSession.Inspection
import EvalSession.Json.Printer
import EvalSession.Json.Reader
import EvalSession.Kernel.Launch
import EvalSession.Log
import EvalSession.Rehearsal.Ensemble
import EvalSession.Rehearsal.Solo
import EvalSession.Rehearsal.Start
import EvalSession.Session.Machine
import EvalSession.Proofs.Coordinator.Run
import EvalSession.Proofs.Coordinator.Shape
import EvalSession.Proofs.Coordinator.Order
import EvalSession.Proofs.Coordinator.Addressing
import EvalSession.Proofs.Session.View
import EvalSession.Proofs.Session.Outstanding
import EvalSession.Proofs.Coordinator.Telling
import EvalSession.Proofs.Coordinator.Reference
import EvalSession.Proofs.Coordinator.Simulation
import EvalSession.Proofs.Coordinator.Progress
import EvalSession.Proofs.Coordinator.Attendance
import EvalSession.Proofs.Session.Progress
import EvalSession.Proofs.Session.Service
import EvalSession.Proofs.Coordinator.Closing
import EvalSession.Proofs.Session.Closing
import EvalSession.Proofs.Session.Replies
import EvalSession.Proofs.Session.Calls
import EvalSession.Proofs.Coordinator.Contexts
import EvalSession.Proofs.Session.Silence
import EvalSession.Proofs.Kernel.Notes
import EvalSession.Proofs.Kernel.Payload
import EvalSession.Proofs.Kernel.Due
import EvalSession.Proofs.Kernel.Contract
import EvalSession.Proofs.Session.Kernels
import EvalSession.Proofs.Coordinator.Renaming
import EvalSession.Proofs.Session.Onto
import EvalSession.Proofs.Session.Detached
import EvalSession.Proofs.Session.Restart
import EvalSession.Proofs.Expression.Plain
import EvalSession.Proofs.Session.Containment
import EvalSession.Proofs.Kernel.Terminal
import EvalSession.Proofs.Object
import EvalSession.Proofs.Json.RoundTrip
import EvalSession.Proofs.Kernel.Recovery
import EvalSession.Proofs.Message.Decoding
import EvalSession.Proofs.Coordinator.Raising
import EvalSession.Proofs.Session.Raising
import EvalSession.Proofs.Session.Passages
import EvalSession.Proofs.Session.Precedence
import EvalSession.Proofs.Completion.Narrowing
import EvalSession.Proofs.Session.Lifecycle
import EvalSession.Proofs.Session.Delivery
import EvalSession.Proofs.Completion.Range
import EvalSession.Proofs.Session.Refusal
import EvalSession.Proofs.Session.Noise
import EvalSession.Proofs.Documentation.Families
import EvalSession.Proofs.Documentation.Report
import EvalSession.Proofs.Session.Reports
import EvalSession.Proofs.Session.Inspecting
import EvalSession.Proofs.Coordinator.Representation
import EvalSession.Proofs.Kernel.Queries
import EvalSession.Proofs.Session.Querying

import EvalSession.Session.Frame

/-!
# Runs of a session

A machine is a session with its stack of frames, a fault on its way through them, and the events so far, latest first.
It moves by a stage of its own, by an operation that outside code starts while it has control, by the answer of
outside code to the frame that waits for it, or by outside code handling the fault of an operation it started.

Only the top frame is answered, so of the kills and restarts that wait at the same time the last ends first, while an event
loop resumes them in any order. No other order leads to other sessions. What waits of a kill is whether to tell of its end, and
its end changes nothing but the events. What waits of a restart is that and the exit status of the worker that it ended; it
attaches whatever worker comes, so whichever of two restarts goes on first, the workers are attached in the order in
which they come.
-/
namespace EvalSession.Session

variable {U X : Type}

structure Machine (U X : Type) where
  state : Session U X
  stack : List (Frame U X) := []
  fault : Option Fault := none
  events : List (Event U X) := []

inductive Operation (U X : Type) where
  | execute (code : String) (hooks : Option (Hooks U))
  | complete (code : List Char) (cursor : Int) (hooks : Hooks U)
  | inspect (code : List Char) (cursor : Int) (hooks : Hooks U)
  | assign (transform : Option X)
  | kill (signal : String) (notify : Bool)
  | restart (signal : String) (notify : Bool)
  | deliver (worker : Nat) (message : Value)
  | arrive (channel : Kernel.Channel) (message : Option Value)
  | transmit (fields : Object) (messageId : Option String)
  | install (handler : Option Handler)
  | terminate (signal : String)

def Operation.frame : Operation U X → Frame U X
  | .execute code hooks => .execute code hooks
  | .complete code cursor hooks => .complete code cursor hooks
  | .inspect code cursor hooks => .inspect code cursor hooks
  | .assign x => .assign x
  | .kill signal notify => .kill signal notify
  | .restart signal notify => .restart signal notify
  | .deliver worker message => .deliver worker message
  | .arrive channel message => .arrive channel message
  | .transmit fields messageId => .transmit fields messageId
  | .install handler => .install handler
  | .terminate signal => .terminate signal .stop

inductive Move (U X : Type) where
  | tick
  | start (operation : Operation U X)
  | answer (a : Answer)
  /-- Outside code handles the fault of an operation it started, and goes on. -/
  | recover

namespace Machine

/-- Puts the outcome of a stage in the place of the top frame. -/
def after (m : Machine U X) (rest : List (Frame U X)) (turn : Turn U X) : Machine U X where
  state := turn.state
  stack := turn.frames ++ rest
  fault := turn.fault
  events := turn.events.reverse ++ m.events

def idle (m : Machine U X) : Bool := m.stack.isEmpty

/-- The work that is left, if any, waits for outside code. -/
def suspended (m : Machine U X) : Bool :=
  match m.stack with
  | [] => true
  | f :: _ => (f.tick m.state).isNone

def open? (m : Machine U X) : Bool :=
  match m.stack with
  | [] => true
  | f :: _ => (f.tick m.state).isNone && m.fault.isNone

/-- Starts an operation; the fault of an earlier one is forgotten. -/
def push (m : Machine U X) (operation : Operation U X) : Machine U X :=
  { m with stack := operation.frame :: m.stack, fault := none }

def tick (m : Machine U X) : Option (Machine U X) :=
  match m.stack, m.fault with
  | [], _ => none
  | f :: rest, some e => some (m.after rest (f.unwind m.state e))
  | f :: rest, none => (f.tick m.state).map (m.after rest)

def answer (m : Machine U X) (a : Answer) : Option (Machine U X) :=
  match m.stack, m.fault with
  | f :: rest, none => (f.answer m.state a).map (m.after rest)
  | _, _ => none

def step (m : Machine U X) : Move U X → Option (Machine U X)
  | .tick => m.tick
  | .start operation => if m.open? then some (m.push operation) else none
  | .answer a => m.answer a
  | .recover => if m.suspended && m.fault.isSome then some { m with fault := none } else none

def run (m : Machine U X) : List (Move U X) → Option (Machine U X)
  | [] => some m
  | move :: rest => (m.step move).bind fun n => n.run rest

end Machine

end EvalSession.Session

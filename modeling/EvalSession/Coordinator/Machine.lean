import EvalSession.Coordinator.Frame

/-!
# Runs of one coordinator

A machine is a coordinator with its stack of frames, a fault on its way through them, and the events so far, latest
first. `step` is the only way it moves: a stage of its own, the start of an operation by outside code, the answer of
outside code, or outside code handling the fault of an operation it started. Operations start when the stack is empty
or its top frame waits.
-/
namespace EvalSession.Coordinator

variable {H X : Type}

structure Machine (H X : Type) where
  state : Coordinator H X := {}
  stack : List (Frame H X) := []
  fault : Option Fault := none
  events : List (Event H X) := []

inductive Operation (H X : Type) where
  | submit (task : Task H)
  | route (message : Value)
  | kill
  | assign (transform : Option X)

def Operation.frame : Operation H X → Frame H X
  | .submit task => .submit task
  | .route message => .route message
  | .kill => .kill
  | .assign x => .assign x

inductive Move (H X : Type) where
  | tick
  | start (operation : Operation H X)
  | answer (a : Answer)
  /-- Outside code handles the fault of an operation it started, and goes on. -/
  | recover

namespace Machine

/-- Puts the outcome of a stage in the place of the top frame. -/
def after (m : Machine H X) (rest : List (Frame H X)) (turn : Turn H X) : Machine H X where
  state := turn.state
  stack := turn.frames ++ rest
  fault := turn.fault
  events := turn.events.reverse ++ m.events

def idle (m : Machine H X) : Bool := m.stack.isEmpty

/-- The work that is left, if any, waits for outside code. -/
def suspended (m : Machine H X) : Bool :=
  match m.stack with
  | [] => true
  | f :: _ => f.waits

def open? (m : Machine H X) : Bool :=
  match m.stack with
  | [] => true
  | f :: _ => f.waits && m.fault.isNone

/-- Starts the work of a frame; the fault of an earlier operation is forgotten. -/
def push (m : Machine H X) (f : Frame H X) : Machine H X := { m with stack := f :: m.stack, fault := none }

def tick (m : Machine H X) : Option (Machine H X) :=
  match m.stack, m.fault with
  | [], _ => none
  | f :: rest, some e => some (m.after rest (f.unwind m.state e))
  | f :: rest, none => (f.tick m.state).map (m.after rest)

def answer (m : Machine H X) (a : Answer) : Option (Machine H X) :=
  match m.stack, m.fault with
  | f :: rest, none => (f.answer m.state a).map (m.after rest)
  | _, _ => none

def step (m : Machine H X) : Move H X → Option (Machine H X)
  | .tick => m.tick
  | .start operation => if m.open? then some (m.push operation.frame) else none
  | .answer a => m.answer a
  | .recover => if m.suspended && m.fault.isSome then some { m with fault := none } else none

def run (m : Machine H X) : List (Move H X) → Option (Machine H X)
  | [] => some m
  | move :: rest => (m.step move).bind fun n => n.run rest

end Machine

end EvalSession.Coordinator

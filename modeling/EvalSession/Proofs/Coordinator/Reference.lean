import EvalSession.Proofs.Coordinator.Addressing

/-!
# Tasks one after the other

A `Scenario` fixes the tasks, what the transform makes of their codes and how the worker answers each request. Its
`sequence` is what is seen when every task is played to its end before the next one starts, and `settled` is the
coordinator after that. `Allows` leaves the schedule open: it only says which task comes next, and which message of an
answer.
-/
namespace EvalSession.Coordinator

variable {H X : Type}

/-- An answer of the worker: output, and then the only reply, which ends the context. -/
inductive Complete (k : Nat) : List Value → Prop
  | last {v nt} (hn : notice? v = some nt) (hid : nt.id = some (k : Int)) (hl : nt.last = true) : Complete k [v]
  | chunk {v nt vs} (hn : notice? v = some nt) (hid : nt.id = some (k : Int)) (hr : nt.reply = false)
      (h : Complete k vs) : Complete k (v :: vs)

lemma Complete.notice {k : Nat} {v : Value} {vs : List Value} (h : Complete k (v :: vs)) :
    ∃ nt, notice? v = some nt ∧ nt.id = some (k : Int) ∧
      (nt.last = true ∧ vs = [] ∨ nt.reply = false ∧ Complete k vs) := by
  cases h with
  | last hn hid hl => exact ⟨_, hn, hid, .inl ⟨hl, rfl⟩⟩
  | chunk hn hid hr h => exact ⟨_, hn, hid, .inr ⟨hr, h⟩⟩

structure Scenario (H X : Type) where
  tasks : List (Task H)
  transform : Option X
  /-- What the transform does with a code. -/
  rewrite : X → Value → Except Fault String
  worker : Request → List Value
  textual : ∀ task ∈ tasks, ∃ text, task.code = .string text
  ordinary : ∀ x code f, rewrite x code = .error f → f.ordinary = true
  complete : ∀ request, Complete request.contextId (worker request)

/-- Calls of the transform and of hooks, and requests that are sent. -/
@[simp] def Event.visible? : Event H X → Option (Event H X)
  | .transforming x code => some (.transforming x code)
  | .sent request => some (.sent request)
  | .told t moment argument => some (.told t moment argument)
  | .called h argument => some (.called h argument)
  | _ => none

instance : Discreet (H := H) (X := X) Event.visible? := ⟨fun e he => by cases e <;> simp_all⟩

/-- What outside code sees of a run, in its order. -/
def visible (es : List (Event H X)) : List (Event H X) := gather Event.visible? es

def calls (hooks : Hooks H) (t : Nat) (moment : Moment) (argument : Argument) : List (Event H X) :=
  match hooks.get moment with
  | none => []
  | some h => [.told t moment argument, .called h argument]

def reaction (hooks : Hooks H) (t : Nat) (message : Value) : List (Event H X) :=
  match notice? message with
  | none => []
  | some nt => calls hooks t nt.moment nt.argument ++ if nt.last then calls hooks t .afterRun .nothing else []

lemma reaction_of_last {hooks : Hooks H} {t : Nat} {v : Value} {nt : Notice} (hn : notice? v = some nt)
    (hl : nt.last = true) :
    (reaction hooks t v : List (Event H X)) =
      calls hooks t nt.moment nt.argument ++ calls hooks t .afterRun .nothing := by
  simp [reaction, hn, hl]

lemma reaction_of_output {hooks : Hooks H} {t : Nat} {v : Value} {nt : Notice} (hn : notice? v = some nt)
    (hr : nt.reply = false) : (reaction hooks t v : List (Event H X)) = calls hooks t nt.moment nt.argument := by
  simp [reaction, hn, last_of_output hn hr]

namespace Scenario

variable (s : Scenario H X)

/-- A code is sent, and the worker answers it. -/
def exchange (task : Task H) (t : Nat) : Value → List (Event H X)
  | .string text =>
    .sent ⟨task.action, text, t + 1⟩ :: (s.worker ⟨task.action, text, t + 1⟩).flatMap (reaction task.hooks t)
  | _ => []

/-- What comes after a call of the transform. -/
def verdict (task : Task H) (t : Nat) (x : X) : List (Event H X) :=
  match s.rewrite x task.code with
  | .ok text => s.exchange task t (.string text)
  | .error f => calls task.hooks t .error (failure f) ++ calls task.hooks t .afterRun .nothing

/-- What comes after the hook before the run. -/
def body (task : Task H) (t : Nat) : List (Event H X) :=
  match task.action, s.transform with
  | .run, some x => .transforming x task.code :: s.verdict task t x
  | _, _ => s.exchange task t task.code

def episode (t : Nat) (task : Task H) : List (Event H X) :=
  calls task.hooks t .beforeRun .nothing ++ s.body task t

/-- The episodes of the first tasks. -/
def played (n : Nat) : List (Event H X) := ((s.tasks.take n).mapIdx s.episode).flatten

def sequence : List (Event H X) := (s.tasks.mapIdx s.episode).flatten

/-- The task as it is kept once it has been dispatched. -/
def settle (task : Task H) : Task H :=
  match task.action, s.transform with
  | .run, some x =>
    match s.rewrite x task.code with
    | .ok text => { task with code := .string text }
    | .error _ => task
  | _, _ => task

def settled : Coordinator H X where
  tasks := s.tasks.map s.settle
  lastContext := s.tasks.length
  lastTask := (List.range s.tasks.length).getLast?
  transform := s.transform

def outcome (x : X) (code : Value) : Answer :=
  match s.rewrite x code with
  | .ok text => .code (.string text)
  | .error f => .raised f

/-- Hooks return or raise, sending goes well, and the transform does what it does with the code. -/
def Permits : Option (Frame H X) → Answer → Prop
  | some (.awaitHook ..), .done => True
  | some (.awaitHook ..), .raised f => f.ordinary = true
  | some (.awaitSend _), .done => True
  | some (.awaitTransform _ _ x code), a => a = s.outcome x code
  | _, _ => False

/-- Whenever outside code has control, the next task may be handed in, or the next message of any answer delivered. -/
def Allows (m : Machine H X) : Move H X → Prop
  | .start (.submit task) => s.tasks[(given m.events).length]? = some task
  | .start (.route v) => ∃ r ∈ requests m.events, (s.worker r)[(tagged m.events r.contextId).length]? = some v
  | .start .kill | .start (.assign _) => False
  | .answer a => s.Permits m.stack.head? a
  | .tick | .recover => True

/-- Everything has been handed in and delivered, and nothing is left to do. -/
def Done (m : Machine H X) : Prop :=
  m.stack = [] ∧ s.tasks.length ≤ (given m.events).length ∧
    ∀ r ∈ requests m.events, (s.worker r).length ≤ (tagged m.events r.contextId).length

instance [DecidableEq H] [DecidableEq X] (f : Option (Frame H X)) (a : Answer) : Decidable (s.Permits f a) := by
  unfold Permits
  split <;> infer_instance

instance [DecidableEq H] [DecidableEq X] (m : Machine H X) (move : Move H X) : Decidable (s.Allows m move) := by
  unfold Allows
  split <;> infer_instance

instance (m : Machine H X) : Decidable (s.Done m) :=
  have : Decidable (m.stack = []) := decidable_of_iff (m.stack.isEmpty = true) (by simp)
  inferInstanceAs (Decidable (_ ∧ _))

lemma settle_textual {task : Task H} (h : task ∈ s.tasks) : ∃ text, (s.settle task).code = .string text := by
  unfold settle
  split
  · split
    · exact ⟨_, rfl⟩
    · exact s.textual task h
  · exact s.textual task h

@[simp] lemma settle_action (task : Task H) : (s.settle task).action = task.action := by
  unfold settle
  split <;> [split; skip] <;> rfl

@[simp] lemma settle_hooks (task : Task H) : (s.settle task).hooks = task.hooks := by
  unfold settle
  split <;> [split; skip] <;> rfl

lemma played_succ {t : Nat} {task : Task H} (h : s.tasks[t]? = some task) :
    s.played (t + 1) = s.played t ++ s.episode t task := by
  obtain ⟨ht, -⟩ := List.getElem?_eq_some_iff.mp h
  have hlen : (s.tasks.take t).length = t := by simp [ht.le]
  rw [played, List.take_add_one, h, Option.toList_some, List.mapIdx_concat, hlen]
  simp [played]

lemma played_prefix (n : Nat) : s.played n <+: s.sequence := by
  refine ⟨((s.tasks.drop n).mapIdx fun i => s.episode (i + (s.tasks.take n).length)).flatten, ?_⟩
  rw [played, sequence, ← List.flatten_append, ← List.mapIdx_append, List.take_append_drop]

lemma played_all {n : Nat} (h : s.tasks.length ≤ n) : s.played n = s.sequence := by
  rw [played, List.take_of_length_le h, sequence]

lemma body_run {task : Task H} {t : Nat} {x : X} (ha : task.action = .run) (hx : s.transform = some x) :
    s.body task t = .transforming x task.code :: s.verdict task t x := by
  simp [body, ha, hx]

lemma body_verbatim {task : Task H} {t : Nat} (h : task.action = .run → s.transform = none) :
    s.body task t = s.exchange task t task.code ∧ s.settle task = task := by
  unfold body settle
  cases ha : task.action <;> cases hx : s.transform <;> simp_all

lemma verdict_ok {task : Task H} {t : Nat} {x : X} {text : String} (ha : task.action = .run)
    (hx : s.transform = some x) (hr : s.rewrite x task.code = .ok text) :
    s.settle task = { task with code := .string text } ∧
      s.verdict task t x = s.exchange task t (s.settle task).code := by
  simp [verdict, settle, ha, hx, hr]

lemma verdict_error {task : Task H} {t : Nat} {x : X} {f : Fault} (ha : task.action = .run)
    (hx : s.transform = some x) (hr : s.rewrite x task.code = .error f) :
    s.settle task = task ∧ s.verdict task t x = reaction task.hooks t (errorReply (t + 1) f) := by
  refine ⟨by simp [settle, ha, hx, hr], ?_⟩
  rw [reaction_of_last (errorReply_notice (t + 1) f) rfl]
  simp [verdict, hr]

lemma permits_code (t id : Nat) {x : X} {code v : Value}
    (h : s.Permits (some (.awaitTransform t id x code : Frame H X)) (.code v)) :
    ∃ text, s.rewrite x code = .ok text ∧ v = .string text := by
  simp only [Permits, outcome] at h
  split at h
  · rename_i text hr
    exact ⟨text, hr, by simpa using h⟩
  · cases h

lemma permits_raised {f : Fault} {g : Frame H X} (h : s.Permits (some g) (.raised f)) :
    (∃ hook argument, g = .awaitHook hook argument) ∧ f.ordinary = true ∨
      ∃ t id x code, g = .awaitTransform t id x code ∧ s.rewrite x code = .error f := by
  cases g <;> simp only [Permits] at h
  · rename_i t id x code
    refine .inr ⟨t, id, x, code, rfl, ?_⟩
    unfold outcome at h
    split at h <;> simp_all
  · exact .inl ⟨⟨_, _, rfl⟩, h⟩

lemma resumable (c : Coordinator H X) (f : Frame H X) (r : List (Frame H X)) (es : List (Event H X)) :
    ∃ move n, s.Allows ⟨c, f :: r, none, es⟩ move ∧ Machine.step ⟨c, f :: r, none, es⟩ move = some n := by
  cases f with
  | awaitHook => exact ⟨.answer .done, _, trivial, rfl⟩
  | awaitSend => exact ⟨.answer .done, _, trivial, rfl⟩
  | awaitTransform t id x code =>
    cases hr : s.rewrite x code with
    | ok text => exact ⟨.answer (.code (.string text)), _, by simp [Allows, Permits, outcome, hr], rfl⟩
    | error f => exact ⟨.answer (.raised f), _, by simp [Allows, Permits, outcome, hr], rfl⟩
  | _ => exact ⟨.tick, _, trivial, rfl⟩

end Scenario

end EvalSession.Coordinator

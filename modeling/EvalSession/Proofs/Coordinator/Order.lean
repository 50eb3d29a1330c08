import EvalSession.Proofs.Coordinator.Ledger

/-!
# Tasks are dispatched in the order in which they were taken in

Main statement: whatever the worker, the hooks and the transform do, a run is `Orderly`, so queue and dispatches make
up the tasks taken in, and every request carries the code of its own task.
-/
namespace EvalSession.Coordinator

variable {H X : Type}

namespace Machine

def submitted (m : Machine H X) : List Nat := gather Event.number? m.events

def dispatched (m : Machine H X) : List Nat := gather Event.opened? m.events ++ begun m.stack

end Machine

/-- The transform in force after some events, when `x` was in force before them. -/
def inForce (x : Option X) : List (Event H X) → Option X
  | [] => x
  | .assigned y :: _ => y
  | _ :: es => inForce x es

structure Orderly (x : Option X) (m : Machine H X) : Prop where
  /-- Before a kill no task is lost, doubled or moved. -/
  complete : m.state.killed = false → m.dispatched ++ m.state.pending = m.submitted
  inOrder : m.dispatched <+: m.submitted
  /-- The number of a task is its place among the tasks taken in. -/
  numbered : m.submitted = List.range (given m.events).length
  /-- One dispatch is in progress at most. -/
  single : m.stack.countP Frame.dispatches ≤ 1
  /-- A dispatch is called by the only drain loop, when what the one before it left to do is done. -/
  alone : ∀ above t below, m.stack = above ++ .dispatch t :: below →
    above = [] ∧ ∃ rest, below = .drainLoop :: rest ∧ ∀ f ∈ rest, f.dispatches = false ∧ f.isLoop = false
  /-- What the dispatches leave in the trace, in the order of the tasks. -/
  story : Dispatches ((given m.events).take m.state.lastContext) (dispatchEvents m.events)
  /-- A dispatch goes by the transform that is in force when the hook before the run is over. -/
  forced : ∀ newer id y older, m.events = newer ++ .ready id y :: older → y = inForce x older
  increasing : (requests m.events).Pairwise fun a b => a.contextId < b.contextId

/-- A dispatch goes by the transform in force. -/
def Obeys (x : Option X) (older : List (Event H X)) (e : Event H X) : Prop :=
  ∀ id y, e = .ready id y → y = inForce x older

structure Enforced (x : Option X) (m : Machine H X) : Prop where
  current : m.state.transform = inForce x m.events
  always : Historic (Obeys x) m.events

lemma inForce_silent (x : Option X) {quiet : List (Event H X)} (hq : ∀ e ∈ quiet, e.silent = true)
    (es : List (Event H X)) : inForce x (quiet ++ es) = inForce x es := by
  induction quiet with
  | nil => rfl
  | cons e quiet ih =>
    have he := hq e (by simp)
    have hrest := ih fun e' he => hq e' (by simp [he])
    cases e <;> first | exact hrest | cases he

lemma obeys_silent (x : Option X) (es : List (Event H X)) (e : Event H X) (h : e.silent = true) : Obeys x es e := by
  rintro id y rfl
  simp at h

theorem enforced_step {x : Option X} {m n : Machine H X} {move : Move H X} (h : Stage m move n) (he : Enforced x m) :
    Enforced x n := by
  obtain ⟨hc, ha⟩ := he
  cases h with
  | left h => exact ⟨hc.trans (inForce_silent x h.silent _).symm, (historic_silent (obeys_silent x) h.silent _).mpr ha⟩
  | started => exact ⟨hc, ha⟩
  | recovered => exact ⟨hc, ha⟩
  | _ =>
    constructor <;> first
      | assumption
      | simp_all [inForce, Historic, Obeys, inForce_silent x (silent_logs _),
          historic_silent (obeys_silent x) (silent_logs _)]

/-- Every frame of a dispatch stands on a drain loop of its own. -/
lemma Seated.dispatches_le : ∀ {stack : List (Frame H X)}, Seated stack →
    stack.countP Frame.dispatches ≤ stack.countP Frame.isLoop
  | [], _ => by simp
  | f :: rest, h => by
    cases hd : f.dispatches with
    | false =>
      have := dispatches_le h.2
      simp only [List.countP_cons, hd, Bool.false_eq_true, if_false]
      omega
    | true =>
      obtain ⟨below, rfl⟩ := List.head?_eq_some_iff.mp (h.1.loop hd)
      have := dispatches_le h.2.2
      have hl : f.isLoop = false := by cases f <;> simp_all [Frame.dispatches, Frame.isLoop]
      have htop : List.countP Frame.dispatches (.drainLoop :: below) = List.countP Frame.dispatches below := rfl
      have hloop : List.countP Frame.isLoop (.drainLoop :: below) = List.countP Frame.isLoop below + 1 := by
        simp [List.countP_cons, Frame.isLoop]
      simp only [List.countP_cons (a := f), hd, hl, htop, hloop, Bool.false_eq_true, if_false, if_true]
      omega

/-- A dispatch that has just been called is on top, right on the only drain loop. -/
lemma Shape.dispatch_alone {m : Machine H X} (h : Shape m) {above below : List (Frame H X)} {t : Nat}
    (hm : m.stack = above ++ .dispatch t :: below) :
    above = [] ∧ ∃ rest, below = .drainLoop :: rest ∧ ∀ f ∈ rest, f.dispatches = false ∧ f.isLoop = false := by
  have hs := h.seated
  cases above with
  | cons f above =>
    have hr := hs
    rw [hm] at hr
    have := hr.resumes (.dispatch t) (by simp)
    simp [Frame.resumes, Frame.waits] at this
  | nil =>
    rw [hm] at hs
    obtain ⟨rest, rfl⟩ := List.head?_eq_some_iff.mp (hs.1.loop rfl)
    have hc : Shape (H := H) (X := X) { m with stack := .drainLoop :: rest, fault := none } :=
      ⟨hs.2, by simpa [hm, Frame.isLoop] using h.loops, by simp⟩
    exact ⟨rfl, rest, rfl, hc.calm_below_loop rfl⟩

/-- Hooks, the transform and sending may start operations and raise as they like, and the worker may send anything:
every run from a fresh coordinator is orderly. -/
theorem run_orderly {x : Option X} {moves : List (Move H X)} {m : Machine H X}
    (h : (Machine.fresh x).run moves = some m) : Orderly x m := by
  obtain ⟨hs, he⟩ : Sound m ∧ Enforced x m := by
    rw [Machine.run_eq] at h
    refine run_invariant (I := fun m => Sound m ∧ Enforced x m) ?_
      (follows_of_mem (fun _ _ _ => trivial) _ : Follows _ (fun _ _ => True) _ moves) h ⟨sound_fresh x, rfl, trivial⟩
    intro m move n _ hst hi
    exact ⟨sound_step (step_stage hst) hi.1, enforced_step (step_stage hst) hi.2⟩
  have hq := hs.queued
  have hd : m.dispatched = List.range m.state.lastContext ++ begun m.stack := by rw [Machine.dispatched, hq.opened]
  have hids := (requests_eq m.events).symm ▸ hs.ledger.story.contextIds.1
  exact {
    complete := fun hk => by rw [hd, hq.complete hk, Machine.submitted, hq.numbered]
    inOrder := by
      rw [hd, Machine.submitted, hq.numbered]
      exact (List.prefix_append _ _).trans hq.inOrder
    numbered := hq.numbered
    single := by
      have := hs.shape.seated.dispatches_le
      have := hs.shape.loops
      have := Bool.toNat_le (c := m.state.draining)
      omega
    alone := fun above t below hm => hs.shape.dispatch_alone hm
    story := hs.ledger.story
    forced := fun newer id y older hm => (hm ▸ he.always).before id y rfl
    increasing := List.pairwise_map.mp hids }

/-- A task is sent as the transform rewrites it, and a second one waits behind it. -/
def oneBehind : List (Move Nat Nat) :=
  List.flatten [[.start (.submit ⟨.run, .string "x", {}⟩)], List.replicate 6 .tick,
    [.answer (.code (.string "y")), .tick, .start (.submit ⟨.inspect, .string "z", {}⟩), .tick]]

theorem oneBehind_orderly :
    ∃ m, (Machine.fresh (some 7)).run oneBehind = some m ∧ Orderly (some 7) m ∧
      m.dispatched = [0] ∧ m.state.pending = [1] ∧ requests m.events = [⟨.run, "y", 1⟩] := by
  have h : ((Machine.fresh (some 7)).run oneBehind).isSome = true := by decide +kernel
  have hm := (Option.some_get h).symm
  exact ⟨_, hm, run_orderly hm, rfl, rfl, rfl⟩

end EvalSession.Coordinator

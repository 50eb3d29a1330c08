import EvalSession.Proofs.Session.View

/-!
# At most one request is outstanding

Main statement: over an honest worker, every request that a link has sent, but for the latest, has been replied to.
Messages may come at any time, also while a request is being sent or a hook is running.
-/
namespace EvalSession.Session

open Coordinator (Sent Replied Excused requests)

variable {U X : Type}

structure OneOutstanding (es : List (Coordinator.Event (Hook U) X)) : Prop where
  /-- Every request but the latest has had a reply routed. -/
  single : ∀ r ∈ (requests es).dropLast, Replied es r.contextId
  /-- When a request is sent, every earlier context has been replied to: by the worker, to a request of its own, or on
  the spot when its transform failed. -/
  inTurn : ∀ newer r older, es = newer ++ .sent r :: older → ∀ k, 1 ≤ k → k < r.contextId →
    Replied older k ∧ (Sent older k ∨ Excused older k)

lemma lt_of_mem_dropLast {α : Type} {R : α → α → Prop} {l : List α} (h : l.Pairwise R) {a : α} (ha : a ∈ l.dropLast) :
    ∃ b ∈ l, R a b := by
  have hne : l ≠ [] := by
    rintro rfl
    simp at ha
  rw [← List.dropLast_append_getLast hne, List.pairwise_append] at h
  exact ⟨l.getLast hne, List.getLast_mem hne, h.2.2 a ha _ (List.mem_singleton_self _)⟩

lemma oneOutstanding_of_addressed {m : Coordinator.Machine (Hook U) X} (hs : Coordinator.Sound m)
    (ha : Coordinator.Addressed m) (hi : Coordinator.Historic Coordinator.InTurn m.events) : OneOutstanding m.events where
  single := by
    intro r hr
    have hids := (Coordinator.requests_eq m.events).symm ▸ hs.ledger.story.contextIds.1
    obtain ⟨r', hr', hlt⟩ := lt_of_mem_dropLast (List.pairwise_map.mp hids) hr
    obtain ⟨-, hle⟩ := ha.sent r'.contextId ⟨r', hr', rfl⟩
    obtain ⟨h1, hle'⟩ := ha.sent r.contextId ⟨r, List.mem_of_mem_dropLast hr, rfl⟩
    by_contra hn
    have := (ha.occupied r.contextId h1 hle' hn).1
    omega
  inTurn := by
    rintro newer r older hm k h1 hk
    exact (hm ▸ hi).before r rfl k h1 hk

/-- In every run of a session over an honest worker, whatever is called when, at most one request is outstanding. -/
theorem links_oneOutstanding {worker : Worker} {transform : Option X} {restartable : Bool}
    {documentation : Documentation.Index} {moves : List (Move U X)} {m : Machine U X}
    (hf : Follows Machine.step Honest { state := Session.make worker transform restartable documentation } moves)
    (hr : Machine.run { state := Session.make worker transform restartable documentation } moves = some m) :
    ∀ g < m.state.links.length, OneOutstanding (eventsOf g m.events) := by
  intro g hg
  have hinv := link_invariant
    (I := fun m => Coordinator.Sound m ∧ Coordinator.Addressed m ∧ Coordinator.Historic Coordinator.InTurn m.events)
    (fun x => ⟨Coordinator.sound_fresh x, Coordinator.addressed_fresh x, trivial⟩)
    (fun ho hst ⟨hs, ha, hi⟩ => ⟨Coordinator.sound_step hst hs, Coordinator.addressed_step hst hs ho ha,
      Coordinator.inTurn_step hst hs ha hi⟩) hf hr g hg
  exact oneOutstanding_of_addressed hinv.1 hinv.2.1 hinv.2.2

/-- The worker answers the first request from within the sending of it, and the second one is sent. -/
def answeredWhileSending : List (Move Nat Nat) :=
  List.flatten [[.start (.execute "x" none)], List.replicate 8 .tick, [.start (.execute "y" none), .tick, .tick,
    .start (.deliver 0 (.object [("id", .int 1), ("end", .bool true), ("mime", .object [])]))], List.replicate 7 .tick,
    [.answer .done], List.replicate 5 .tick]

theorem answeredWhileSending_oneOutstanding :
    ∃ m, Machine.run { state := Session.make (.remote 0) none false ⟨[], []⟩ } answeredWhileSending = some m ∧
      OneOutstanding (eventsOf 0 m.events) ∧ (requests (eventsOf 0 m.events)).map Request.contextId = [1, 2] := by
  have h : (Machine.run { state := Session.make (.remote 0) none false ⟨[], []⟩ } answeredWhileSending).isSome = true :=
    by decide +kernel
  have hm := (Option.some_get h).symm
  exact ⟨_, hm, links_oneOutstanding (by decide +kernel) hm 0 Nat.one_pos, rfl⟩

end EvalSession.Session

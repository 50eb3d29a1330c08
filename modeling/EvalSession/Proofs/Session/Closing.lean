import EvalSession.Proofs.Coordinator.Closing
import EvalSession.Proofs.Session.View

/-!
# A session that has been killed

Main statement: from whatever point on a link is killed, it opens no context any more and sends nothing, with one exception:
a dispatch that was under way goes on to its request.
-/
namespace EvalSession.Session

open Coordinator (requests)

variable {U X : Type} {worker : Worker} {transform : Option X} {restartable : Bool} {documentation : Documentation.Index}
  {m n : Machine U X} {moves later : List (Move U X)}

lemma unrestricted : Restricts (U := U) (X := X) (fun _ _ => True) fun _ _ => True where
  recover := fun _ => trivial
  drives := fun _ _ => trivial

lemma links_halted
    (hr : Machine.run { state := Session.make worker transform restartable documentation } moves = some m) :
    ∀ g < m.state.links.length, Coordinator.Sound (m.view g) ∧ Coordinator.Halted (m.view g) := by
  have hfresh : ∀ x, Coordinator.Sound (H := Hook U) (X := X) (.fresh x) ∧ Coordinator.Halted (H := Hook U) (.fresh x) :=
    fun x => ⟨Coordinator.sound_fresh x, fun _ => rfl⟩
  refine view_invariant (I := fun p => Coordinator.Sound p ∧ Coordinator.Halted p) unrestricted hfresh ?_ (housed_start ..)
    (follows_of_mem (fun _ _ _ => trivial) _) hr
    (view_start (I := fun p => Coordinator.Sound p ∧ Coordinator.Halted p) _ _ _ _ hfresh)
  exact fun _ hs h => ⟨Coordinator.sound_step hs h.1, Coordinator.halted_step hs h.1.shape h.2⟩

/-- Once a link is killed, nothing is sent over it but, at most, the request of the dispatch that was under way. -/
theorem links_closed
    (hr : Machine.run { state := Session.make worker transform restartable documentation } moves = some m)
    (hn : m.run later = some n) {g : Nat} (hk : (coordinatorOf m.state g).killed = true) :
    (coordinatorOf n.state g).killed = true ∧
      (coordinatorOf n.state g).lastContext = (coordinatorOf m.state g).lastContext ∧
      (requests (eventsOf g n.events) = requests (eventsOf g m.events) ∨
        ∃ r, requests (eventsOf g n.events) = requests (eventsOf g m.events) ++ [r] ∧
          ∃ f ∈ framesOf g m.stack, ∃ t, f.running? = some (t, r.contextId)) := by
  have hg : g < m.state.links.length := by
    by_contra hg
    simp [coordinatorOf, List.getElem?_eq_none (Nat.le_of_not_lt hg)] at hk
  obtain ⟨hs, hh⟩ := links_halted hr g hg
  have hspent := view_keeps (I := fun p => Coordinator.Sound p ∧ Coordinator.Halted p ∧ Coordinator.Spent (m.view g) p)
    unrestricted (fun _ hst h => ⟨Coordinator.sound_step hst h.1, Coordinator.halted_step hst h.1.shape h.2.1,
      Coordinator.spent_step hst h.2.1 h.2.2⟩) (housed_run (housed_start ..) hr) (follows_of_mem (fun _ _ _ => trivial) _) hn hg
    ⟨hs, hh, Coordinator.spent_refl hk⟩
  exact ⟨hspent.2.2.killed, hspent.2.2.lastContext, hspent.2.2.requests_eq hs.shape⟩

/-- A task waits on the worker and another one in the queue when the session is killed. -/
def killedBusy : List (Move Nat Nat) :=
  List.flatten [[.start (.execute "x" none)], List.replicate 8 .tick, [.answer .done, .tick, .start (.execute "y" none)],
    List.replicate 2 .tick, [.start (.kill "SIGTERM" false)], List.replicate 4 .tick]

/-- The worker ends, its last reply comes too late, and a further task is handed in. -/
def afterwards : List (Move Nat Nat) :=
  [.answer (.exited ⟨none, some "SIGTERM"⟩), .tick,
    .start (.deliver 0 (.object [("id", .int 1), ("end", .bool true), ("mime", .object [])])), .tick,
    .start (.execute "z" none), .tick, .tick]

theorem killedBusy_closed :
    ∃ m n, Machine.run { state := Session.make (.remote 0) none false ⟨[], []⟩ } killedBusy = some m ∧
      m.run afterwards = some n ∧ (coordinatorOf m.state 0).killed = true ∧ (coordinatorOf n.state 0).killed = true ∧
      requests (eventsOf 0 n.events) = requests (eventsOf 0 m.events) := by
  have h : (Machine.run { state := Session.make (.remote 0) none false ⟨[], []⟩ } killedBusy).isSome = true := by
    decide +kernel
  have hm := (Option.some_get h).symm
  have h' : (((Machine.run { state := Session.make (.remote 0) none false ⟨[], []⟩ } killedBusy).get
      (by decide +kernel)).run afterwards).isSome = true := by decide +kernel
  have hn := (Option.some_get h').symm
  obtain ⟨hk, -, hreq | ⟨r, -, f, hf, -⟩⟩ := links_closed (g := 0) hm hn rfl
  · exact ⟨_, _, hm, hn, rfl, hk, hreq⟩
  · cases hf

/-- The hook before the run kills the session. -/
def killedBefore : List (Move Nat Nat) :=
  List.flatten [[.start (.execute "x" (some { beforeRun := some 5 }))], List.replicate 6 .tick,
    [.start (.kill "SIGTERM" false)], List.replicate 4 .tick]

/-- The task whose hook killed the session is sent none the less. -/
theorem killedBefore_sends :
    ∃ m n, Machine.run { state := Session.make (.remote 0) none false ⟨[], []⟩ } killedBefore = some m ∧
      m.run [.answer (.exited ⟨none, some "SIGTERM"⟩), .tick, .answer .done, .tick, .tick] = some n ∧
      (coordinatorOf m.state 0).killed = true ∧ requests (eventsOf 0 m.events) = [] ∧
      requests (eventsOf 0 n.events) = [⟨.run, "x", 1⟩] := by
  have h : (Machine.run { state := Session.make (.remote 0) none false ⟨[], []⟩ } killedBefore).isSome = true := by
    decide +kernel
  have hm := (Option.some_get h).symm
  have h' : (((Machine.run { state := Session.make (.remote 0) none false ⟨[], []⟩ } killedBefore).get
      (by decide +kernel)).run [.answer (.exited ⟨none, some "SIGTERM"⟩), .tick, .answer .done, .tick, .tick]).isSome =
        true := by decide +kernel
  have hn := (Option.some_get h').symm
  exact ⟨_, _, hm, hn, rfl, rfl, rfl⟩

end EvalSession.Session

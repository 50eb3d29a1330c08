import EvalSession.Proofs.Session.Kernels
import EvalSession.Proofs.Session.Onto
import EvalSession.Proofs.Session.Silence

/-!
# Workers that nobody listens to

A restart takes the handler off the worker it ends before another one comes. Main statement: where restarts come one
after another, a session that waits for its next worker listens to none.
-/
namespace EvalSession.Session

variable {U X : Type}

def Frame.restarts : Frame U X → Bool
  | .restart .. | .awaitWorker .. => true
  | .terminate _ ending | .awaitTermination ending | .finish ending _ => match ending with
    | .restart _ => true
    | _ => false
  | _ => false

/-- A frame of a restart that has begun to end the worker. -/
def Frame.parts : Frame U X → Bool
  | .restart .. => false
  | f => f.restarts

/-- Restarts come one after another, none within another, and nobody but the session says who listens to its workers. -/
def Successive (m : Machine U X) : Move U X → Prop
  | .start (.restart ..) => ∀ f ∈ m.stack, f.restarts = false
  | .start (.install handler) => handler = none
  | _ => True

instance (m : Machine U X) (move : Move U X) : Decidable (Successive m move) :=
  match move with
  | .start (.restart ..) => inferInstanceAs (Decidable (∀ f ∈ m.stack, f.restarts = false))
  | .start (.install handler) => inferInstanceAs (Decidable (handler = none))
  | .start (.execute ..) | .start (.complete ..) | .start (.inspect ..) | .start (.assign _) | .start (.kill ..)
  | .start (.deliver ..) | .start (.arrive ..) | .start (.transmit ..) | .start (.terminate _) | .answer _ | .tick
  | .recover => isTrue trivial

/-- What a stage leaves as it is: workers and their handlers may go, and none comes. -/
structure Waning (s s' : Session U X) : Prop where
  restartable : s'.restartable = s.restartable
  documentation : s'.documentation = s.documentation
  length : s'.links.length = s.links.length
  numbers : ∀ g n, workerOf s' g = some (.remote n) → workerOf s g = some (.remote n)
  handlers : ∀ g, handlerOf s g = none → handlerOf s' g = none

lemma Waning.refl (s : Session U X) : Waning s s := ⟨rfl, rfl, rfl, fun _ _ => id, fun _ => id⟩

lemma Waning.trans {s s' s'' : Session U X} (h : Waning s s') (h' : Waning s' s'') : Waning s s'' where
  restartable := h'.restartable.trans h.restartable
  documentation := h'.documentation.trans h.documentation
  length := h'.length.trans h.length
  numbers := fun g n hw => h.numbers g n (h'.numbers g n hw)
  handlers := fun g hg => h'.handlers g (h.handlers g hg)

lemma Waning.of_links {s s' : Session U X} (hr : s'.restartable = s.restartable)
    (hd : s'.documentation = s.documentation) (hl : s'.links = s.links) : Waning s s' :=
  ⟨hr, hd, by rw [hl], fun g n h => by rwa [workerOf, ← hl], fun g h => by rwa [handlerOf, hl]⟩

lemma waning_setCoordinator (s : Session U X) (g : Nat) (c : Coordinator (Hook U) X) :
    Waning s (s.setCoordinator g c) :=
  ⟨rfl, rfl, setCoordinator_length .., fun _ _ h => (workerOf_setCoordinator ..).symm.trans h,
    fun _ h => (handlerOf_setCoordinator ..).trans h⟩

lemma waning_setKernel (s : Session U X) (g : Nat) (k : Kernel) : Waning s (s.setKernel g k) := by
  refine ⟨rfl, rfl, setKernel_length .., fun i n h => ?_, fun _ h => (handlerOf_setKernel ..).trans h⟩
  rw [workerOf_setKernel] at h
  split at h
  · cases hw : workerOf s i <;> simp [hw] at h
  · exact h

lemma waning_setHandler (s : Session U X) (g : Nat) : Waning s (s.setHandler g none) := by
  refine ⟨rfl, rfl, setHandler_length .., fun _ _ h => (workerOf_setHandler ..).symm.trans h, fun i h => ?_⟩
  by_cases hi : g = i
  · subst hi
    exact handlerOf_setHandler ..
  · simpa [handlerOf, setHandler, hi] using h

/-- The frames that a stage of a frame leaves: one restart does not become two. -/
structure Yields (f : Frame U X) (fs : List (Frame U X)) : Prop where
  single : fs.countP Frame.restarts ≤ if f.restarts then 1 else 0
  tame : ∀ h, .install (some h) ∉ fs

lemma Yields.nil (f : Frame U X) : Yields f [] := ⟨by simp, by simp⟩

lemma Yields.of_plain {f : Frame U X} {fs : List (Frame U X)} (hr : ∀ f' ∈ fs, f'.restarts = false)
    (hi : ∀ h, .install (some h) ∉ fs) : Yields f fs := by
  refine ⟨?_, hi⟩
  rw [List.countP_eq_zero.mpr fun f' hf' => by simp [hr f' hf']]
  exact Nat.zero_le _

lemma yields_links (f : Frame U X) (g : Nat) (fs : List (Coordinator.Frame (Hook U) X)) : Yields f (fs.map (.link g)) :=
  .of_plain (by simp [Frame.restarts]) (by simp)

/-- What a stage of a frame does to the workers and leaves of the restarts. -/
structure Tidy (s : Session U X) (f : Frame U X) (t : Turn U X) : Prop where
  waning : Waning s t.state
  yields : Yields f t.frames

section Stages

variable {s : Session U X} {f : Frame U X} {t : Turn U X}

lemma Tidy.of_plain (hs : t.state = s) (hr : ∀ f' ∈ t.frames, f'.restarts = false)
    (hi : ∀ h, .install (some h) ∉ t.frames) : Tidy s f t :=
  ⟨hs ▸ .refl s, .of_plain hr hi⟩

lemma Tidy.of_done (hw : Waning s t.state) (hf : t.frames = []) : Tidy s f t := ⟨hw, hf ▸ .nil f⟩

lemma tidy_call (s : Session U X) (f : Frame U X) (contained : Bool) (moment : Moment) (hook : Option U)
    (argument : Argument) : Tidy s f (callTurn s contained moment hook argument) := by
  cases hook <;> exact .of_plain rfl (by simp [callTurn, Frame.restarts]) (by simp [callTurn])

lemma tidy_body (s : Session U X) (f : Frame U X) (hook : Hook U) (payload : Object) :
    Tidy s f (bodyTurn s hook payload) := by
  cases hook with
  | user => exact .of_done (.refl s) rfl
  | inspectionError => exact .of_plain rfl (by simp [bodyTurn, Frame.restarts]) (by simp [bodyTurn])
  | names q success =>
    simp only [bodyTurn, namesTurn]
    split
    · exact .of_done (.refl s) rfl
    · exact tidy_call ..
  | inspection q hooks =>
    simp only [bodyTurn, inspectionTurn]
    split
    · exact .of_done (.refl s) rfl
    · split
      · exact .of_plain rfl (by simp [Frame.restarts]) (by simp)
      · exact ⟨.of_links rfl rfl rfl, .of_plain (by simp [submit, Frame.restarts]) (by simp [submit])⟩
  | scopeInspection report q hooks =>
    simp only [bodyTurn, scopeInspectionTurn]
    split
    · exact .of_done (.refl s) rfl
    · exact ⟨.of_links rfl rfl rfl, .of_plain (by simp [Frame.restarts]) (by simp)⟩

lemma tidy_end (s : Session U X) (signal : String) {ending : Ending}
    (h : ∀ notify, ending = .restart notify → f.restarts = true) : Tidy s f (endTurn s signal ending) := by
  refine ⟨.refl s, ?_, by simp [endTurn]⟩
  cases ending with
  | restart notify =>
    rw [h notify rfl]
    simp [endTurn, Frame.restarts]
  | _ => simp [endTurn, Frame.restarts]

lemma tidy_terminate (s : Session U X) (signal : String) (ending : Ending) :
    Tidy s (.terminate signal ending) (terminateTurn s signal ending) := by
  unfold terminateTurn
  split
  · exact .of_done (.refl s) rfl
  split
  · exact ⟨.refl s, by cases ending <;> simp [Frame.restarts], by simp⟩
  · rename_i k _
    have hkernel := waning_setKernel s s.current (k.terminate signal).kernel
    have hgone : ∀ gone : Bool, Waning s (if gone then (s.setKernel s.current (k.terminate signal).kernel).setHandler
        (s.setKernel s.current (k.terminate signal).kernel).current none
        else s.setKernel s.current (k.terminate signal).kernel) := by
      intro gone
      cases gone
      · exact hkernel
      · exact hkernel.trans (waning_setHandler ..)
    simp only
    split
    · exact ⟨hgone _, by cases ending <;> simp [Frame.restarts], by simp⟩
    · exact .of_done (hgone _) rfl

lemma eq_body {hook : Hook U} {argument : Argument} (h : f ∈ bodyOf hook argument) :
    ∃ hook payload, f = .body hook payload := by
  unfold bodyOf at h
  split at h
  · cases h
  · exact ⟨_, _, List.mem_singleton.mp h⟩
  · cases h

lemma tidy_link {g : Nat} {f : Coordinator.Frame (Hook U) X} (h : (Frame.link g f).tick s = some t) :
    Tidy s (.link g f) t := by
  simp only [Frame.tick] at h
  split at h
  · cases h
    exact .of_done (.refl s) rfl
  rename_i l hl
  unfold tickLink at h
  split at h
  · cases h
    exact .of_done (waning_setKernel ..) rfl
  · cases h
  · cases h
    exact .of_done (.refl s) rfl
  · rename_i _ _ task moment argument
    cases h
    have hframes : ∀ f' ∈ (l.coordinator.hookOf task moment).toList.flatMap (bodyOf · argument) ++
        (linkTurn s g (Coordinator.callTurn l.coordinator task moment argument)).frames,
        (∃ hook payload, f' = .body hook payload) ∨ ∃ f'', f' = .link g f'' := by
      intro f' hf'
      rcases List.mem_append.mp hf' with hf' | hf'
      · obtain ⟨hook, -, hf'⟩ := List.mem_flatMap.mp hf'
        exact .inl (eq_body hf')
      · obtain ⟨f'', -, rfl⟩ := List.mem_map.mp hf'
        exact .inr ⟨f'', rfl⟩
    refine ⟨waning_setCoordinator .., .of_plain (fun f' hf' => ?_) fun h hm => ?_⟩
    · rcases hframes f' hf' with ⟨_, _, rfl⟩ | ⟨_, rfl⟩ <;> rfl
    · rcases hframes _ hm with ⟨_, _, h⟩ | ⟨_, h⟩ <;> cases h
  · obtain ⟨turn, -, rfl⟩ := Option.map_eq_some_iff.mp h
    exact ⟨waning_setCoordinator .., yields_links ..⟩

lemma tidy_tick (hf : ∀ h, f ≠ .install (some h)) (h : f.tick s = some t) : Tidy s f t := by
  cases f with
  | link g f => exact tidy_link h
  | awaitCall => cases h
  | awaitTermination => cases h
  | awaitWorker => cases h
  | execute code hooks =>
    cases h
    exact .of_plain rfl (by simp [executeTurn, submit, Frame.restarts]) (by simp [executeTurn, submit])
  | complete code cursor hooks =>
    cases h
    unfold completeTurn
    split <;> exact .of_plain rfl (by simp [submit, Frame.restarts]) (by simp [submit])
  | inspect code cursor hooks =>
    cases h
    unfold inspectTurn
    split <;> exact .of_plain rfl (by simp [submit, Frame.restarts]) (by simp [submit])
  | assign x =>
    cases h
    exact ⟨.of_links rfl rfl rfl, .of_plain (by simp [Frame.restarts]) (by simp)⟩
  | respond hooks result =>
    cases h
    unfold respondTurn
    split <;> exact .of_plain rfl (by simp [Frame.restarts]) (by simp)
  | call moment hook argument =>
    cases h
    exact tidy_call ..
  | body hook payload =>
    cases h
    exact tidy_body ..
  | deliver n message =>
    cases h
    unfold deliverTurn
    split
    · exact .of_done (.refl s) rfl
    · split <;> exact .of_plain rfl (by simp [Frame.restarts]) (by simp)
  | arrive channel message =>
    cases h
    unfold arriveTurn
    split
    · exact .of_done (.refl s) rfl
    split
    · exact .of_done (.refl s) rfl
    split
    · exact .of_done (.refl s) rfl
    · refine ⟨waning_setKernel .., ?_⟩
      simp only
      split <;> exact .of_plain (by simp [Frame.restarts]) (by simp)
  | emit g message =>
    cases h
    unfold emitTurn
    split <;> exact .of_plain rfl (by simp [Frame.restarts]) (by simp)
  | guarded =>
    cases h
    exact .of_done (.refl s) rfl
  | transmit fields messageId =>
    cases h
    split
    · exact .of_done (.refl s) rfl
    · exact .of_done (.refl s) rfl
    · exact .of_done (waning_setKernel ..) rfl
  | install handler =>
    cases handler with
    | none =>
      cases h
      exact .of_done (waning_setHandler ..) rfl
    | some handler => exact absurd rfl (hf handler)
  | kill signal notify =>
    cases h
    exact tidy_end s signal (by simp)
  | restart signal notify =>
    cases h
    split
    · exact tidy_end s signal fun _ _ => rfl
    · exact .of_done (.refl s) rfl
  | terminate signal ending =>
    cases h
    exact tidy_terminate ..
  | finish ending status =>
    cases h
    cases ending <;> exact ⟨.refl s, by simp [finishTurn, Frame.restarts], by simp [finishTurn]⟩

lemma tidy_unwind (s : Session U X) (e : Fault) (f : Frame U X) : Tidy s f (f.unwind s e) := by
  cases f with
  | link g f =>
    simp only [Frame.unwind]
    split
    · exact .of_done (.refl s) rfl
    · exact ⟨waning_setCoordinator .., yields_links ..⟩
  | awaitCall =>
    simp only [Frame.unwind, Frame.callFailed]
    split <;> exact .of_done (.refl s) rfl
  | guarded =>
    simp only [Frame.unwind]
    split <;> exact .of_done (.refl s) rfl
  | _ => exact .of_done (.refl s) rfl

lemma tidy_answer {a : Answer} (h : f.answer s a = some t) :
    Tidy s f t ∨
      ∃ notify status w, f = .awaitWorker notify status ∧ a = .worker w ∧ t.state = s.attach w ∧ t.frames = [] := by
  unfold Frame.answer at h
  split at h
  · unfold Frame.answerLink at h
    split at h
    · obtain ⟨turn, -, rfl⟩ := Option.map_eq_some_iff.mp h
      exact .inl ⟨waning_setCoordinator .., yields_links ..⟩
    · cases h
  · cases h
    exact .inl (.of_done (.refl s) rfl)
  · cases h
    simp only [Frame.callFailed]
    split <;> exact .inl (.of_done (.refl s) rfl)
  · rename_i ending _
    cases h
    exact .inl ⟨.refl s, by cases ending <;> simp [Frame.restarts], by simp⟩
  · cases h
    exact .inl (.of_done (.refl s) rfl)
  · cases h
    exact .inr ⟨_, _, _, rfl, rfl, rfl, rfl⟩
  · cases h
    exact .inl (.of_done (.refl s) rfl)
  · cases h

end Stages

/-- The stages in which a restart takes the handler off the worker. -/
def Cutting : List (Frame U X) → Prop
  | .install none :: _ => True
  | .link _ .kill :: .install none :: _ => True
  | _ => False

/-- Every worker that has made way for another is unheard, and so is one that has had to end for that. -/
structure Sealed (base : Session U X) (m : Machine U X) : Prop where
  restartable : m.state.restartable = base.restartable
  documentation : m.state.documentation = base.documentation
  inhabited : 0 < m.state.links.length
  former : ∀ g < m.state.current, handlerOf m.state g = none
  single : m.stack.countP Frame.restarts ≤ 1
  tame : ∀ h, .install (some h) ∉ m.stack
  parted : (∃ f ∈ m.stack, f.parts = true) →
    handlerOf m.state m.state.current = none ∨ m.fault = none ∧ Cutting m.stack

lemma Cutting.eq {stack : List (Frame U X)} (h : Cutting stack) :
    (∃ r, stack = .install none :: r) ∨ ∃ g r, stack = .link g .kill :: .install none :: r := by
  unfold Cutting at h
  split at h
  · exact .inl ⟨_, rfl⟩
  · exact .inr ⟨_, _, rfl⟩
  · exact h.elim

lemma Frame.restarts_of_parts {f : Frame U X} (h : f.parts = true) : f.restarts = true := by
  cases f <;> first | rfl | exact h

lemma Yields.restarts {f f' : Frame U X} {fs : List (Frame U X)} (h : Yields f fs) (hf : f' ∈ fs)
    (hp : f'.parts = true) : f.restarts = true := by
  have hpos : 0 < fs.countP Frame.restarts := List.countP_pos_iff.mpr ⟨f', hf, Frame.restarts_of_parts hp⟩
  have hle := h.single
  split at hle
  · assumption
  · omega

section Sealed

variable {base : Session U X} {s : Session U X} {f : Frame U X} {r : List (Frame U X)} {fault : Option Fault}
  {es : List (Event U X)} {t : Turn U X}

lemma Sealed.rest (hm : Sealed base ⟨s, f :: r, fault, es⟩) (hf : f.restarts = true) :
    ∀ f' ∈ r, f'.parts = false := by
  intro f' hf'
  by_contra hp
  have hpos : 0 < r.countP Frame.restarts :=
    List.countP_pos_iff.mpr ⟨f', hf', Frame.restarts_of_parts (by simpa using hp)⟩
  have hle := hm.single
  rw [List.countP_cons_of_pos hf] at hle
  omega

lemma Sealed.after (hm : Sealed base ⟨s, f :: r, fault, es⟩) (ht : Tidy s f t)
    (hp : (∃ f' ∈ t.frames ++ r, f'.parts = true) →
      handlerOf t.state t.state.current = none ∨ t.fault = none ∧ Cutting (t.frames ++ r)) :
    Sealed base (Machine.after ⟨s, f :: r, fault, es⟩ r t) where
  restartable := ht.waning.restartable.trans hm.restartable
  documentation := ht.waning.documentation.trans hm.documentation
  inhabited := ht.waning.length ▸ hm.inhabited
  former := fun g hg => ht.waning.handlers g (hm.former g (current_congr ht.waning.length ▸ hg))
  single := by
    have hle := hm.single
    have hys := ht.yields.single
    rw [List.countP_cons] at hle
    rw [Machine.after, List.countP_append]
    omega
  tame := fun h hmem => by
    rcases List.mem_append.mp hmem with hmem | hmem
    · exact ht.yields.tame h hmem
    · exact hm.tame h (List.mem_cons_of_mem _ hmem)
  parted := hp

lemma Waning.deaf {s' : Session U X} (hw : Waning s s') (h : handlerOf s s.current = none) :
    handlerOf s' s'.current = none := by
  rw [current_congr hw.length]
  exact hw.handlers _ h

lemma tick_cut {g : Nat} (h : (Frame.link g .kill).tick s = some t) : t.frames = [] ∧ t.fault = none := by
  simp only [Frame.tick] at h
  split at h
  · cases h
    exact ⟨rfl, rfl⟩
  · cases h
    exact ⟨rfl, rfl⟩

lemma Sealed.tick (hm : Sealed base ⟨s, f :: r, none, es⟩) (h : f.tick s = some t) :
    Sealed base (Machine.after ⟨s, f :: r, none, es⟩ r t) := by
  have htame : ∀ h, f ≠ .install (some h) := fun h hf => hm.tame h (hf ▸ List.mem_cons_self ..)
  have ht := tidy_tick htame h
  refine hm.after ht fun ⟨f', hf', hp⟩ => ?_
  by_cases hold : ∃ f' ∈ f :: r, f'.parts = true
  · rcases hm.parted hold with hnone | ⟨-, hcut⟩
    · exact .inl (ht.waning.deaf hnone)
    rcases hcut.eq with ⟨r', hr⟩ | ⟨g, r', hr⟩
    · obtain ⟨rfl, rfl⟩ := List.cons.inj hr
      cases h
      refine .inl ?_
      rw [current_congr (setHandler_length ..)]
      exact handlerOf_setHandler ..
    · obtain ⟨rfl, rfl⟩ := List.cons.inj hr
      obtain ⟨hframes, hfault⟩ := tick_cut h
      refine .inr ⟨hfault, ?_⟩
      rw [hframes]
      trivial
  · -- the restart begins with this stage
    simp only [List.mem_cons, exists_eq_or_imp, not_or, not_exists, not_and] at hold
    have hmem : f' ∈ t.frames := (List.mem_append.mp hf').resolve_right fun hr => hold.2 f' hr hp
    have hrestarts := ht.yields.restarts hmem hp
    cases f with
    | restart signal notify =>
      cases h
      split at hmem
      · rename_i hr
        rw [if_pos hr]
        exact .inr ⟨rfl, trivial⟩
      · cases hmem
    | awaitWorker => exact (hold.1 rfl).elim
    | terminate signal ending => exact (hold.1 hrestarts).elim
    | awaitTermination ending => exact (hold.1 hrestarts).elim
    | finish ending status => exact (hold.1 hrestarts).elim
    | _ => cases hrestarts

lemma Frame.parts_of_restarts (h : f.restarts = true) :
    f.parts = true ∨ ∃ signal notify, f = .restart signal notify := by
  cases f with
  | restart signal notify => exact .inr ⟨signal, notify, rfl⟩
  | _ => exact .inl h

lemma Sealed.pass (hm : Sealed base ⟨s, f :: r, fault, es⟩) (hcut : ¬ (fault = none ∧ Cutting (f :: r)))
    (ht : Tidy s f t) (hr : ∀ signal notify, f = .restart signal notify → t.frames = []) :
    Sealed base (Machine.after ⟨s, f :: r, fault, es⟩ r t) := by
  refine hm.after ht fun ⟨f', hf', hp⟩ => .inl (ht.waning.deaf ((hm.parted ?_).resolve_right hcut))
  rcases List.mem_append.mp hf' with hf' | hf'
  · rcases Frame.parts_of_restarts (ht.yields.restarts hf' hp) with hf | ⟨signal, notify, rfl⟩
    · exact ⟨f, List.mem_cons_self .., hf⟩
    · rw [hr signal notify rfl] at hf'
      cases hf'
  · exact ⟨f', List.mem_cons_of_mem _ hf', hp⟩

lemma Sealed.unwind {e : Fault} (hm : Sealed base ⟨s, f :: r, some e, es⟩) :
    Sealed base (Machine.after ⟨s, f :: r, some e, es⟩ r (f.unwind s e)) := by
  refine hm.pass (by simp) (tidy_unwind s e f) ?_
  rintro signal notify rfl
  rfl

lemma Cutting.answer {a : Answer} (h : Cutting (f :: r)) : f.answer s a = none := by
  rcases h.eq with ⟨r', hr⟩ | ⟨g, r', hr⟩
  · obtain ⟨rfl, -⟩ := List.cons.inj hr
    cases a <;> rfl
  · obtain ⟨rfl, -⟩ := List.cons.inj hr
    simp only [Frame.answer, Frame.answerLink]
    split
    · rename_i b _ _
      cases b <;> rfl
    · rfl

lemma Sealed.answer {a : Answer} (hm : Sealed base ⟨s, f :: r, none, es⟩) (h : f.answer s a = some t) :
    Sealed base (Machine.after ⟨s, f :: r, none, es⟩ r t) := by
  have hcut : ¬ Cutting (f :: r) := fun hc => by simp [hc.answer] at h
  rcases tidy_answer h with ht | ⟨notify, status, w, rfl, rfl, hs, hframes⟩
  · refine hm.pass (fun hc => hcut hc.2) ht ?_
    rintro signal notify rfl
    cases a <;> cases h
  · -- another worker comes after one that is not heard any more
    have hnone := (hm.parted ⟨_, List.mem_cons_self .., rfl⟩).resolve_right fun hc => hcut hc.2
    have hsingle := hm.single
    rw [List.countP_cons_of_pos rfl] at hsingle
    refine ⟨?_, ?_, ?_, ?_, ?_, ?_, ?_⟩
    · rw [Machine.after, hs]
      exact hm.restartable
    · rw [Machine.after, hs]
      exact hm.documentation
    · simp [Machine.after, hs, attach]
    · intro g hg
      rw [Machine.after, hs] at hg ⊢
      have hlt : g < s.links.length := by simpa [current, attach] using hg
      rw [handlerOf, attach, List.getElem?_append_left hlt]
      by_cases hc : g = s.current
      · exact hc ▸ hnone
      · have hin := hm.inhabited
        refine hm.former g ?_
        simp only [current] at hc ⊢
        omega
    · rw [Machine.after, hframes]
      exact (Nat.le_of_succ_le hsingle).trans' (by simp)
    · rw [Machine.after, hframes]
      exact fun h hmem => hm.tame h (List.mem_cons_of_mem _ hmem)
    · rintro ⟨f', hf', hp⟩
      rw [Machine.after, hframes] at hf'
      simp [hm.rest rfl f' hf'] at hp

end Sealed

variable {base : Session U X} {m n : Machine U X}

lemma Cutting.closed {m : Machine U X} (h : Cutting m.stack) : m.open? = false := by
  rcases h.eq with ⟨r, hr⟩ | ⟨g, r, hr⟩
  · simp [Machine.open?, hr, Frame.tick]
  · have htick : ((Frame.link g .kill).tick m.state).isNone = false := by
      simp only [Frame.tick]
      split <;> rfl
    simp [Machine.open?, hr, htick]

lemma Sealed.push {operation : Operation U X} (hm : Sealed base m) (ha : Successive m (.start operation))
    (ho : m.open? = true) : Sealed base (m.push operation) := by
  refine ⟨hm.restartable, hm.documentation, hm.inhabited, hm.former, ?_, ?_, ?_⟩
  · cases operation with
    | restart signal notify =>
      have hzero : m.stack.countP Frame.restarts = 0 := List.countP_eq_zero.mpr fun f hf => by simp [ha f hf]
      simp [Machine.push, Operation.frame, List.countP_cons, Frame.restarts, hzero]
    | _ => simpa [Machine.push, Operation.frame, Frame.restarts] using hm.single
  · intro h hmem
    rcases List.mem_cons.mp hmem with hmem | hmem
    · cases operation with
      | install handler =>
        obtain rfl : handler = none := ha
        cases hmem
      | _ => cases hmem
    · exact hm.tame h hmem
  · rintro ⟨f, hf, hp⟩
    have hold : f ∈ m.stack := by
      rcases List.mem_cons.mp hf with rfl | hf
      · cases operation <;> cases hp
      · exact hf
    refine .inl ((hm.parted ⟨f, hold, hp⟩).resolve_right fun hc => ?_)
    simp [hc.2.closed] at ho

theorem sealed_step {move : Move U X} (ha : Successive m move) (h : m.step move = some n) (hm : Sealed base m) :
    Sealed base n := by
  cases step_moved h with
  | ticked ht => exact hm.tick ht
  | unwound => exact hm.unwind
  | answered ht => exact hm.answer ht
  | started ho => exact hm.push ha ho
  | recovered =>
    exact ⟨hm.restartable, hm.documentation, hm.inhabited, hm.former, hm.single, hm.tame,
      fun hp => (hm.parted hp).imp_right fun hc => ⟨rfl, hc.2⟩⟩

lemma sealed_start (worker : Worker) (transform : Option X) (restartable : Bool) (documentation : Documentation.Index) :
    Sealed (Session.make worker transform restartable documentation)
      (⟨Session.make worker transform restartable documentation, [], none, []⟩ : Machine U X) :=
  ⟨rfl, rfl, Nat.one_pos, fun _ h => absurd h (Nat.not_lt_zero _), Nat.zero_le _, fun _ => List.not_mem_nil,
    fun ⟨_, h, _⟩ => absurd h List.not_mem_nil⟩

/-- A session in which a restart waits for another worker listens to none. -/
theorem Sealed.deaf (hm : Sealed base m) {notify : Bool} {status : Kernel.ExitStatus} {r : List (Frame U X)}
    (hs : m.stack = .awaitWorker notify status :: r) : Deaf m.state := by
  have hnone : handlerOf m.state m.state.current = none := by
    refine (hm.parted ⟨_, hs ▸ List.mem_cons_self .., rfl⟩).resolve_right fun hc => ?_
    rw [hs] at hc
    exact hc.2
  intro g
  rcases Nat.lt_trichotomy g m.state.current with hg | rfl | hg
  · exact hm.former g hg
  · exact hnone
  · have hge : m.state.links.length ≤ g := by
      simp only [current] at hg
      omega
    simp [handlerOf, List.getElem?_eq_none hge]

end EvalSession.Session

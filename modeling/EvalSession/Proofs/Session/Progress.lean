import EvalSession.Proofs.Coordinator.Attendance
import EvalSession.Proofs.Session.View

/-!
# A session does not stall itself

A run is `Tame` when nothing raises out of a dispatch. Main statements: whenever the work of a link is done, no task waits
behind a free slot, and over a `Civil` worker the task in the slot waits for a reply; and whenever an operation is over, what
was dispatched in its course has been sent, or has been told of its failure.
-/
namespace EvalSession.Session

variable {U X : Type}

/-- The fault goes no further than this frame, or passes it without harm to a coordinator. -/
def Frame.bears (e : Fault) : Frame U X → Bool
  | .link _ f => f.bears e
  | _ => true

/-- Sending goes well, the transform returns text or raises, and hooks and the transform raise ordinary faults only. -/
def Tame (m : Machine U X) : Move U X → Prop
  | .tick => ∀ e ∈ m.fault, ∀ f ∈ m.stack.head?, f.bears e = true
  | .answer (.code v) => Coordinator.Textual v
  | .answer (.raised e) => ∀ f ∈ m.stack.head?, f.bears e = true
  | _ => True

/-- Replies that are handed to the router of a link carry ids of requests of the link. -/
def Civil (m : Machine U X) : Move U X → Prop
  | .tick => ∀ p ∈ m.stack.head?.bind (Frame.hands? m.state), Coordinator.Addresses (eventsOf p.1 m.events) p.2
  | _ => True

instance (m : Machine U X) (move : Move U X) : Decidable (Tame m move) :=
  match move with
  | .tick => inferInstanceAs (Decidable (∀ e ∈ m.fault, ∀ f ∈ m.stack.head?, f.bears e = true))
  | .answer (.code v) => inferInstanceAs (Decidable (Coordinator.Textual v))
  | .answer (.raised e) => inferInstanceAs (Decidable (∀ f ∈ m.stack.head?, f.bears e = true))
  | .answer .done | .answer (.exited _) | .answer (.worker _) | .start _ | .recover => isTrue trivial

instance (m : Machine U X) (move : Move U X) : Decidable (Civil m move) :=
  match move with
  | .tick => inferInstanceAs (Decidable
      (∀ p ∈ m.stack.head?.bind (Frame.hands? m.state), Coordinator.Addresses (eventsOf p.1 m.events) p.2))
  | .start _ | .answer _ | .recover => isTrue trivial

lemma tame_restricts : Restricts (U := U) (X := X) Tame Coordinator.Tame where
  recover := fun _ => trivial
  drives := by
    intro m move g a ha hd
    cases hd with
    | operation hf h =>
      rename_i f operation
      cases operation with
      | submit task => exact h
      | _ => trivial
    | own hf h =>
      rename_i f
      have hview : (m.view g).stack.head? = some f := by
        obtain ⟨r, hr⟩ := List.head?_eq_some_iff.mp hf
        simp [Machine.view, hr]
      have hbears : ∀ e, f.bears e = true → ∀ f' ∈ (m.view g).stack.head?, f'.bears e = true := by
        rintro e he f' hf'
        obtain rfl : f = f' := by simpa [hview] using hf'
        exact he
      cases h with
      | tick | done => trivial
      | raised he => exact hbears _ (ha _ he _ hf)
      | answer hb =>
        rename_i a b
        cases a with
        | done =>
          cases hb
          trivial
        | code v =>
          cases hb
          exact ha
        | raised e =>
          cases hb
          exact hbears e (ha _ hf)
        | _ => cases hb

lemma civil_restricts : Restricts (U := U) (X := X) Civil Coordinator.Civil where
  recover := fun _ => trivial
  drives := by
    intro m move g a ha hd
    cases hd with
    | operation hf h =>
      rename_i f operation
      cases operation with
      | route v => exact ha (g, v) (by simpa [hf, Frame.Starts] using h)
      | _ => trivial
    | own hf h => cases h <;> trivial

section Runs

variable {worker : Worker} {transform : Option X} {restartable : Bool} {documentation : Documentation.Index}
  {m n : Machine U X} {moves : List (Move U X)}

/-- What tame runs keep in every link. -/
structure Progressing (m : Coordinator.Machine (Hook U) X) : Prop where
  sound : Coordinator.Sound m
  lively : Coordinator.Lively m
  provided : Coordinator.Provided m

lemma progressing_fresh (x : Option X) : Progressing (U := U) (.fresh x) :=
  ⟨Coordinator.sound_fresh x, Coordinator.lively_fresh x, Coordinator.provided_fresh x⟩

lemma progressing_step {p q : Coordinator.Machine (Hook U) X} {a : Coordinator.Move (Hook U) X}
    (ha : Coordinator.Tame p a) (hs : Coordinator.Stage p a q) (h : Progressing p) : Progressing q :=
  ⟨Coordinator.sound_step hs h.sound, Coordinator.lively_step hs h.sound ha h.lively,
    Coordinator.provided_step hs h.sound ha h.lively h.provided⟩

lemma links_progressing
    (hf : Follows Machine.step Tame { state := Session.make worker transform restartable documentation } moves)
    (hr : Machine.run { state := Session.make worker transform restartable documentation } moves = some m) (g : Nat) :
    Progressing (m.view g) := by
  rcases Nat.lt_or_ge g m.state.links.length with hg | hg
  · exact view_invariant tame_restricts progressing_fresh progressing_step (housed_start ..) hf hr
      (view_start _ _ _ _ progressing_fresh) g hg
  · exact view_beyond (housed_run (housed_start ..) hr) hg ▸ progressing_fresh none

lemma links_attended
    (hf : Follows Machine.step Tame { state := Session.make worker transform restartable documentation } moves)
    (hc : Follows Machine.step Civil { state := Session.make worker transform restartable documentation } moves)
    (hr : Machine.run { state := Session.make worker transform restartable documentation } moves = some m) :
    ∀ g < m.state.links.length, Coordinator.Attended (m.view g) := by
  have hfresh : ∀ x, Progressing (U := U) (X := X) (.fresh x) ∧
      Coordinator.Attended (H := Hook U) (.fresh x) := fun x =>
    ⟨progressing_fresh x, Coordinator.attended_fresh x⟩
  have hinv := view_invariant (I := fun p => Progressing p ∧ Coordinator.Attended p) (tame_restricts.and civil_restricts)
    hfresh (fun ha hs h => ⟨progressing_step ha.1 hs h.1,
      Coordinator.attended_step hs h.1.sound h.1.lively.fault h.1.provided.toTabled ha.2 h.2⟩)
    (housed_start ..) (hf.and hc) hr
    (view_start (I := fun p => Progressing p ∧ Coordinator.Attended p) _ _ _ _ hfresh)
  exact fun g hg => (hinv g hg).2

/-- No task waits behind a free slot, and the next one will be dispatched at once. -/
structure Unstalled (c : Coordinator (Hook U) X) : Prop where
  progress : c.killed = true ∨ c.inFlight ≠ none ∨ c.pending = []
  released : c.draining = false

/-- Whatever hooks and the transform raise and call, a link whose work is done is not stalled; over a civil worker the task
in its slot was dispatched last, and its request waits for a reply. -/
theorem links_unstalled
    (hf : Follows Machine.step Tame { state := Session.make worker transform restartable documentation } moves)
    (hr : Machine.run { state := Session.make worker transform restartable documentation } moves = some m) :
    ∀ g < m.state.links.length, framesOf g m.stack = [] → Unstalled (coordinatorOf m.state g) ∧
      (Follows Machine.step Civil { state := Session.make worker transform restartable documentation } moves →
        ∀ t, (coordinatorOf m.state g).inFlight = some t → Coordinator.Awaited (eventsOf g m.events) t) := by
  intro g hg hst
  have hp := links_progressing hf hr g
  have hnil : (m.view g).stack = [] := hst
  refine ⟨⟨?_, ?_⟩, fun hc t hi => ?_⟩
  · by_contra hn
    simp only [not_or, Bool.not_eq_true, ne_eq, not_not] at hn
    obtain ⟨hk, hi, hw⟩ := hn
    rcases hp.lively.live hk hi hw with h | h <;> simp [hnil] at h
  · have hl := hp.sound.shape.loops
    rw [hnil, List.countP_nil] at hl
    cases hd : (coordinatorOf m.state g).draining with
    | false => rfl
    | true =>
      rw [show (m.view g).state.draining = true from hd] at hl
      cases hl
  · exact (links_attended hf hc hr g hg).awaited hp.sound hp.provided hnil hi

lemma outside_of_open (hh : Housed m) (ho : m.open? = true) (g : Nat) :
    Coordinator.Frame.Outside (framesOf g m.stack).head? := by
  have hidle : m.stack.head?.any (Frame.busy g) = false := by
    cases hst : m.stack with
    | nil => rfl
    | cons f r =>
      simp only [Machine.open?, hst, Bool.and_eq_true, Option.isNone_iff_eq_none] at ho
      refine Bool.eq_false_iff.mpr fun hb => ?_
      obtain ⟨f', rfl, hw⟩ := Frame.busy_iff.mp hb
      have := waits_of_tick (hh.frames g f' (hst ▸ List.mem_cons_self ..)) ho.1
      rw [hw] at this
      cases this
  have hwaits := waits_of_idle hh hidle
  cases hhead : (framesOf g m.stack).head? with
  | none => trivial
  | some f => exact hwaits f hhead

/-- When outside code has control again where it had it before an operation, every task dispatched in the meantime has been
sent, or has been told of its failure and has left the slot. -/
theorem links_accounted {during : List (Move U X)}
    (hf : Follows Machine.step Tame { state := Session.make worker transform restartable documentation } (moves ++ during))
    (hr : Machine.run { state := Session.make worker transform restartable documentation } moves = some m)
    (hd : m.run during = some n) (hopen : m.open? = true) (hback : n.stack = m.stack) :
    ∀ g t task, (coordinatorOf m.state g).lastContext ≤ t → t < (coordinatorOf n.state g).lastContext →
      (Coordinator.given (eventsOf g n.events))[t]? = some task → Coordinator.Accounted (n.view g) t task.hooks := by
  intro g t task hge hlt ht
  have hm := housed_run (housed_start ..) hr
  have hrun : Machine.run { state := Session.make worker transform restartable documentation } (moves ++ during) = some n := by
    rw [Machine.run_eq] at hr hd ⊢
    rw [List.foldlM_append, hr]
    exact hd
  have hbefore := (hf.append ((Machine.run_eq ..).symm.trans hr)).1
  exact (links_progressing hf hrun g).provided.accounted (links_progressing hbefore hr g).sound
    (links_progressing hbefore hr g).provided.toTabled (outside_of_open hm hopen g) (congrArg (framesOf g) hback) hge hlt ht

end Runs

/-- The transform fails for the first task. Its hook hands in a second one and raises, and that one is sent. -/
def failedFirst : List (Move Nat Nat) :=
  let fault : Fault := .thrown ⟨"E", "e", "E('e')", [], true⟩
  List.flatten [[.start (.execute "x" (some { error := some 5 }))], List.replicate 7 .tick, [.answer (.raised fault)],
    List.replicate 3 .tick, [.start (.execute "y" none)], List.replicate 2 .tick, [.answer (.raised fault)],
    List.replicate 8 .tick, [.answer (.code (.string "z")), .tick, .answer .done, .tick]]

theorem failedFirst_unstalled :
    ∃ m, Machine.run { state := Session.make (.remote 0) (some 7) false ⟨[], []⟩ } failedFirst = some m ∧
      Unstalled (coordinatorOf m.state 0) ∧ (coordinatorOf m.state 0).inFlight = some 1 ∧
      Coordinator.Awaited (eventsOf 0 m.events) 1 := by
  have h : (Machine.run { state := Session.make (.remote 0) (some 7) false ⟨[], []⟩ } failedFirst).isSome = true := by
    decide +kernel
  have hm := (Option.some_get h).symm
  obtain ⟨hu, ha⟩ := links_unstalled (by decide +kernel) hm 0 Nat.one_pos rfl
  exact ⟨_, hm, hu, rfl, ha (by decide +kernel) 1 rfl⟩

theorem failedFirst_accounted :
    ∃ m, Machine.run { state := Session.make (.remote 0) (some 7) false ⟨[], []⟩ } failedFirst = some m ∧ m.stack = [] ∧
      Coordinator.Accounted (m.view 0) 0 { error := some (.user .error 5) } ∧ Coordinator.Accounted (m.view 0) 1 {} := by
  have h : (Machine.run { state := Session.make (.remote 0) (some 7) false ⟨[], []⟩ } failedFirst).isSome = true := by
    decide +kernel
  have hm := (Option.some_get h).symm
  have hf : Follows Machine.step Tame { state := Session.make (.remote 0) (some 7) false ⟨[], []⟩ } ([] ++ failedFirst) := by
    decide +kernel
  refine ⟨_, hm, rfl, ?_, ?_⟩
  · exact links_accounted hf rfl hm rfl rfl 0 0 (runTask "x" (some { error := some 5 })) (Nat.le_refl 0)
      Nat.two_pos rfl
  · exact links_accounted hf rfl hm rfl rfl 0 1 (runTask "y" none) (Nat.zero_le 1) Nat.one_lt_two rfl

/-- Sending the request raises. -/
def refused : List (Move Nat Nat) :=
  let fault : Fault := .thrown ⟨"E", "e", "E('e')", [], true⟩
  List.flatten [[.start (.execute "x" (some { error := some 5 }))], List.replicate 8 .tick, [.answer (.raised fault), .tick]]

/-- The task is told nothing of the failure, though it has a hook for errors, and stays in the slot. -/
theorem refused_unaccounted :
    ∃ m, Machine.run { state := Session.make (.remote 0) none false ⟨[], []⟩ } refused = some m ∧ m.stack = [] ∧
      m.fault.isSome = true ∧ (coordinatorOf m.state 0).inFlight = some 0 ∧
      (Coordinator.given (eventsOf 0 m.events)).map (fun task => task.hooks.error) = [some (.user .error 5)] ∧
      Coordinator.told (eventsOf 0 m.events) 0 = [] := by
  have h : (Machine.run { state := Session.make (.remote 0) none false ⟨[], []⟩ } refused).isSome = true := by
    decide +kernel
  have hm := (Option.some_get h).symm
  exact ⟨_, hm, rfl, rfl, rfl, rfl, rfl⟩

end EvalSession.Session

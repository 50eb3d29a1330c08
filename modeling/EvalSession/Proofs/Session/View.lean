import EvalSession.Proofs.Session.Stage

/-!
# A session as its coordinators see it

`Machine.view` is what a session looks like from one of its links: the frames and the events of the link alone. One move
of the session is, in each view, a few moves of a coordinator (`view_step`), so what holds of every run of a coordinator
holds of every link of a session (`link_invariant`).
-/
namespace EvalSession.Session

variable {U X : Type}

/-- A frame of the link that does not wait for outside code. -/
def Frame.busy (g : Nat) : Frame U X → Bool
  | .link i f => i = g && !f.waits
  | _ => false

namespace Machine

/-- A fault is on its way through the coordinator of a link while a frame of the link that does not wait is on top. -/
def faultOf (m : Machine U X) (g : Nat) : Option Fault := if m.stack.head?.any (Frame.busy g) then m.fault else none

def view (m : Machine U X) (g : Nat) : Coordinator.Machine (Hook U) X where
  state := coordinatorOf m.state g
  stack := framesOf g m.stack
  fault := m.faultOf g
  events := eventsOf g m.events

end Machine

lemma Machine.run_eq (m : Machine U X) (moves : List (Move U X)) : m.run moves = moves.foldlM Machine.step m := by
  induction moves generalizing m with
  | nil => rfl
  | cons move rest ih => simp only [Machine.run, List.foldlM_cons, bind, ih]

/-- Whatever is handed to the router of a link is meant for an open request of the link. -/
def Honest (m : Machine U X) : Move U X → Prop
  | .tick => ∀ p ∈ m.stack.head?.bind (Frame.hands? m.state), Coordinator.Meant (eventsOf p.1 m.events) p.2
  | _ => True

instance (m : Machine U X) (move : Move U X) : Decidable (Honest m move) :=
  match move with
  | .tick =>
    match h : m.stack.head?.bind (Frame.hands? m.state) with
    | none => isTrue fun p hp => by simp [h] at hp
    | some p => decidable_of_iff (Coordinator.Meant (eventsOf p.1 m.events) p.2) (by simp [Honest, h])
  | .start _ | .answer _ | .recover => isTrue trivial

lemma Frame.busy_iff {g : Nat} {f : Frame U X} : f.busy g = true ↔ ∃ f', f = .link g f' ∧ f'.waits = false := by
  cases f <;> simp [Frame.busy]

lemma faultOf_none {m : Machine U X} {g : Nat} (h : ∀ f, m.stack.head? = some (.link g f) → f.waits = true) :
    m.faultOf g = none := by
  refine if_neg fun hb => ?_
  cases ha : m.stack.head? with
  | none => simp [ha] at hb
  | some a =>
    rw [ha, Option.any_some] at hb
    obtain ⟨f, rfl, hw⟩ := Frame.busy_iff.mp hb
    rw [h f ha] at hw
    cases hw

/-- The coordinator of the link with the fault of the session, whatever frame it is on its way through. -/
def Machine.raw (m : Machine U X) (g : Nat) : Coordinator.Machine (Hook U) X := { m.view g with fault := m.fault }

lemma waits_of_idle {m : Machine U X} (hh : Housed m) {g : Nat} (h : m.stack.head?.any (Frame.busy g) = false) :
    ∀ f, (framesOf g m.stack).head? = some f → f.waits = true := by
  cases hst : m.stack with
  | nil => simp
  | cons a r =>
    have hch := hh.chained
    rw [hst] at hch h
    simp only [List.head?_cons, Option.any_some] at h
    by_cases ha : ∀ f, a ≠ .link g f
    · have hof : a.of? g = none := by
        cases a <;> simp_all
      rw [framesOf_cons, hof]
      exact waits_below hch ha
    · simp only [ne_eq, not_forall, not_not] at ha
      obtain ⟨f, rfl⟩ := ha
      rintro f' hf'
      obtain rfl : f = f' := by simpa using hf'
      simpa [Frame.busy] using h

lemma suspended_of {m : Coordinator.Machine (Hook U) X} (h : ∀ f, m.stack.head? = some f → f.waits = true) :
    m.suspended = true := by
  unfold Coordinator.Machine.suspended
  split
  · rfl
  · rename_i f _ hst
    exact h f (by simp [hst])

/-- When the fault has left the busy frames of the link, outside code has it in hand. -/
lemma settle {m : Machine U X} (hh : Housed m) (g : Nat) :
    ∃ moves : List (Coordinator.Move (Hook U) X), (∀ move ∈ moves, move = .recover) ∧
      moves.foldlM Coordinator.Machine.step (m.raw g) = some (m.view g) := by
  by_cases heq : m.faultOf g = m.fault
  · refine ⟨[], by simp, ?_⟩
    simp only [List.foldlM_nil, pure, Option.some.injEq, Machine.raw, ← heq]
    rfl
  · have hb : m.stack.head?.any (Frame.busy g) = false := by
      by_contra hb
      simp only [Bool.not_eq_false] at hb
      exact heq (if_pos hb)
    have hnone : m.faultOf g = none := if_neg (by simp [hb])
    have hsome : m.fault.isSome = true := by
      rw [hnone] at heq
      exact Option.isSome_iff_ne_none.mpr (Ne.symm heq)
    have hsus : (m.raw g).suspended = true := suspended_of (waits_of_idle hh hb)
    refine ⟨[.recover], by simp, ?_⟩
    simp only [List.foldlM_cons, List.foldlM_nil, bind, pure, Coordinator.Machine.step, hsus, Bool.true_and]
    simp [Machine.raw, hsome, Machine.view, hnone]

lemma view_same {m n : Machine U X} {g : Nat} (hs : coordinatorOf n.state g = coordinatorOf m.state g)
    (hf : framesOf g n.stack = framesOf g m.stack) (he : eventsOf g n.events = eventsOf g m.events)
    (hm : m.faultOf g = none) (hn : n.faultOf g = none) : n.view g = m.view g := by
  simp only [Machine.view, hs, hf, he, hm, hn]

/-- What a move of the session is for the coordinator of a link. -/
inductive Drives (m : Machine U X) (g : Nat) : Move U X → Coordinator.Move (Hook U) X → Prop
  | operation {f operation} (hf : m.stack.head? = some f) (h : f.Starts m.state g operation) :
      Drives m g .tick (.start operation)
  | own {f move own} (hf : m.stack.head? = some (.link g f)) (h : Passes m.fault move own) : Drives m g move own

/-- A move of the coordinator that comes of the move of the session; faults may be handled after it. -/
def Driven (m : Machine U X) (g : Nat) (move : Move U X) (p : Coordinator.Machine (Hook U) X)
    (own : Coordinator.Move (Hook U) X) : Prop :=
  own = .recover ∨ p = m.view g ∧ Drives m g move own

/-- The view of the link goes on from one machine to the other. -/
def Leads (g : Nat) (m : Machine U X) (move : Move U X) (n : Machine U X) : Prop :=
  ∃ moves : List (Coordinator.Move (Hook U) X),
    Follows Coordinator.Machine.step (Driven m g move) (m.view g) moves ∧
      moves.foldlM Coordinator.Machine.step (m.view g) = some (n.view g)

lemma Leads.same {g : Nat} {m n : Machine U X} {move : Move U X} (h : n.view g = m.view g) : Leads g m move n :=
  ⟨[], trivial, by simp [h, pure]⟩

lemma Plain.leads {s : Session U X} {f : Frame U X} {r : List (Frame U X)} {fault : Option Fault} {es : List (Event U X)}
    {t : Turn U X} {move : Move U X} {g : Nat} (hf : ∀ g f', f ≠ .link g f') (ht : Plain s f t)
    (hm : move = .tick ∨ ∀ g f', .link g f' ∉ t.frames) (hh : Housed ⟨s, f :: r, fault, es⟩)
    (hg : g < s.links.length) : Leads g ⟨s, f :: r, fault, es⟩ move (Machine.after ⟨s, f :: r, fault, es⟩ r t) := by
  have hof : f.of? g = none := by
    cases f <;> simp_all
  have hbelow := waits_below hh.chained (hf g)
  have hold : Machine.faultOf ⟨s, f :: r, fault, es⟩ g = none :=
    faultOf_none fun f' h => absurd (by simpa using h) (hf g f')
  have hevents : eventsOf g (t.events.reverse ++ es) = eventsOf g es := by
    rw [eventsOf_append, eventsOf_plain (by simpa using ht.quiet), List.nil_append]
  -- a frame of the link on top after the stage is one that was below
  have htop : ∀ fs, t.frames = fs → (∀ f', fs.head? ≠ some (.link g f')) →
      ∀ f', (t.frames ++ r).head? = some (.link g f') → f'.waits = true := by
    rintro fs rfl hfs f' h
    cases hfr : t.frames with
    | nil =>
      rw [hfr] at h
      obtain ⟨r, rfl⟩ := List.head?_eq_some_iff.mp h
      exact hbelow f' (by simp)
    | cons a fs =>
      rw [hfr] at h hfs
      exact absurd h (hfs f')
  rcases ht.frames with hno | ⟨i, hi, operation, rest, hv, hfr, hr, hfault⟩
  · refine .same (view_same (ht.kept.same g hg) ?_ hevents hold (faultOf_none (htop _ rfl fun f' h => ?_)))
    · simp only [Machine.after, framesOf_append, framesOf_plain hno, framesOf_cons, hof, List.nil_append,
        Option.toList_none]
    · exact hno g f' (List.mem_of_mem_head? h)
  · have hnew : Machine.faultOf (Machine.after ⟨s, f :: r, fault, es⟩ r t) g = none := by
      simp only [Machine.faultOf, Machine.after, hfault, ite_self]
    by_cases hig : i = g
    · subst hig
      have hopen : (Machine.view ⟨s, f :: r, fault, es⟩ i).open? = true := by
        have := suspended_of (m := Machine.view ⟨s, f :: r, fault, es⟩ i) (by
          simp only [Machine.view, framesOf_cons, hof, Option.toList_none, List.nil_append]
          exact hbelow)
        unfold Coordinator.Machine.suspended at this
        unfold Coordinator.Machine.open?
        split <;> simp_all [Machine.view]
      have hview : Machine.view (Machine.after ⟨s, f :: r, fault, es⟩ r t) i =
          (Machine.view ⟨s, f :: r, fault, es⟩ i).push operation.frame := by
        simp only [Machine.view, Coordinator.Machine.push, hnew]
        simp only [Machine.after, ht.kept.same i hg, hevents, hfr, framesOf_append, framesOf_cons, framesOf_plain hr,
          Frame.of?, if_true, Option.toList_some, Option.toList_none, List.nil_append, List.cons_append]
      refine ⟨[.start operation], ⟨?_, fun _ _ => trivial⟩, ?_⟩
      · obtain rfl := hm.resolve_right fun hno => hno i _ (hfr ▸ List.mem_cons_self ..)
        exact .inr ⟨rfl, .operation rfl hv⟩
      · simp [Coordinator.Machine.step, hopen, hview, pure, bind]
    · refine .same (view_same (ht.kept.same g hg) ?_ hevents hold hnew)
      simp only [Machine.after, hfr, framesOf_append, framesOf_cons, framesOf_plain hr, Frame.of?, hig, if_false,
        Option.toList_none, List.nil_append]

lemma Linked.leads {s : Session U X} {i : Nat} {f : Coordinator.Frame (Hook U) X} {r : List (Frame U X)}
    {fault : Option Fault} {es : List (Event U X)} {move : Move U X} {t : Turn U X} (ht : Linked s i f fault move t)
    (hh : Housed ⟨s, .link i f :: r, fault, es⟩) (hn : Housed (Machine.after ⟨s, .link i f :: r, fault, es⟩ r t))
    (g : Nat) :
    Leads g ⟨s, .link i f :: r, fault, es⟩ move (Machine.after ⟨s, .link i f :: r, fault, es⟩ r t) := by
  by_cases hig : i = g
  · subst hig
    obtain ⟨own, hown, hstep⟩ := ht.move
    obtain ⟨moves, hrec, hmoves⟩ := settle hn i
    have hview : Machine.view ⟨s, .link i f :: r, fault, es⟩ i =
        ⟨coordinatorOf s i, f :: framesOf i r, if f.waits then none else fault, eventsOf i es⟩ := by
      cases hw : f.waits <;> simp [Machine.view, Machine.faultOf, Frame.busy, hw]
    have hraw : Machine.raw (Machine.after ⟨s, .link i f :: r, fault, es⟩ r t) i =
        ⟨coordinatorOf t.state i, framesOf i t.frames ++ framesOf i r, t.fault,
          eventsOf i t.events.reverse ++ eventsOf i es⟩ := by
      simp only [Machine.raw, Machine.view, Machine.after, framesOf_append, eventsOf_append]
    refine ⟨own :: moves, ⟨.inr ⟨rfl, .own rfl hown⟩, fun n _ => follows_of_mem ?_ n⟩, ?_⟩
    · exact fun a ha _ => .inl (hrec a ha)
    · rw [List.foldlM_cons, hview, hstep, ← hraw]
      exact hmoves
  · refine .same (view_same (ht.others g (Ne.symm hig)) ?_ ?_ (faultOf_none fun f' h => ?_) (faultOf_none fun f' h => ?_))
    · obtain ⟨body, fs, hf, hb, -⟩ := ht.frames
      simp only [Machine.after, hf, framesOf_append, framesOf_plain hb, framesOf_other hig, framesOf_cons, Frame.of?, hig,
        if_false, Option.toList_none, List.nil_append]
    · have hq : eventsOf g t.events.reverse = [] := by
        rw [eventsOf, List.filterMap_eq_nil_iff]
        intro e he
        cases e with
        | link j e =>
          obtain rfl := ht.quiet j e (by simpa using he)
          simp [hig]
        | _ => rfl
      simp only [Machine.after, eventsOf_append, hq, List.nil_append]
    · simp only [List.head?_cons, Option.some.injEq, Frame.link.injEq] at h
      exact absurd h.1 hig
    · cases hfr : t.frames with
      | nil =>
        simp only [Machine.after, hfr, List.nil_append] at h
        obtain ⟨r, rfl⟩ := List.head?_eq_some_iff.mp h
        refine ((List.isChain_cons_cons.mp hh.chained).1 g f' rfl).resolve_left ?_
        rintro ⟨_, he⟩
        exact hig (Frame.link.inj he).1
      | cons a fs =>
        simp only [Machine.after, hfr, List.cons_append, List.head?_cons, Option.some.injEq] at h
        subst h
        obtain ⟨body, fs', hf, hb, -⟩ := ht.frames
        have hm : .link g f' ∈ body ++ List.map (Frame.link i) fs' := hf ▸ hfr ▸ List.mem_cons_self ..
        simp only [List.mem_append, List.mem_map] at hm
        rcases hm with hm | ⟨_, -, hm⟩
        · exact absurd hm (hb g f')
        · cases hm
          exact absurd rfl hig

theorem view_step {m n : Machine U X} {move : Move U X} (h : Stage m move n) (hh : Housed m) {g : Nat}
    (hg : g < m.state.links.length) : Leads g m move n := by
  have hn := housed_step h hh
  cases h with
  | plain hf ht hm => exact ht.leads hf hm hh hg
  | linked ht => exact ht.leads hh hn g
  | started hopen =>
    rename_i operation
    have hop : ∀ f, (operation.frame : Frame U X) ≠ .link g f := by cases operation <;> simp [Operation.frame]
    refine .same (view_same rfl ?_ rfl (faultOf_none fun f hf => waits_of_tick hg ?_) (ite_self _))
    · have : operation.frame.of? g = (none : Option (Coordinator.Frame (Hook U) X)) := by cases operation <;> rfl
      simp only [Machine.push, framesOf_cons, this, Option.toList_none, List.nil_append]
    · obtain ⟨r, hr⟩ := List.head?_eq_some_iff.mp hf
      simp only [Machine.open?, hr, Bool.and_eq_true, Option.isNone_iff_eq_none] at hopen
      exact hopen.1
  | recovered hsus =>
    refine .same (view_same rfl rfl rfl (faultOf_none fun f hf => waits_of_tick hg ?_) (ite_self _))
    obtain ⟨r, hr⟩ := List.head?_eq_some_iff.mp hf
    simpa only [Machine.suspended, hr, Option.isNone_iff_eq_none] using hsus

lemma framesOf_beyond {s : Session U X} {g : Nat} {stack : List (Frame U X)}
    (h : ∀ i f, .link i f ∈ stack → i < s.links.length) (hg : s.links.length ≤ g) : framesOf g stack = [] := by
  rw [framesOf, List.filterMap_eq_nil_iff]
  intro a ha
  cases a with
  | link i f =>
    have := h i f ha
    simp only [Frame.of?, ite_eq_right_iff]
    omega
  | _ => rfl

lemma eventsOf_beyond {s : Session U X} {g : Nat} {es : List (Event U X)}
    (h : ∀ i e, .link i e ∈ es → i < s.links.length) (hg : s.links.length ≤ g) : eventsOf g es = [] := by
  rw [eventsOf, List.filterMap_eq_nil_iff]
  intro a ha
  cases a with
  | link i e =>
    have := h i e ha
    simp only [Event.of?, ite_eq_right_iff]
    omega
  | _ => rfl

lemma view_beyond {m : Machine U X} (hh : Housed m) {g : Nat} (hge : m.state.links.length ≤ g) :
    m.view g = .fresh none := by
  have hstack : framesOf g m.stack = [] := framesOf_beyond hh.frames hge
  have hfault : m.faultOf g = none := by
    refine faultOf_none fun f hf => ?_
    obtain ⟨r, hr⟩ := List.head?_eq_some_iff.mp hf
    rw [hr] at hstack
    simp at hstack
  have hstate : coordinatorOf m.state g = {} := by simp [coordinatorOf, List.getElem?_eq_none hge]
  simp only [Machine.view, hstack, hfault, hstate, eventsOf_beyond hh.events hge]
  rfl

lemma view_attached {m n : Machine U X} {move : Move U X} (h : Stage m move n) (hh : Housed m) {g : Nat}
    (hge : m.state.links.length ≤ g) (hlt : g < n.state.links.length) : ∃ x, n.view g = .fresh x := by
  cases h with
  | plain hf ht hm =>
    rename_i s f r fault es t
    obtain ⟨x, hx⟩ := ht.kept.fresh g hge hlt
    have hframes : framesOf g t.frames = [] := by
      rcases ht.frames with hno | ⟨i, hi, operation, rest, -, hfr, hr, -⟩
      · exact framesOf_plain hno
      · have hne : i ≠ g := by
          simp only at hge
          omega
        simp only [hfr, framesOf_cons, Frame.of?, hne, if_false, Option.toList_none, framesOf_plain hr, List.append_nil]
    have hrest : framesOf g r = [] := framesOf_beyond (fun i f' hm => hh.frames i f' (List.mem_cons_of_mem _ hm)) hge
    have hstack : framesOf g (t.frames ++ r) = [] := by rw [framesOf_append, hframes, hrest, List.append_nil]
    have hevents : eventsOf g (t.events.reverse ++ es) = [] := by
      rw [eventsOf_append, eventsOf_plain (by simpa using ht.quiet), eventsOf_beyond hh.events hge, List.append_nil]
    have hfault : Machine.faultOf (Machine.after ⟨s, f :: r, fault, es⟩ r t) g = none := by
      refine faultOf_none fun f' hf' => ?_
      obtain ⟨r', hr'⟩ := List.head?_eq_some_iff.mp hf'
      rw [show t.frames ++ r = .link g f' :: r' from hr'] at hstack
      simp at hstack
    refine ⟨x, ?_⟩
    simp only [Machine.view, hfault]
    simp only [Machine.after, hx, hstack, hevents]
    rfl
  | linked ht => exact absurd (ht.length ▸ hlt) (Nat.not_lt.mpr hge)
  | started => exact absurd hlt (Nat.not_lt.mpr hge)
  | recovered => exact absurd hlt (Nat.not_lt.mpr hge)

lemma housed_start (worker : Worker) (transform : Option X) (restartable : Bool) (documentation : Documentation.Index) :
    Housed (U := U) { state := Session.make worker transform restartable documentation } :=
  ⟨by simp [Session.make, Session.attach], by simp, by simp, .nil⟩

lemma housed_run {m n : Machine U X} {moves : List (Move U X)} (hh : Housed m) (hr : m.run moves = some n) : Housed n := by
  rw [Machine.run_eq] at hr
  exact run_keeps (fun hs hh => housed_step (step_stage hh hs) hh) hr hh

section Invariants

variable {allowed : Machine U X → Move U X → Prop}
  {own : Coordinator.Machine (Hook U) X → Coordinator.Move (Hook U) X → Prop}
  {I : Coordinator.Machine (Hook U) X → Prop} {m n : Machine U X} {moves : List (Move U X)}

/-- Where the moves of a session are allowed, those of its links are. -/
structure Restricts (allowed : Machine U X → Move U X → Prop)
    (own : Coordinator.Machine (Hook U) X → Coordinator.Move (Hook U) X → Prop) : Prop where
  recover : ∀ p, own p .recover
  drives : ∀ {m move g a}, allowed m move → Drives m g move a → own (m.view g) a

lemma Restricts.and {allowed' : Machine U X → Move U X → Prop}
    {own' : Coordinator.Machine (Hook U) X → Coordinator.Move (Hook U) X → Prop} (h : Restricts allowed own)
    (h' : Restricts allowed' own') :
    Restricts (fun m move => allowed m move ∧ allowed' m move) fun p a => own p a ∧ own' p a where
  recover := fun p => ⟨h.recover p, h'.recover p⟩
  drives := fun ha hd => ⟨h.drives ha.1 hd, h'.drives ha.2 hd⟩

lemma Leads.invariant {g : Nat} {move : Move U X} (h : Leads g m move n) (hr : Restricts allowed own)
    (hstep : ∀ {p a q}, own p a → Coordinator.Stage p a q → I p → I q) (ha : allowed m move) (hi : I (m.view g)) :
    I (n.view g) := by
  obtain ⟨moves, hfollows, hrun⟩ := h
  refine run_invariant ?_ hfollows hrun hi
  rintro p a q (rfl | ⟨rfl, hd⟩) hs hi
  · exact hstep (hr.recover p) (Coordinator.step_stage hs) hi
  · exact hstep (hr.drives ha hd) (Coordinator.step_stage hs) hi

/-- What the allowed moves of a coordinator keep is kept, in every link, by a run of the session. -/
theorem view_invariant (hr : Restricts allowed own) (hfresh : ∀ x, I (.fresh x))
    (hstep : ∀ {p a q}, own p a → Coordinator.Stage p a q → I p → I q) (hh : Housed m)
    (hf : Follows Machine.step allowed m moves) (hrun : m.run moves = some n)
    (hi : ∀ g < m.state.links.length, I (m.view g)) : ∀ g < n.state.links.length, I (n.view g) := by
  rw [Machine.run_eq] at hrun
  refine (run_invariant (I := fun m : Machine U X => Housed m ∧ ∀ g < m.state.links.length, I (m.view g)) ?_ hf hrun
    ⟨hh, hi⟩).2
  rintro m move n ha hs ⟨hh, hi⟩
  have hst := step_stage hh hs
  refine ⟨housed_step hst hh, fun g hg => ?_⟩
  rcases Nat.lt_or_ge g m.state.links.length with hlt | hge
  · exact (view_step hst hh hlt).invariant hr hstep ha (hi g hlt)
  · obtain ⟨x, hx⟩ := view_attached hst hh hge hg
    exact hx ▸ hfresh x

theorem view_keeps (hr : Restricts allowed own) (hstep : ∀ {p a q}, own p a → Coordinator.Stage p a q → I p → I q)
    (hh : Housed m) (hf : Follows Machine.step allowed m moves) (hrun : m.run moves = some n) {g : Nat}
    (hg : g < m.state.links.length) (hi : I (m.view g)) : I (n.view g) := by
  rw [Machine.run_eq] at hrun
  refine (run_invariant (I := fun m : Machine U X => Housed m ∧ g < m.state.links.length ∧ I (m.view g)) ?_ hf hrun
    ⟨hh, hg, hi⟩).2.2
  rintro m move n ha hs ⟨hh, hg, hi⟩
  have hst := step_stage hh hs
  exact ⟨housed_step hst hh, hg.trans_le hst.links_le, (view_step hst hh hg).invariant hr hstep ha hi⟩

lemma view_start (worker : Worker) (transform : Option X) (restartable : Bool) (documentation : Documentation.Index)
    (hfresh : ∀ x, I (.fresh x)) :
    ∀ g < (Session.make (U := U) worker transform restartable documentation).links.length,
      I (Machine.view { state := Session.make worker transform restartable documentation } g) := by
  intro g hg
  obtain rfl : g = 0 := by
    simp only [Session.make, Session.attach, List.nil_append, List.length_singleton] at hg
    omega
  exact hfresh transform

end Invariants

lemma honest_restricts : Restricts (U := U) (X := X) Honest Coordinator.Honest where
  recover := fun _ => trivial
  drives := by
    intro m move g a ha hd
    cases hd with
    | operation hf h =>
      rename_i f operation
      cases operation with
      | route v => exact ha (g, v) (by simpa [hf, Frame.Starts] using h)
      | _ => trivial
    | own hf h => cases h <;> trivial

/-- What every honest run of a coordinator keeps holds of every link of a session at the end of an honest run. -/
theorem link_invariant {I : Coordinator.Machine (Hook U) X → Prop}
    (hfresh : ∀ x, I (.fresh x))
    (hstep : ∀ {m move n}, Coordinator.Honest m move → Coordinator.Stage m move n → I m → I n)
    {worker : Worker} {transform : Option X} {restartable : Bool} {documentation : Documentation.Index}
    {moves : List (Move U X)} {m : Machine U X}
    (hf : Follows Machine.step Honest { state := Session.make worker transform restartable documentation } moves)
    (hr : Machine.run { state := Session.make worker transform restartable documentation } moves = some m) :
    ∀ g < m.state.links.length, I (m.view g) :=
  view_invariant honest_restricts hfresh hstep (housed_start ..) hf hr (view_start _ _ _ _ hfresh)

end EvalSession.Session

import EvalSession.Proofs.Session.Service.Basic

/-!
# Hooks that raise

Main statement: a run in which hooks of callers end with faults that are contained cannot be told from the run in which
they just return. Most hooks are contained where they are called; one that is called from a hook of the session is
contained one frame below, so the two runs are kept in step up to a fault that the frame on top is about to contain.
-/
namespace EvalSession.Session

variable {U X : Type}

/-- The frame waits for a hook of a caller. -/
def Frame.hears : Frame U X → Bool
  | .awaitCall .. => true
  | .link _ (.awaitHook h _) => !internal h
  | _ => false

def Event.isRaise : Event U X → Bool
  | .link _ (.raised _) | .raised _ => true
  | _ => false

/-- Sends, calls of the transform and of hooks, and all else that happens, but for the notes that hooks raised. -/
def observed (es : List (Event U X)) : List (Event U X) := es.filter fun e => !e.isRaise

def Contained (fault : Option Fault) : Prop := ∀ e ∈ fault, e.ordinary = true

/-- A hook comes to its end by itself, or by a fault that is contained. -/
def Move.mild : Move U X → Bool
  | .answer .done => true
  | .answer (.raised e) => e.ordinary
  | _ => false

/-- A move of one run, and the fault that a hook raises there in another run, if it does. -/
structure Fork (U X : Type) where
  move : Move U X
  raised : Option Fault := none

def Fork.other (fork : Fork U X) : Move U X := (fork.raised.map fun e => .answer (.raised e)).getD fork.move

/-- Outside code answers where it has control, and what is raised in the other run is raised by a hook of a caller where it
comes to its end, and is contained. -/
def Forks (m : Machine U X) (fork : Fork U X) : Prop :=
  (∀ a, fork.move = .answer a → m.open? = true) ∧
    ∀ e ∈ fork.raised, m.stack.head?.any Frame.hears = true ∧ fork.move.mild = true ∧ e.ordinary = true

instance (m : Machine U X) (fork : Fork U X) : Decidable (Forks m fork) :=
  match h : fork.move with
  | .answer a =>
    decidable_of_iff (m.open? = true ∧
        ∀ e ∈ fork.raised, m.stack.head?.any Frame.hears = true ∧ fork.move.mild = true ∧ e.ordinary = true)
      (and_congr_left fun _ => ⟨fun ho _ _ => ho, fun ho => ho a h⟩)
  | .tick | .start _ | .recover =>
    decidable_of_iff
      (∀ e ∈ fork.raised, m.stack.head?.any Frame.hears = true ∧ fork.move.mild = true ∧ e.ordinary = true)
      (by simp [Forks, h])

/-- Two sessions that nobody can tell apart: they differ in notes that hooks raised, and outside code gets the same faults. -/
structure Agree (m n : Machine U X) : Prop where
  state : m.state = n.state
  stack : m.stack = n.stack
  events : observed m.events = observed n.events
  fault : m.suspended = true → m.fault = n.fault

/-- The two runs are in step. Faults may differ while the frame on top is about to contain them. -/
structure Parallel (m n : Machine U X) : Prop where
  state : m.state = n.state
  stack : m.stack = n.stack
  events : observed m.events = observed n.events
  fault : m.fault = n.fault ∨
    m.stack.head?.any Frame.catches = true ∧ Contained m.fault ∧ Contained n.fault

section Props

variable {s : Session U X} {f : Frame U X} {t : Turn U X} {r : List (Frame U X)}

lemma propped_link (g : Nat) (fs : List (Coordinator.Frame (Hook U) X)) (hr : Propped r) :
    Propped (fs.map (.link g) ++ r) :=
  propped_append (by simp [Frame.leans]) hr

lemma propped_call {g : Nat} {l : Link U X} {task : Nat} {moment : Moment} {argument : Argument}
    (h : tickLink s g l (.call task moment argument) = some t) (hr : Propped r) : Propped (t.frames ++ r) := by
  obtain rfl := Option.some.inj h
  cases hh : l.coordinator.hookOf task moment with
  | none => simpa [hh, Coordinator.callTurn, linkTurn] using hr
  | some hook =>
    have hwait : Propped (.link g (.awaitHook hook argument) :: r) := ⟨by simp [Frame.leans], hr⟩
    cases hook <;> cases argument <;>
      simp [hh, Coordinator.callTurn, linkTurn, bodyOf, Propped, hr, Frame.leans, Frame.catches, internal]

lemma propped_tickLink {g : Nat} {l : Link U X} {f : Coordinator.Frame (Hook U) X} (h : tickLink s g l f = some t)
    (hr : Propped r) : Propped (t.frames ++ r) := by
  by_cases hcall : ∃ task moment argument, f = .call task moment argument
  · obtain ⟨task, moment, argument, rfl⟩ := hcall
    exact propped_call h hr
  unfold tickLink at h
  split at h
  · cases h
    exact hr
  · cases h
  · cases h
    exact hr
  · exact absurd ⟨_, _, _, rfl⟩ hcall
  · obtain ⟨turn, -, rfl⟩ := Option.map_eq_some_iff.mp h
    exact propped_link g _ hr

lemma propped_body {hook : Hook U} {payload : Object} (hr : Propped (.body hook payload :: r)) :
    Propped ((bodyTurn s hook payload).frames ++ r) := by
  obtain ⟨hcatch, hr⟩ := hr
  cases hook with
  | user => exact hr
  | names q success =>
    simp only [bodyTurn, namesTurn]
    split
    · exact hr
    · cases success with
      | none => exact hr
      | some u => exact ⟨fun _ => hcatch rfl, hr⟩
  | inspection q hooks =>
    simp only [bodyTurn, inspectionTurn]
    split
    · exact hr
    · split <;> exact propped_append (by simp [Frame.leans, submit]) hr
  | inspectionError hooks => exact propped_append (by simp [bodyTurn, Frame.leans]) hr
  | scopeInspection report q hooks =>
    simp only [bodyTurn, scopeInspectionTurn]
    split
    · exact hr
    · exact propped_append (by simp [Frame.leans]) hr

lemma free_tick (hlink : ∀ g f', f ≠ .link g f') (hbody : ∀ hook payload, f ≠ .body hook payload)
    (h : f.tick s = some t) : ∀ g ∈ t.frames, g.leans = false := by
  cases f with
  | link g f' => exact absurd rfl (hlink g f')
  | body hook payload => exact absurd rfl (hbody hook payload)
  | awaitCall | awaitTermination | awaitWorker => cases h
  | complete code cursor hooks =>
    cases h
    simp only [completeTurn]
    split <;> simp [Frame.leans, submit]
  | inspect code cursor hooks =>
    cases h
    simp only [inspectTurn]
    split <;> simp [Frame.leans, submit]
  | respond hooks result =>
    cases h
    simp only [respondTurn]
    split <;> simp [Frame.leans]
  | call moment hook argument =>
    cases h
    cases hook <;> simp [callTurn, Frame.leans]
  | deliver worker message =>
    cases h
    simp only [deliverTurn]
    repeat' split
    all_goals simp [Frame.leans]
  | arrive channel message =>
    cases h
    simp only [arriveTurn]
    repeat' split
    all_goals simp [Frame.leans]
  | emit g message =>
    cases h
    simp only [emitTurn]
    split <;> simp [Frame.leans]
  | transmit fields messageId =>
    cases h
    split <;> simp [transmitTurn]
  | restart signal notify =>
    cases h
    split <;> simp [endTurn, Frame.leans]
  | terminate signal ending =>
    cases h
    simp only [terminateTurn]
    repeat' split
    all_goals simp [Frame.leans]
  | finish ending status =>
    cases h
    cases ending <;> simp [finishTurn, Frame.leans]
  | execute | assign | guarded | install | kill =>
    cases h
    simp [executeTurn, endTurn, submit, Frame.leans]

lemma free_unwind (e : Fault) : ∀ g ∈ (f.unwind s e).frames, g.leans = false := by
  cases f with
  | link g f' =>
    simp only [Frame.unwind]
    split <;> simp [linkTurn, Frame.leans]
  | awaitCall contained moment hook argument =>
    simp only [Frame.unwind, Frame.callFailed]
    split <;> simp
  | guarded =>
    simp only [Frame.unwind]
    split <;> simp
  | _ => simp [Frame.unwind]

lemma free_answer {a : Answer} (h : f.answer s a = some t) : ∀ g ∈ t.frames, g.leans = false := by
  unfold Frame.answer at h
  split at h
  · simp only [Frame.answerLink] at h
    split at h
    · obtain ⟨turn, -, rfl⟩ := Option.map_eq_some_iff.mp h
      simp [linkTurn, Frame.leans]
    · cases h
  · cases h
    simp
  · cases h
    simp only [Frame.callFailed]
    split <;> simp
  · cases h
    simp [Frame.leans]
  · cases h
    simp
  · cases h
    simp
  · cases h
    simp
  · cases h

end Props

/-- Frames whose faults go to the frame below always stand on one that contains them. -/
lemma propped_step {m n : Machine U X} {move : Move U X} (h : m.step move = some n) (hp : Propped m.stack) :
    Propped n.stack := by
  cases step_moved h with
  | started =>
    refine ⟨fun hl => ?_, hp⟩
    rename_i operation _
    cases operation <;> cases hl
  | recovered => exact hp
  | unwound => exact propped_append (free_unwind _) hp.2
  | answered ha => exact propped_append (free_answer ha) hp.2
  | @ticked s f r es t ht =>
    by_cases hlink : ∃ g f', f = .link g f'
    · obtain ⟨g, f', rfl⟩ := hlink
      simp only [Frame.tick] at ht
      split at ht
      · cases ht
        exact hp.2
      · exact propped_tickLink ht hp.2
    by_cases hbody : ∃ hook payload, f = .body hook payload
    · obtain ⟨hook, payload, rfl⟩ := hbody
      cases ht
      exact propped_body hp
    · exact propped_append (free_tick (fun g f' h => hlink ⟨g, f', h⟩) (fun hook payload h => hbody ⟨hook, payload, h⟩) ht)
        hp.2

section Steps

variable {m n : Machine U X} {move : Move U X} {s : Session U X} {f : Frame U X} {r : List (Frame U X)}
  {fault : Option Fault} {es es' : List (Event U X)}

lemma observed_append (a b : List (Event U X)) : observed (a ++ b) = observed a ++ observed b :=
  List.filter_append a b

lemma setCoordinator_same {g : Nat} {l : Link U X} (h : s.links[g]? = some l) : s.setCoordinator g l.coordinator = s := by
  rw [show l.coordinator = coordinatorOf s g by simp [coordinatorOf, h], setCoordinator_self]

/-- What a session does depends on no event. -/
lemma step_events (ho : observed es = observed es') (move : Move U X) :
    Option.Rel Parallel (Machine.step ⟨s, r, fault, es⟩ move) (Machine.step ⟨s, r, fault, es'⟩ move) := by
  have hafter : ∀ rest t, Parallel (Machine.after ⟨s, r, fault, es⟩ rest t) (Machine.after ⟨s, r, fault, es'⟩ rest t) :=
    fun rest t => ⟨rfl, rfl, by simp [Machine.after, observed_append, ho], .inl rfl⟩
  have hmap : ∀ rest (o : Option (Turn U X)), Option.Rel Parallel (o.map (Machine.after ⟨s, r, fault, es⟩ rest))
      (o.map (Machine.after ⟨s, r, fault, es'⟩ rest)) := by
    rintro rest (_ | t)
    · exact .none
    · exact .some (hafter rest t)
  have hif : ∀ (b : Bool) {m n : Machine U X}, Parallel m n →
      Option.Rel Parallel (if b then some m else none) (if b then some n else none) := by
    rintro (_ | _) m n h
    · exact .none
    · exact .some h
  cases move with
  | start operation => exact hif _ ⟨rfl, rfl, ho, .inl rfl⟩
  | recover => exact hif _ ⟨rfl, rfl, ho, .inl rfl⟩
  | tick =>
    cases r with
    | nil => exact .none
    | cons f r =>
      cases fault with
      | none => exact hmap r _
      | some e => exact .some (hafter r _)
  | answer a =>
    cases r with
    | nil => exact .none
    | cons f r =>
      cases fault with
      | none => exact hmap r _
      | some e => exact .none

lemma catches_eq (h : f.catches = true) :
    ∃ g hook argument, f = .link g (.awaitHook hook argument) ∧ internal hook = true := by
  unfold Frame.catches at h
  split at h
  · exact ⟨_, _, _, rfl, h⟩
  · cases h

lemma catches_busy (hf : f.catches = true) : (f.tick s).isNone = false := by
  obtain ⟨g, hook, argument, rfl, hi⟩ := catches_eq hf
  simp only [Frame.tick]
  cases s.links[g]? with
  | none => rfl
  | some l => cases hook <;> first | rfl | cases hi

lemma catches_tick (r : List (Frame U X)) (es : List (Event U X)) (hh : ∀ g f', f = .link g f' → g < s.links.length)
    (hf : f.catches = true) (hc : Contained fault) :
    ∃ es', (Machine.mk s (f :: r) fault es).step .tick = some ⟨s, r, none, es'⟩ ∧ observed es' = observed es := by
  obtain ⟨g, hook, argument, rfl, hi⟩ := catches_eq hf
  have hl := List.getElem?_eq_getElem (hh g _ rfl)
  cases fault with
  | none =>
    refine ⟨es, ?_, rfl⟩
    cases hook with
    | user => cases hi
    | _ => simp [Machine.step, Machine.tick, Frame.tick, hl, tickLink, Machine.after]
  | some e =>
    refine ⟨.link g (.raised hook) :: es, ?_, rfl⟩
    simp [Machine.step, Machine.tick, Frame.unwind, hl, Coordinator.Frame.unwind, Coordinator.Frame.hookFailed,
      hc e rfl, linkTurn, setCoordinator_same hl, Machine.after]

lemma hears_answer (es : List (Event U X)) {a : Answer} (hh : ∀ g f', f = .link g f' → g < s.links.length)
    (hp : Propped (f :: r)) (hf : f.hears = true) (ha : (Move.answer a : Move U X).mild = true) :
    ∃ fault es', (Machine.mk s (f :: r) none es).step (.answer a) = some ⟨s, r, fault, es'⟩ ∧ observed es' = observed es ∧
      (fault = none ∨ r.head?.any Frame.catches = true) ∧ Contained fault := by
  unfold Frame.hears at hf
  split at hf
  · rename_i contained moment hook argument
    cases a with
    | done => exact ⟨none, es, rfl, rfl, .inl rfl, by simp [Contained]⟩
    | raised e =>
      cases contained with
      | true =>
        refine ⟨none, .raised moment :: es, ?_, rfl, .inl rfl, by simp [Contained]⟩
        have he : e.ordinary = true := ha
        simp [Machine.step, Machine.answer, Frame.answer, Frame.callFailed, he, Machine.after]
      | false => exact ⟨some e, es, rfl, rfl, .inr (hp.1 rfl), fun e' he' => Option.some.inj he' ▸ ha⟩
    | _ => cases ha
  · rename_i g hook argument
    have hl := List.getElem?_eq_getElem (hh g _ rfl)
    cases a with
    | done =>
      refine ⟨none, es, ?_, rfl, .inl rfl, by simp [Contained]⟩
      simp [Machine.step, Machine.answer, Frame.answer, Frame.answerLink, Answer.coordinator?, hl,
        Coordinator.Frame.answer, linkTurn, setCoordinator_same hl, Machine.after]
    | raised e =>
      refine ⟨none, .link g (.raised hook) :: es, ?_, rfl, .inl rfl, by simp [Contained]⟩
      have he : e.ordinary = true := ha
      simp [Machine.step, Machine.answer, Frame.answer, Frame.answerLink, Answer.coordinator?, hl,
        Coordinator.Frame.answer, Coordinator.Frame.hookFailed, he, linkTurn, setCoordinator_same hl, Machine.after]
    | _ => cases ha
  · cases hf

lemma parallel_step (hh : Housed m) (h : Parallel m n)
    (ha : ∀ a, move = .answer a → m.open? = true) : Option.Rel Parallel (m.step move) (n.step move) := by
  obtain ⟨s, stack, fault, es⟩ := m
  obtain ⟨s', stack', fault', es'⟩ := n
  obtain ⟨rfl, rfl, ho, hfault⟩ := h
  rcases hfault with rfl | ⟨htop, hc, hc'⟩
  · exact step_events ho move
  obtain ⟨f, hf, hcatch⟩ := (Option.any_eq_true _ _).mp htop
  obtain ⟨r, rfl⟩ := List.head?_eq_some_iff.mp hf
  have hbusy := catches_busy (s := s) hcatch
  cases move with
  | tick =>
    have hlink : ∀ g f', f = .link g f' → g < s.links.length := fun g f' hg => hh.frames g f' (by simp [hg])
    obtain ⟨_, hm, hom⟩ := catches_tick r es hlink hcatch hc
    obtain ⟨_, hn, hon⟩ := catches_tick r es' hlink hcatch hc'
    rw [hm, hn]
    exact .some ⟨rfl, rfl, (hom.trans ho).trans hon.symm, .inl rfl⟩
  | start operation => simp [Machine.step, Machine.open?, hbusy]
  | recover => simp [Machine.step, Machine.suspended, hbusy]
  | answer a => simp [Machine.open?, hbusy] at ha

lemma parallel_raise {a : Answer} {e : Fault} (hh : Housed m) (hp : Propped m.stack) (h : Parallel m n)
    (ho : m.open? = true) (htop : m.stack.head?.any Frame.hears = true) (ha : (Move.answer a : Move U X).mild = true)
    (he : e.ordinary = true) : Option.Rel Parallel (m.step (.answer a)) (n.step (.answer (.raised e))) := by
  obtain ⟨s, stack, fault, es⟩ := m
  obtain ⟨s', stack', fault', es'⟩ := n
  obtain ⟨rfl, rfl, hes, hfault⟩ := h
  obtain ⟨f, hf, hhears⟩ := (Option.any_eq_true _ _).mp htop
  obtain ⟨r, rfl⟩ := List.head?_eq_some_iff.mp hf
  have hnone : fault = none := by
    simp only [Machine.open?, Bool.and_eq_true, Option.isNone_iff_eq_none] at ho
    exact ho.2
  have hquiet : f.catches = false := by
    cases f with
    | link g f' => cases f' <;> simp_all [Frame.hears, Frame.catches]
    | _ => rfl
  have hnone' : fault' = none := by
    simpa [hnone, hquiet, eq_comm] using hfault
  subst hnone hnone'
  have hlink : ∀ g f', f = .link g f' → g < s.links.length := fun g f' hg => hh.frames g f' (by simp [hg])
  obtain ⟨d, _, hm, hom, hd, hcd⟩ := hears_answer es hlink hp hhears ha
  have hmild : (Move.answer (.raised e) : Move U X).mild = true := he
  obtain ⟨d', _, hn, hon, hd', hcd'⟩ := hears_answer es' hlink hp hhears hmild
  rw [hm, hn]
  refine .some ⟨rfl, rfl, (hom.trans hes).trans hon.symm, ?_⟩
  -- a fault that goes to the frame below is about to be contained there
  rcases hd with rfl | hd
  · exact hd'.imp Eq.symm fun hd' => ⟨hd', hcd, hcd'⟩
  · exact .inr ⟨hd, hcd, hcd'⟩

lemma Parallel.agree (h : Parallel m n) : Agree m n := by
  refine ⟨h.state, h.stack, h.events, fun hs => h.fault.resolve_right ?_⟩
  rintro ⟨htop, -⟩
  obtain ⟨f, hf, hcatch⟩ := (Option.any_eq_true _ _).mp htop
  obtain ⟨r, hr⟩ := List.head?_eq_some_iff.mp hf
  simp [Machine.suspended, hr, catches_busy hcatch] at hs

lemma agree_of_parallel {a b : Option (Machine U X)} (h : Option.Rel Parallel a b) : Option.Rel Agree a b := by
  cases h with
  | some h => exact .some h.agree
  | none => exact .none

lemma parallel_fork {fork : Fork U X} (hh : Housed m) (hp : Propped m.stack) (h : Parallel m n) (hf : Forks m fork) :
    Option.Rel Parallel (m.step fork.move) (n.step fork.other) := by
  obtain ⟨move, raised⟩ := fork
  obtain ⟨ho, hr⟩ := hf
  cases raised with
  | none => exact parallel_step hh h ho
  | some e =>
    obtain ⟨htop, hm, he⟩ := hr e rfl
    cases move with
    | answer a => exact parallel_raise hh hp h (ho a rfl) htop hm he
    | tick | start | recover => cases hm

lemma parallel_run {forks : List (Fork U X)} (hf : Follows (fun m fork => m.step fork.move) Forks m forks) (hh : Housed m)
    (hp : Propped m.stack) (h : Parallel m n) (k : Nat) :
    Option.Rel Parallel (m.run ((forks.take k).map Fork.move)) (n.run ((forks.take k).map Fork.other)) := by
  induction forks generalizing m n k with
  | nil =>
    rw [List.take_nil]
    exact .some h
  | cons fork rest ih =>
    cases k with
    | zero => exact .some h
    | succ k =>
      have hstep := parallel_fork hh hp h hf.1
      simp only [List.take_succ_cons, List.map_cons, Machine.run]
      cases hm : m.step fork.move with
      | none =>
        rw [hm] at hstep
        cases hn : n.step fork.other with
        | none => exact .none
        | some n' => simp [hn] at hstep
      | some m' =>
        rw [hm] at hstep
        cases hn : n.step fork.other with
        | none => simp [hn] at hstep
        | some n' =>
          rw [hn] at hstep
          exact ih (hf.2 m' hm) (housed_step (step_stage hh hm) hh) (propped_step hm hp) (by simpa using hstep) k

end Steps

/-- A run in which hooks of callers raise at their ends, where they returned in another run, is after every move the same as
the other: in the state of the session and what is on its way, in all that has been sent and called and with what, and in
what callers get to see of faults. -/
theorem hooks_contained {worker : Worker} {transform : Option X} {restartable : Bool} {documentation : Documentation.Index}
    {forks : List (Fork U X)}
    (hf : Follows (fun m fork => m.step fork.move) Forks { state := Session.make worker transform restartable documentation }
      forks) (k : Nat) :
    Option.Rel Agree
      (Machine.run { state := Session.make worker transform restartable documentation } ((forks.take k).map Fork.move))
      (Machine.run { state := Session.make worker transform restartable documentation } ((forks.take k).map Fork.other)) :=
  agree_of_parallel (parallel_run hf (housed_start ..) trivial ⟨rfl, rfl, rfl, .inl rfl⟩ k)

/-- A completion whose hooks raise in the other run: the one before the run, which hands in a further task, the one for the
result, which is called by a hook of the session, and the one after the run. -/
def raisingThrice : List (Fork Nat Nat) :=
  let fault : Fault := .thrown ⟨"E", "e", "E('e')", [], true⟩
  let listed : Value := .object [("id", .int 1), ("end", .bool true), ("names", .list [.string "bc"])]
  List.flatten [[⟨.start (.complete "a.b".toList 3 ⟨some 0, some 1, some 2, some 3, none, none⟩), none⟩],
    List.replicate 6 ⟨.tick, none⟩, [⟨.start (.execute "x" none), none⟩, ⟨.tick, none⟩, ⟨.tick, none⟩,
    ⟨.answer .done, some fault⟩, ⟨.tick, none⟩, ⟨.tick, none⟩, ⟨.answer .done, none⟩, ⟨.tick, none⟩,
    ⟨.start (.deliver 0 listed), none⟩], List.replicate 4 ⟨.tick, none⟩, [⟨.answer .done, some fault⟩, ⟨.tick, none⟩,
    ⟨.tick, none⟩, ⟨.tick, none⟩, ⟨.answer .done, some fault⟩], List.replicate 7 ⟨.tick, none⟩, [⟨.answer .done, none⟩,
    ⟨.tick, none⟩]]

theorem raisingThrice_contained :
    ∃ m n, Machine.run { state := Session.make (.remote 0) none false ⟨[], []⟩ } (raisingThrice.map Fork.move) = some m ∧
      Machine.run { state := Session.make (.remote 0) none false ⟨[], []⟩ } (raisingThrice.map Fork.other) = some n ∧
      m.events.countP Event.isRaise = 0 ∧ n.events.countP Event.isRaise = 3 ∧ Agree m n := by
  have hm : (Machine.run { state := Session.make (.remote 0) none false ⟨[], []⟩ }
      (raisingThrice.map Fork.move)).isSome = true := by decide +kernel
  have hn : (Machine.run { state := Session.make (.remote 0) none false ⟨[], []⟩ }
      (raisingThrice.map Fork.other)).isSome = true := by decide +kernel
  have hquiet : ∀ m ∈ Machine.run { state := Session.make (.remote 0) none false ⟨[], []⟩ } (raisingThrice.map Fork.move),
      m.events.countP Event.isRaise = 0 := by decide +kernel
  have hnoted : ∀ n ∈ Machine.run { state := Session.make (.remote 0) none false ⟨[], []⟩ } (raisingThrice.map Fork.other),
      n.events.countP Event.isRaise = 3 := by decide +kernel
  have hf : Follows (fun m fork => Machine.step m fork.move) Forks
      { state := Session.make (.remote 0) none false ⟨[], []⟩ } raisingThrice := by decide +kernel
  have hagree := hooks_contained hf 34
  rw [List.take_of_length_le (Nat.le_refl 34), ← Option.some_get hm, ← Option.some_get hn, Option.rel_some_some] at hagree
  exact ⟨_, _, (Option.some_get hm).symm, (Option.some_get hn).symm, hquiet _ (Option.some_get hm).symm,
    hnoted _ (Option.some_get hn).symm, hagree⟩

end EvalSession.Session

import EvalSession.Proofs.Coordinator.Addressing
import EvalSession.Session.Machine

/-!
# What a session can do in one move

A stage of a frame that is none of a link (`Plain`) leaves the coordinators alone and at most starts an operation of one
of them; a stage of a frame of a link (`Linked`) is a move of its coordinator. `step_stage` is the only place where the
frames of a session are run.
-/
namespace EvalSession.Session

variable {U X : Type}

@[simp] def Frame.of? (g : Nat) : Frame U X → Option (Coordinator.Frame (Hook U) X)
  | .link i f => if i = g then some f else none
  | _ => none

lemma Frame.of?_eq_some {g : Nat} {b : Frame U X} {f : Coordinator.Frame (Hook U) X} (h : b.of? g = some f) :
    b = .link g f := by
  cases b with
  | link i f' =>
    obtain ⟨rfl, h'⟩ := Option.ite_none_right_eq_some.mp h
    rw [Option.some.inj h']
  | _ => cases h

@[simp] def Event.of? (g : Nat) : Event U X → Option (Coordinator.Event (Hook U) X)
  | .link i e => if i = g then some e else none
  | _ => none

def framesOf (g : Nat) (stack : List (Frame U X)) : List (Coordinator.Frame (Hook U) X) := stack.filterMap (Frame.of? g)

def eventsOf (g : Nat) (es : List (Event U X)) : List (Coordinator.Event (Hook U) X) := es.filterMap (Event.of? g)

def coordinatorOf (s : Session U X) (g : Nat) : Coordinator (Hook U) X := (s.links[g]?.map Link.coordinator).getD {}

/-- What stands right above a frame of a link: a frame of the same link, unless the frame waits for outside code. -/
def Over (above below : Frame U X) : Prop :=
  ∀ g f, below = .link g f → (∃ f', above = .link g f') ∨ f.waits = true

structure Housed (m : Machine U X) : Prop where
  inhabited : 0 < m.state.links.length
  frames : ∀ g f, .link g f ∈ m.stack → g < m.state.links.length
  events : ∀ g e, .link g e ∈ m.events → g < m.state.links.length
  chained : m.stack.IsChain Over

@[simp] lemma framesOf_nil (g : Nat) : framesOf g ([] : List (Frame U X)) = [] := rfl

@[simp] lemma framesOf_cons (g : Nat) (f : Frame U X) (stack : List (Frame U X)) :
    framesOf g (f :: stack) = (f.of? g).toList ++ framesOf g stack := by
  cases h : f.of? g <;> simp only [framesOf, h, List.filterMap_cons, Option.toList, List.nil_append, List.cons_append]

@[simp] lemma framesOf_append (g : Nat) (a b : List (Frame U X)) : framesOf g (a ++ b) = framesOf g a ++ framesOf g b :=
  List.filterMap_append

@[simp] lemma eventsOf_append (g : Nat) (a b : List (Event U X)) : eventsOf g (a ++ b) = eventsOf g a ++ eventsOf g b :=
  List.filterMap_append

lemma framesOf_link (g : Nat) (fs : List (Coordinator.Frame (Hook U) X)) :
    framesOf g (fs.map (Frame.link (U := U) (X := X) g)) = fs := by
  simp [framesOf, List.filterMap_map, Function.comp_def]

lemma framesOf_other {g i : Nat} (h : i ≠ g) (fs : List (Coordinator.Frame (Hook U) X)) :
    framesOf g (fs.map (Frame.link (U := U) (X := X) i)) = [] := by
  simp [framesOf, h]

lemma eventsOf_link (g : Nat) (es : List (Coordinator.Event (Hook U) X)) :
    eventsOf g ((es.map (Event.link (U := U) (X := X) g)).reverse) = es.reverse := by
  simp [eventsOf, List.filterMap_map, Function.comp_def, ← List.map_reverse]

lemma coordinatorOf_set (s : Session U X) {g : Nat} (h : g < s.links.length) (c : Coordinator (Hook U) X) :
    coordinatorOf (s.setCoordinator g c) g = c := by
  simp [coordinatorOf, setCoordinator, List.getElem?_eq_getElem h]

lemma coordinatorOf_other (s : Session U X) {g i : Nat} (h : i ≠ g) (c : Coordinator (Hook U) X) :
    coordinatorOf (s.setCoordinator i c) g = coordinatorOf s g := by
  simp [coordinatorOf, setCoordinator, h]

lemma waits_below {g : Nat} {a : Frame U X} {stack : List (Frame U X)} (hc : (a :: stack).IsChain Over)
    (ha : ∀ f, a ≠ .link g f) : ∀ f, (framesOf g stack).head? = some f → f.waits = true := by
  induction stack generalizing a with
  | nil => simp
  | cons b stack ih =>
    obtain ⟨hab, hc⟩ := List.isChain_cons_cons.mp hc
    cases hb : b.of? g with
    | none =>
      have hb' : ∀ f, b ≠ .link g f := by
        rintro f rfl
        simp at hb
      rw [framesOf_cons, hb]
      exact ih hc hb'
    | some fb =>
      obtain rfl : b = .link g fb := Frame.of?_eq_some hb
      rintro f hf
      obtain rfl : fb = f := by simpa using hf
      refine (hab g fb rfl).resolve_left ?_
      rintro ⟨f', hf'⟩
      exact ha f' hf'

def Frame.hands? (s : Session U X) : Frame U X → Option (Nat × Value)
  | .deliver worker message => (s.linkOf? worker).bind fun g => (handlerOf s g).map fun _ => (g, message)
  | .emit g message => if handlerOf s g = some .router then some (g, .object message) else none
  | _ => none

/-- The links are the same, and so are the coordinators of them. -/
structure Kept (s s' : Session U X) : Prop where
  le : s.links.length ≤ s'.links.length
  same : ∀ g < s.links.length, coordinatorOf s' g = coordinatorOf s g
  fresh : ∀ g, s.links.length ≤ g → g < s'.links.length → ∃ x, coordinatorOf s' g = { transform := x }

/-- The operations of the coordinator of a link that a frame may start. -/
def Frame.Starts (s : Session U X) (f : Frame U X) (g : Nat) : Coordinator.Operation (Hook U) X → Prop
  | .route v => f.hands? s = some (g, v)
  | .submit task => ∃ text, task.code = .string text
  | .kill | .assign _ => True

/-- What a stage of a frame that is none of a link does: at most it starts an operation of a link. -/
structure Plain (s : Session U X) (f : Frame U X) (t : Turn U X) : Prop where
  kept : Kept s t.state
  quiet : ∀ g e, .link g e ∉ t.events
  frames : (∀ g f, .link g f ∉ t.frames) ∨ ∃ g < s.links.length, ∃ operation : Coordinator.Operation (Hook U) X, ∃ rest,
    f.Starts s g operation ∧ t.frames = .link g operation.frame :: rest ∧ (∀ g f, .link g f ∉ rest) ∧ t.fault = none

lemma Kept.of_links {s s' : Session U X} (h : s'.links = s.links) : Kept s s' :=
  ⟨by rw [h], fun g _ => by rw [coordinatorOf, h, coordinatorOf], fun g h1 h2 => absurd (h ▸ h2) (Nat.not_lt.mpr h1)⟩

lemma Plain.of_links {s : Session U X} {f : Frame U X} {t : Turn U X} (hs : t.state.links = s.links)
    (hq : ∀ g e, .link g e ∉ t.events) (hf : ∀ g f, .link g f ∉ t.frames) : Plain s f t :=
  ⟨.of_links hs, hq, .inl hf⟩

lemma current_lt {s : Session U X} (h : 0 < s.links.length) : s.current < s.links.length := Nat.sub_lt h Nat.one_pos

lemma coordinatorOf_setKernel (s : Session U X) (g i : Nat) (k : Kernel) :
    coordinatorOf (s.setKernel i k) g = coordinatorOf s g := by
  simp only [coordinatorOf, setKernel, List.getElem?_modify]
  cases s.links[g]? <;> simp [apply_ite]

lemma coordinatorOf_setHandler (s : Session U X) (g i : Nat) (h : Option Handler) :
    coordinatorOf (s.setHandler i h) g = coordinatorOf s g := by
  simp only [coordinatorOf, setHandler, List.getElem?_modify]
  cases s.links[g]? <;> simp [apply_ite]

@[simp] lemma setKernel_length (s : Session U X) (i : Nat) (k : Kernel) :
    (s.setKernel i k).links.length = s.links.length := by simp [setKernel]

@[simp] lemma setHandler_length (s : Session U X) (i : Nat) (h : Option Handler) :
    (s.setHandler i h).links.length = s.links.length := by simp [setHandler]

@[simp] lemma setCoordinator_length (s : Session U X) (i : Nat) (c : Coordinator (Hook U) X) :
    (s.setCoordinator i c).links.length = s.links.length := by simp [setCoordinator]

lemma setCoordinator_self (s : Session U X) (g : Nat) : s.setCoordinator g (coordinatorOf s g) = s := by
  have hmodify : s.links.modify g (fun l => { l with coordinator := coordinatorOf s g }) = s.links := by
    refine List.ext_getElem? fun i => ?_
    rw [List.getElem?_modify]
    rcases eq_or_ne g i with rfl | hne
    · cases hl : s.links[g]? <;> simp [coordinatorOf, hl]
    · simp [hne]
  rw [setCoordinator, hmodify]

lemma Kept.setKernel (s : Session U X) (i : Nat) (k : Kernel) : Kept s (s.setKernel i k) :=
  ⟨by simp, fun _ _ => coordinatorOf_setKernel .., fun g h1 h2 => absurd h2 (by simpa using h1)⟩

lemma Kept.setHandler (s : Session U X) (i : Nat) (h : Option Handler) : Kept s (s.setHandler i h) :=
  ⟨by simp, fun _ _ => coordinatorOf_setHandler .., fun g h1 h2 => absurd h2 (by simpa using h1)⟩

lemma Kept.trans {s s' s'' : Session U X} (h : Kept s s') (h' : Kept s' s'') : Kept s s'' where
  le := h.le.trans h'.le
  same := fun g hg => (h'.same g (hg.trans_le h.le)).trans (h.same g hg)
  fresh := fun g h1 h2 => by
    rcases Nat.lt_or_ge g s'.links.length with hlt | hge
    · exact (h.fresh g h1 hlt).imp fun x hx => (h'.same g hlt).trans hx
    · exact h'.fresh g hge h2

lemma Kept.attach (s : Session U X) (worker : Worker) : Kept s (s.attach worker) where
  le := by simp [Session.attach]
  same := fun g hg => by simp [coordinatorOf, Session.attach, List.getElem?_append_left hg]
  fresh := fun g h1 h2 => by
    have hg : g = s.links.length := by
      simp only [Session.attach, List.length_append, List.length_singleton] at h2
      omega
    exact ⟨s.transform, by simp [coordinatorOf, Session.attach, hg]⟩

lemma Plain.operate {s : Session U X} {f : Frame U X} {t : Turn U X} (hk : t.state.links = s.links)
    (hq : ∀ g e, .link g e ∉ t.events) {g : Nat} (hg : g < s.links.length)
    (operation : Coordinator.Operation (Hook U) X) (hv : f.Starts s g operation) (rest : List (Frame U X))
    (hf : t.frames = .link g operation.frame :: rest) (hr : ∀ g f, .link g f ∉ rest)
    (hn : t.fault = none) : Plain s f t :=
  ⟨.of_links hk, hq, .inr ⟨g, hg, operation, rest, hv, hf, hr, hn⟩⟩

lemma plain_submit {s : Session U X} {f : Frame U X} {t : Turn U X} (hs : 0 < s.links.length)
    (ht : t.state.links = s.links) (hq : ∀ g e, .link g e ∉ t.events) (task : Task (Hook U))
    (hc : ∃ text, task.code = .string text) (hf : t.frames = [s.submit task]) (hn : t.fault = none) : Plain s f t :=
  .operate ht hq (current_lt hs) (.submit task) hc [] hf (by simp) hn

lemma plain_end {s : Session U X} (hs : 0 < s.links.length) (f : Frame U X) (signal : String) (ending : Ending) :
    Plain s f (endTurn s signal ending) :=
  .operate rfl (by simp [endTurn]) (current_lt hs) .kill trivial
    [.install none, .terminate signal ending] rfl (by simp) rfl

lemma plain_call (s : Session U X) (f : Frame U X) (contained : Bool) (moment : Moment) (hook : Option U)
    (argument : Argument) :
    Plain s f (callTurn s contained moment hook argument) := by
  cases hook <;> exact .of_links rfl (by simp [callTurn]) (by simp [callTurn])

lemma plain_body {s : Session U X} (hs : 0 < s.links.length) (f : Frame U X) (hook : Hook U) (payload : Object) :
    Plain s f (bodyTurn s hook payload) := by
  cases hook with
  | user => exact .of_links rfl (by simp [bodyTurn]) (by simp [bodyTurn])
  | inspectionError => exact .of_links rfl (by simp [bodyTurn]) (by simp [bodyTurn])
  | names q success =>
    simp only [bodyTurn, namesTurn]
    split
    · exact .of_links rfl (by simp) (by simp)
    · exact plain_call ..
  | inspection q hooks =>
    simp only [bodyTurn, inspectionTurn]
    split
    · exact .of_links rfl (by simp) (by simp)
    · split
      · exact .of_links rfl (by simp) (by simp)
      · exact plain_submit hs rfl (by simp) _ ⟨_, rfl⟩ rfl rfl
  | scopeInspection report q hooks =>
    simp only [bodyTurn, scopeInspectionTurn]
    split
    · exact .of_links rfl (by simp) (by simp)
    · exact .of_links rfl (by simp) (by simp)

lemma linkOf_lt {s : Session U X} {worker g : Nat} (h : s.linkOf? worker = some g) : g < s.links.length :=
  (List.findIdx?_eq_some_iff_getElem.mp h).1

lemma handlerOf_lt {s : Session U X} {g : Nat} {h : Handler} (hg : handlerOf s g = some h) : g < s.links.length := by
  obtain ⟨l, hl, -⟩ := Option.bind_eq_some_iff.mp hg
  exact (List.getElem?_eq_some_iff.mp hl).1

lemma endedEvents_quiet (notify : Bool) (status : Kernel.ExitStatus) (g : Nat) (e : Coordinator.Event (Hook U) X) :
    .link g e ∉ endedEvents notify status := by
  cases notify <;> simp [endedEvents]

lemma plain_terminate (s : Session U X) (f : Frame U X) (signal : String) (ending : Ending) :
    Plain s f (terminateTurn s signal ending) := by
  unfold terminateTurn
  split
  · exact .of_links rfl (by simp) (by simp)
  · split
    · exact .of_links rfl (by simp) (by simp)
    · rename_i l k _
      have hquiet : ∀ (gone : Bool) g (e : Coordinator.Event (Hook U) X),
          (.link g e : Event U X) ∉
            (k.terminate signal).acts.map (.act (g := s.current)) ++ (if gone then [.log .kernelTerminated] else []) := by
        intro gone g e
        cases gone <;> simp
      simp only
      split <;> refine ⟨?_, hquiet _, .inl (by simp)⟩
      all_goals
        split
        · exact (Kept.setKernel ..).trans (Kept.setHandler ..)
        · exact Kept.setKernel ..

lemma plain_tick {s : Session U X} (hs : 0 < s.links.length) {f : Frame U X} {t : Turn U X} (hf : ∀ g f', f ≠ .link g f')
    (h : f.tick s = some t) : Plain s f t := by
  cases f with
  | link g f' => exact absurd rfl (hf g f')
  | awaitCall => cases h
  | awaitTermination => cases h
  | awaitWorker => cases h
  | execute code hooks =>
    cases h
    exact plain_submit hs rfl (by simp [executeTurn]) _ ⟨_, rfl⟩ rfl rfl
  | complete code cursor hooks =>
    cases h
    unfold completeTurn
    split
    · exact .of_links rfl (by simp) (by simp)
    · exact plain_submit hs rfl (by simp) _ ⟨_, rfl⟩ rfl rfl
  | inspect code cursor hooks =>
    cases h
    unfold inspectTurn
    split
    · exact .of_links rfl (by simp) (by simp)
    · exact plain_submit hs rfl (by simp) _ ⟨_, rfl⟩ rfl rfl
  | assign x =>
    cases h
    exact .operate rfl (by simp) (current_lt hs) (.assign x) trivial [] rfl (by simp) rfl
  | respond hooks result =>
    cases h
    unfold respondTurn
    split <;> exact .of_links rfl (by simp) (by simp)
  | call moment hook argument =>
    cases h
    exact plain_call ..
  | body hook payload =>
    cases h
    exact plain_body hs _ hook payload
  | deliver worker message =>
    cases h
    unfold deliverTurn
    split
    · exact .of_links rfl (by simp) (by simp)
    · rename_i g hg
      split
      · exact .of_links rfl (by simp) (by simp)
      · rename_i hh
        refine .operate rfl (by simp) (linkOf_lt hg) (.route message) ?_ [] rfl (by simp) rfl
        simp [Frame.Starts, Frame.hands?, hg, hh]
  | arrive channel message =>
    cases h
    unfold arriveTurn
    split
    · exact .of_links rfl (by simp) (by simp)
    · split
      · exact .of_links rfl (by simp) (by simp)
      · split
        · exact .of_links rfl (by simp) (by simp)
        · refine ⟨.setKernel .., by simp, .inl ?_⟩
          intro g f
          simp only
          split <;> simp
  | emit g message =>
    cases h
    unfold emitTurn
    split
    · exact .of_links rfl (by simp) (by simp)
    · rename_i hh
      refine .operate rfl (by simp) (handlerOf_lt hh) (.route (.object message)) ?_ [] rfl (by simp) rfl
      simp [Frame.Starts, Frame.hands?, hh]
    · exact .of_links rfl (by simp) (by simp)
  | guarded =>
    cases h
    exact .of_links rfl (by simp) (by simp)
  | transmit fields messageId =>
    cases h
    split
    · exact .of_links rfl (by simp) (by simp)
    · exact .of_links rfl (by simp) (by simp)
    · exact ⟨.setKernel .., by simp [transmitTurn], .inl (by simp [transmitTurn])⟩
  | install handler =>
    cases h
    exact ⟨.setHandler .., by simp, .inl (by simp)⟩
  | kill signal notify =>
    cases h
    exact plain_end hs ..
  | restart signal notify =>
    cases h
    split
    · exact plain_end hs ..
    · exact .of_links rfl (by simp) (by simp)
  | terminate signal ending =>
    cases h
    exact plain_terminate ..
  | finish ending status =>
    cases h
    cases ending <;> exact .of_links rfl (by simp [finishTurn, endedEvents_quiet]) (by simp [finishTurn])

lemma plain_unwind (s : Session U X) (e : Fault) {f : Frame U X} (hf : ∀ g f', f ≠ .link g f') :
    Plain s f (f.unwind s e) := by
  cases f with
  | link g f' => exact absurd rfl (hf g f')
  | awaitCall contained moment hook argument =>
    simp only [Frame.unwind, Frame.callFailed]
    split <;> exact .of_links rfl (by simp) (by simp)
  | guarded =>
    simp only [Frame.unwind]
    split <;> exact .of_links rfl (by simp) (by simp)
  | _ => exact .of_links rfl (by simp [Frame.unwind]) (by simp [Frame.unwind])

lemma plain_answer {s : Session U X} {f : Frame U X} {a : Answer} {t : Turn U X} (hf : ∀ g f', f ≠ .link g f')
    (h : f.answer s a = some t) : Plain s f t := by
  unfold Frame.answer at h
  split at h
  · exact absurd rfl (hf _ _)
  · cases h
    exact .of_links rfl (by simp) (by simp)
  · cases h
    simp only [Frame.callFailed]
    split <;> exact .of_links rfl (by simp) (by simp)
  · cases h
    exact .of_links rfl (by simp) (by simp)
  · cases h
    exact .of_links rfl (by simp) (by simp)
  · cases h
    exact ⟨.attach .., by simp [endedEvents_quiet], .inl (by simp)⟩
  · cases h
    exact .of_links rfl (by simp) (by simp)
  · cases h

/-- The move of the coordinator of a link when the session moves with one of its frames on top. -/
inductive Passes (fault : Option Fault) : Move U X → Coordinator.Move (Hook U) X → Prop
  | tick : Passes fault .tick .tick
  | done : Passes fault .tick (.answer .done)
  | raised {e} (h : fault = some e) : Passes fault .tick (.answer (.raised e))
  | answer {a b} (h : a.coordinator? = some b) : Passes fault (.answer a) (.answer b)

/-- A kernel has been handed a request. -/
@[simp] def Event.handed : Event U X → Bool
  | .executed .. => true
  | .log entry => entry = .sent
  | _ => false

/-- A stage of a frame of a link is a move of its coordinator, with the bodies of hooks of the session above it. -/
structure Linked (s : Session U X) (g : Nat) (f : Coordinator.Frame (Hook U) X) (fault : Option Fault)
    (move : Move U X) (t : Turn U X) : Prop where
  others : ∀ i, i ≠ g → coordinatorOf t.state i = coordinatorOf s i
  length : t.state.links.length = s.links.length
  events : ∀ e ∈ t.events, (∃ e', e = .link g e') ∨ e.handed = true
  frames : ∃ body fs, t.frames = body ++ List.map (.link g) fs ∧ (∀ i f, .link i f ∉ body) ∧
    (body ≠ [] → ∃ h argument, fs = [.awaitHook h argument])
  move : ∃ own : Coordinator.Move (Hook U) X, Passes fault move own ∧ ∀ r es,
    (Coordinator.Machine.mk (coordinatorOf s g) (f :: r) (if f.waits then none else fault) es).step own =
      some ⟨coordinatorOf t.state g, framesOf g t.frames ++ r, t.fault, eventsOf g t.events.reverse ++ es⟩

lemma Linked.quiet {s : Session U X} {g : Nat} {f : Coordinator.Frame (Hook U) X} {fault : Option Fault} {move : Move U X}
    {t : Turn U X} (ht : Linked s g f fault move t) (i : Nat) (e : Coordinator.Event (Hook U) X)
    (he : .link i e ∈ t.events) : i = g := by
  rcases ht.events _ he with ⟨e', h⟩ | h
  · cases h
    rfl
  · cases h

lemma linked_turn {s : Session U X} {g : Nat} (hg : g < s.links.length) {f : Coordinator.Frame (Hook U) X}
    {fault : Option Fault} {move : Move U X} {t : Coordinator.Turn (Hook U) X} {own : Coordinator.Move (Hook U) X}
    (ho : Passes fault move own)
    (h : ∀ r es, (Coordinator.Machine.mk (coordinatorOf s g) (f :: r) (if f.waits then none else fault) es).step own =
      some ⟨t.state, t.frames ++ r, t.fault, t.events.reverse ++ es⟩) : Linked s g f fault move (linkTurn s g t) where
  others := fun i hi => coordinatorOf_other s hi.symm t.state
  length := by simp [linkTurn]
  events := fun e hm => by
    simp only [linkTurn, List.mem_map] at hm
    obtain ⟨e', -, rfl⟩ := hm
    exact .inl ⟨e', rfl⟩
  frames := ⟨[], t.frames, rfl, by simp, by simp⟩
  move := by
    refine ⟨own, ho, fun r es => ?_⟩
    rw [h r es]
    simp only [linkTurn, coordinatorOf_set s hg, framesOf_link, eventsOf_link]

lemma bodyOf_plain (hook : Hook U) (argument : Argument) (i : Nat) (f : Coordinator.Frame (Hook U) X) :
    .link i f ∉ (bodyOf hook argument : List (Frame U X)) := by
  cases hook <;> cases argument <;> simp [bodyOf]

lemma framesOf_plain {g : Nat} {fs : List (Frame U X)} (h : ∀ i f, .link i f ∉ fs) : framesOf g fs = [] := by
  rw [framesOf, List.filterMap_eq_nil_iff]
  intro a ha
  cases a <;> simp_all

lemma eventsOf_plain {g : Nat} {es : List (Event U X)} (h : ∀ i e, .link i e ∉ es) : eventsOf g es = [] := by
  rw [eventsOf, List.filterMap_eq_nil_iff]
  intro a ha
  cases a <;> simp_all

lemma linked_tick {s : Session U X} {g : Nat} {l : Link U X} (hl : s.links[g]? = some l)
    {f : Coordinator.Frame (Hook U) X} {t : Turn U X} (h : tickLink s g l f = some t) : Linked s g f none .tick t := by
  have hg : g < s.links.length := (List.getElem?_eq_some_iff.mp hl).1
  have hc : coordinatorOf s g = l.coordinator := by simp [coordinatorOf, hl]
  unfold tickLink at h
  split at h
  · -- a kernel takes the request at once
    obtain rfl := Option.some.inj h
    refine ⟨fun i _ => coordinatorOf_setKernel .., by simp [transmitTurn], by simp [transmitTurn],
      ⟨[], [], by simp [transmitTurn]⟩, .answer .done, .done, fun r es => ?_⟩
    simp [Coordinator.Machine.step, Coordinator.Machine.answer, Coordinator.Frame.answer, Coordinator.Machine.after,
      Coordinator.Frame.waits, transmitTurn, coordinatorOf_setKernel, eventsOf]
  · cases h
  · -- the body of a hook of the session is over
    obtain rfl := Option.some.inj h
    refine ⟨fun i _ => rfl, rfl, by simp, ⟨[], [], by simp⟩, .answer .done, .done, fun r es => ?_⟩
    simp [Coordinator.Machine.step, Coordinator.Machine.answer, Coordinator.Frame.answer, Coordinator.Machine.after,
      Coordinator.Frame.waits, eventsOf]
  · rename_i _ task moment argument
    obtain rfl := Option.some.inj h
    have hlink : Linked s g (.call task moment argument) none .tick
        (linkTurn s g (Coordinator.callTurn l.coordinator task moment argument)) :=
      linked_turn hg .tick fun r es => by
        simp [Coordinator.Machine.step, Coordinator.Machine.tick, Coordinator.Frame.tick, hc, Coordinator.Machine.after]
    have hbody : ∀ i f', .link i f' ∉
        ((l.coordinator.hookOf task moment).toList.flatMap (bodyOf · argument) : List (Frame U X)) := by
      cases l.coordinator.hookOf task moment <;> simp [bodyOf_plain]
    obtain ⟨own, ho, hstep⟩ := hlink.move
    refine ⟨hlink.others, hlink.length, hlink.events, ⟨_, _, rfl, hbody, fun hne => ?_⟩, own, ho, fun r es => ?_⟩
    · cases hh : l.coordinator.hookOf task moment with
      | none => simp [hh] at hne
      | some hook => exact ⟨hook, argument, by simp [Coordinator.callTurn, hh]⟩
    · rw [hstep r es, framesOf_append, framesOf_plain hbody]
      rfl
  · simp only [Option.map_eq_some_iff] at h
    obtain ⟨ct, hct, rfl⟩ := h
    refine linked_turn hg .tick fun r es => ?_
    simp [Coordinator.Machine.step, Coordinator.Machine.tick, hc, hct, Coordinator.Machine.after]

lemma answer_raised {c : Coordinator (Hook U) X} {f : Coordinator.Frame (Hook U) X} (h : f.waits = true) (e : Fault) :
    f.answer c (.raised e) = some (f.unwind c e) := by
  cases f <;> first | rfl | cases h

lemma linked_unwind {s : Session U X} {g : Nat} (hg : g < s.links.length) (f : Coordinator.Frame (Hook U) X) (e : Fault) :
    Linked s g f (some e) .tick (Frame.unwind s e (.link g f)) := by
  have hl := List.getElem?_eq_getElem hg
  have hc : coordinatorOf s g = s.links[g].coordinator := by simp [coordinatorOf, hl]
  simp only [Frame.unwind, hl]
  cases hw : f.waits with
  | true =>
    refine linked_turn hg (.raised rfl) fun r es => ?_
    simp [Coordinator.Machine.step, Coordinator.Machine.answer, hw, hc, answer_raised hw, Coordinator.Machine.after]
  | false =>
    refine linked_turn hg .tick fun r es => ?_
    simp [Coordinator.Machine.step, Coordinator.Machine.tick, hw, hc, Coordinator.Machine.after]

lemma linked_answer {s : Session U X} {g : Nat} {f : Coordinator.Frame (Hook U) X} {a : Answer} {t : Turn U X}
    (h : Frame.answer s (.link g f) a = some t) : Linked s g f none (.answer a) t := by
  simp only [Frame.answer, Frame.answerLink] at h
  split at h
  · rename_i l a' hl ha
    have hg : g < s.links.length := (List.getElem?_eq_some_iff.mp hl).1
    have hc : coordinatorOf s g = l.coordinator := by simp [coordinatorOf, hl]
    obtain ⟨ct, hct, rfl⟩ := Option.map_eq_some_iff.mp h
    refine linked_turn hg (.answer ha) fun r es => ?_
    simp [Coordinator.Machine.step, Coordinator.Machine.answer, hc, hct, Coordinator.Machine.after]
  · cases h

/-- Every move of a session. -/
inductive Stage : Machine U X → Move U X → Machine U X → Prop
  | plain {s f r fault es move t} (hf : ∀ g f', f ≠ .link g f') (ht : Plain s f t)
      (hm : move = .tick ∨ ∀ g f', .link g f' ∉ t.frames) :
      Stage ⟨s, f :: r, fault, es⟩ move (Machine.after ⟨s, f :: r, fault, es⟩ r t)
  | linked {s g f r fault es move t} (ht : Linked s g f fault move t) :
      Stage ⟨s, .link g f :: r, fault, es⟩ move (Machine.after ⟨s, .link g f :: r, fault, es⟩ r t)
  | started {m operation} (h : m.open? = true) : Stage m (.start operation) (m.push operation)
  | recovered {m} (h : m.suspended = true) : Stage m .recover { m with fault := none }

lemma Stage.links_le {m n : Machine U X} {move : Move U X} (h : Stage m move n) :
    m.state.links.length ≤ n.state.links.length := by
  cases h with
  | plain _ ht => exact ht.kept.le
  | linked ht => exact ht.length.ge
  | started | recovered => exact Nat.le_refl _

lemma plain_answer_frames {s : Session U X} {f : Frame U X} {a : Answer} {t : Turn U X} (hf : ∀ g f', f ≠ .link g f')
    (h : f.answer s a = some t) : ∀ g f', .link g f' ∉ t.frames := by
  unfold Frame.answer at h
  split at h
  · exact absurd rfl (hf _ _)
  · cases h
    simp
  · cases h
    simp only [Frame.callFailed]
    split <;> simp
  · cases h
    simp
  · cases h
    simp
  · cases h
    simp
  · cases h
    simp
  · cases h

/-- A move runs the top frame, takes a fault through it or answers it; else outside code starts something or goes on. -/
inductive Moved : Machine U X → Move U X → Machine U X → Prop
  | ticked {s f r es t} (h : f.tick s = some t) :
      Moved ⟨s, f :: r, none, es⟩ .tick (Machine.after ⟨s, f :: r, none, es⟩ r t)
  | unwound {s f r e es} : Moved ⟨s, f :: r, some e, es⟩ .tick (Machine.after ⟨s, f :: r, some e, es⟩ r (f.unwind s e))
  | answered {s f r es a t} (h : f.answer s a = some t) :
      Moved ⟨s, f :: r, none, es⟩ (.answer a) (Machine.after ⟨s, f :: r, none, es⟩ r t)
  | started {m operation} (h : m.open? = true) : Moved m (.start operation) (m.push operation)
  | recovered {m} (h : m.suspended = true) : Moved m .recover { m with fault := none }

lemma step_moved {m n : Machine U X} {move : Move U X} (h : m.step move = some n) : Moved m move n := by
  obtain ⟨s, stack, fault, es⟩ := m
  cases move with
  | start operation =>
    simp only [Machine.step, Option.ite_none_right_eq_some, Option.some.injEq] at h
    obtain ⟨ho, rfl⟩ := h
    exact .started ho
  | recover =>
    simp only [Machine.step, Bool.and_eq_true, Option.ite_none_right_eq_some, Option.some.injEq] at h
    obtain ⟨⟨hs, -⟩, rfl⟩ := h
    exact .recovered hs
  | tick =>
    cases stack with
    | nil => simp [Machine.step, Machine.tick] at h
    | cons f r =>
      cases fault with
      | none =>
        simp only [Machine.step, Machine.tick, Option.map_eq_some_iff] at h
        obtain ⟨t, ht, rfl⟩ := h
        exact .ticked ht
      | some e =>
        simp only [Machine.step, Machine.tick, Option.some.injEq] at h
        subst h
        exact .unwound
  | answer a =>
    cases stack with
    | nil => simp [Machine.step, Machine.answer] at h
    | cons f r =>
      cases fault with
      | some e => simp [Machine.step, Machine.answer] at h
      | none =>
        simp only [Machine.step, Machine.answer, Option.map_eq_some_iff] at h
        obtain ⟨t, ht, rfl⟩ := h
        exact .answered ht

theorem step_stage {m n : Machine U X} {move : Move U X} (hh : Housed m) (h : m.step move = some n) :
    Stage m move n := by
  cases step_moved h with
  | started ho => exact .started ho
  | recovered hs => exact .recovered hs
  | @ticked s f r es t ht =>
    by_cases hf : ∀ g f', f ≠ .link g f'
    · exact .plain hf (plain_tick hh.inhabited hf ht) (.inl rfl)
    · simp only [ne_eq, not_forall, not_not] at hf
      obtain ⟨g, f', rfl⟩ := hf
      have hl := List.getElem?_eq_getElem (hh.frames g f' (List.mem_cons_self ..))
      simp only [Frame.tick, hl] at ht
      exact .linked (linked_tick hl ht)
  | @unwound s f r e es =>
    by_cases hf : ∀ g f', f ≠ .link g f'
    · exact .plain hf (plain_unwind s e hf) (.inl rfl)
    · simp only [ne_eq, not_forall, not_not] at hf
      obtain ⟨g, f', rfl⟩ := hf
      exact .linked (linked_unwind (hh.frames g f' (List.mem_cons_self ..)) f' e)
  | @answered s f r es a t ht =>
    by_cases hf : ∀ g f', f ≠ .link g f'
    · exact .plain hf (plain_answer hf ht) (.inr (plain_answer_frames hf ht))
    · simp only [ne_eq, not_forall, not_not] at hf
      obtain ⟨g, f', rfl⟩ := hf
      exact .linked (linked_answer ht)

lemma isChain_of_tail {fs : List (Frame U X)} (h : ∀ g f, .link g f ∉ fs.tail) : fs.IsChain Over := by
  cases fs with
  | nil => exact .nil
  | cons a fs =>
    induction fs generalizing a with
    | nil => exact .singleton a
    | cons b fs ih =>
      refine List.isChain_cons_cons.mpr ⟨?_, ih b fun g f hf => h g f (by simp_all)⟩
      rintro g f rfl
      exact absurd (List.mem_cons_self ..) (h g f)

lemma isChain_links (g : Nat) (fs : List (Coordinator.Frame (Hook U) X)) :
    (fs.map (Frame.link (U := U) (X := X) g)).IsChain Over := by
  induction fs with
  | nil => exact .nil
  | cons a fs ih =>
    cases fs with
    | nil => exact .singleton _
    | cons b fs =>
      refine List.isChain_cons_cons.mpr ⟨?_, ih⟩
      rintro i f ⟨⟩
      exact .inl ⟨a, rfl⟩

lemma Plain.tail {s : Session U X} {f : Frame U X} {t : Turn U X} (ht : Plain s f t) (g : Nat)
    (f' : Coordinator.Frame (Hook U) X) : .link g f' ∉ t.frames.tail := by
  rcases ht.frames with hno | ⟨i, -, operation, rest, -, hf, hr, -⟩
  · exact fun hm => hno g f' (List.mem_of_mem_tail hm)
  · rw [hf]
    exact hr g f'

lemma Linked.isChain {s : Session U X} {g : Nat} {f : Coordinator.Frame (Hook U) X} {fault : Option Fault}
    {move : Move U X} {t : Turn U X} (ht : Linked s g f fault move t) : t.frames.IsChain Over := by
  obtain ⟨body, fs, hf, hb, hne⟩ := ht.frames
  rw [hf, List.isChain_append]
  refine ⟨isChain_of_tail fun i f' hm => hb i f' (List.mem_of_mem_tail hm), isChain_links g fs, ?_⟩
  rintro a ha b hb' i f' rfl
  obtain ⟨hook, argument, rfl⟩ := hne (List.ne_nil_of_mem (List.mem_of_getLast? ha))
  obtain ⟨-, rfl⟩ : g = i ∧ Coordinator.Frame.awaitHook hook argument = f' := by simpa using hb'
  exact .inr rfl

lemma Linked.last {s : Session U X} {g : Nat} {f : Coordinator.Frame (Hook U) X} {fault : Option Fault}
    {move : Move U X} {t : Turn U X} (ht : Linked s g f fault move t) {a : Frame U X} (ha : t.frames.getLast? = some a) :
    ∃ f', a = .link g f' := by
  obtain ⟨body, fs, hf, hb, hne⟩ := ht.frames
  have hfs : fs ≠ [] := by
    rintro rfl
    have hbody : body = [] := by
      by_contra hbody
      obtain ⟨_, _, h⟩ := hne hbody
      cases h
    simp [hf, hbody] at ha
  rw [hf, List.getLast?_append_of_ne_nil _ (by simpa using hfs), List.getLast?_map, Option.map_eq_some_iff] at ha
  obtain ⟨f', -, rfl⟩ := ha
  exact ⟨f', rfl⟩

lemma waits_of_stuck {c : Coordinator (Hook U) X} {f : Coordinator.Frame (Hook U) X} (h : f.tick c = none) :
    f.waits = true := by
  cases f <;> simp_all [Coordinator.Frame.tick, Coordinator.Frame.waits]

lemma waits_of_tick {s : Session U X} {g : Nat} (hg : g < s.links.length) {f : Coordinator.Frame (Hook U) X}
    (h : (Frame.link g f).tick s = none) : f.waits = true := by
  have hl := List.getElem?_eq_getElem hg
  simp only [Frame.tick, hl, tickLink] at h
  split at h
  · rfl
  · rfl
  · rfl
  · cases h
  · exact waits_of_stuck (Option.map_eq_none_iff.mp h)

section Stages

variable {s : Session U X} {r : List (Frame U X)} {fault : Option Fault} {es : List (Event U X)} {t : Turn U X}

lemma Housed.plain {f : Frame U X} (hh : Housed ⟨s, f :: r, fault, es⟩) (hf : ∀ g f', f ≠ .link g f') (ht : Plain s f t) :
    Housed (Machine.after ⟨s, f :: r, fault, es⟩ r t) := by
  obtain ⟨hin, hfr, hev, hch⟩ := hh
  refine ⟨hin.trans_le ht.kept.le, fun g f' hm' => ?_, fun g e hm' => ?_, ?_⟩
  · simp only [Machine.after, List.mem_append] at hm'
    rcases hm' with hm' | hm'
    · rcases ht.frames with hno | ⟨i, hi, operation, rest, -, hfs, hr, -⟩
      · exact absurd hm' (hno g f')
      · rw [hfs, List.mem_cons] at hm'
        rcases hm' with hm' | hm'
        · cases hm'
          exact hi.trans_le ht.kept.le
        · exact absurd hm' (hr g f')
    · exact (hfr g f' (List.mem_cons_of_mem _ hm')).trans_le ht.kept.le
  · simp only [Machine.after, List.mem_append, List.mem_reverse] at hm'
    rcases hm' with hm' | hm'
    · exact absurd hm' (ht.quiet g e)
    · exact (hev g e hm').trans_le ht.kept.le
  · refine List.isChain_append.mpr ⟨isChain_of_tail ht.tail, hch.tail, ?_⟩
    rintro a - b hb g f' rfl
    refine .inr (waits_below hch (hf g) f' ?_)
    cases r with
    | nil => cases hb
    | cons b r =>
      obtain rfl : b = .link g f' := by simpa using hb
      simp

lemma Housed.linked {g : Nat} {f : Coordinator.Frame (Hook U) X} {move : Move U X}
    (hh : Housed ⟨s, .link g f :: r, fault, es⟩) (ht : Linked s g f fault move t) :
    Housed (Machine.after ⟨s, .link g f :: r, fault, es⟩ r t) := by
  obtain ⟨hin, hfr, hev, hch⟩ := hh
  have hg := hfr g f (List.mem_cons_self ..)
  refine ⟨ht.length ▸ hin, fun i f' hm' => ?_, fun i e hm' => ?_, ?_⟩
  · simp only [Machine.after, List.mem_append] at hm'
    rcases hm' with hm' | hm'
    · obtain ⟨body, fs, hf, hb, -⟩ := ht.frames
      rw [hf, List.mem_append, List.mem_map] at hm'
      rcases hm' with hm' | ⟨f'', -, hm'⟩
      · exact absurd hm' (hb i f')
      · cases hm'
        exact ht.length ▸ hg
    · exact ht.length ▸ hfr i f' (List.mem_cons_of_mem _ hm')
  · simp only [Machine.after, List.mem_append, List.mem_reverse] at hm'
    rcases hm' with hm' | hm'
    · obtain rfl := ht.quiet i e hm'
      exact ht.length ▸ hg
    · exact ht.length ▸ hev i e hm'
  · refine List.isChain_append.mpr ⟨ht.isChain, hch.tail, ?_⟩
    intro a ha b hb
    obtain ⟨fa, rfl⟩ := ht.last ha
    obtain ⟨r, rfl⟩ := List.head?_eq_some_iff.mp hb
    rintro i f' rfl
    rcases (List.isChain_cons_cons.mp hch).1 i f' rfl with ⟨_, ⟨⟩⟩ | hw
    · exact .inl ⟨fa, rfl⟩
    · exact .inr hw

end Stages

lemma Housed.push {m : Machine U X} {operation : Operation U X} (hh : Housed m) (ho : m.open? = true) :
    Housed (m.push operation) := by
  obtain ⟨hin, hfr, hev, hch⟩ := hh
  have hop : ∀ g f, (operation.frame : Frame U X) ≠ .link g f := by cases operation <;> simp [Operation.frame]
  refine ⟨hin, fun g f hm => ?_, hev, ?_⟩
  · rcases List.mem_cons.mp hm with hm | hm
    · exact absurd hm.symm (hop g f)
    · exact hfr g f hm
  · cases hst : m.stack with
    | nil => simp [Machine.push, hst]
    | cons b r =>
      simp only [Machine.push, hst]
      refine List.isChain_cons_cons.mpr ⟨?_, hst ▸ hch⟩
      rintro g f rfl
      refine .inr (waits_of_tick (s := m.state) (hfr g f (by simp [hst])) ?_)
      unfold Machine.open? at ho
      simp only [hst, Bool.and_eq_true] at ho
      simpa using ho.1

theorem housed_step {m n : Machine U X} {move : Move U X} (h : Stage m move n) (hh : Housed m) : Housed n := by
  cases h with
  | plain hf ht hm => exact hh.plain hf ht
  | linked ht => exact hh.linked ht
  | started ho => exact hh.push ho
  | recovered => exact ⟨hh.inhabited, hh.frames, hh.events, hh.chained⟩

end EvalSession.Session

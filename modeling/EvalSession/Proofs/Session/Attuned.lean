import EvalSession.Proofs.Session.Steady

/-!
# The current worker, its handler and its scheduler

Where outside code has control, the current worker is listened to unless the session is killed, and the scheduler has the
transform of the session. A kill or a new transform takes a few stages during which that is not so; `Poised` lists them, and
nothing else can happen before they are over (`poised_step`).
-/
namespace EvalSession.Session

variable {U X : Type}

/-- What outside code may do: it restarts a session that is not being restarted, and leaves it to the session to say who
listens to its workers and to end them. -/
def Orderly (m : Machine U X) : Move U X → Prop
  | .start (.install _) | .start (.terminate _) => False
  | move => Successive m move

instance (m : Machine U X) (move : Move U X) : Decidable (Orderly m move) :=
  match move with
  | .start (.install _) | .start (.terminate _) => isFalse id
  | .start (.restart ..) => inferInstanceAs (Decidable (∀ f ∈ m.stack, f.restarts = false))
  | .start (.execute ..) | .start (.complete ..) | .start (.inspect ..) | .start (.assign _) | .start (.kill ..)
  | .start (.deliver ..) | .start (.arrive ..) | .start (.transmit ..) | .answer _ | .tick | .recover => isTrue trivial

lemma Orderly.successive {m : Machine U X} {move : Move U X} (h : Orderly m move) : Successive m move := by
  unfold Orderly at h
  split at h
  · exact h.elim
  · exact h.elim
  · exact h

/-- Who listens to the current worker, and what the scheduler transforms code with. -/
structure Attuned (s : Session U X) : Prop where
  heard : handlerOf s s.current = if s.killed then none else some .router
  transform : s.coordinator.transform = s.transform

/-- The stages between which a session is not attuned; nothing of the kind stands below them. -/
inductive Poised (s : Session U X) : List (Frame U X) → Option Fault → Prop
  | steady {stack fault} (ha : Attuned s) (hs : ∀ f ∈ stack, f.turning = false) : Poised s stack fault
  /-- The scheduler is about to get the transform of the session. -/
  | assigning {r} (hh : handlerOf s s.current = if s.killed then none else some .router)
      (hr : ∀ f ∈ r, f.turning = false) : Poised s (.link s.current (.assign s.transform) :: r) none
  | closing {signal ending r} (ha : Attuned s) (hr : ∀ f ∈ r, f.turning = false) :
      Poised s (.link s.current .kill :: .install none :: .terminate signal ending :: r) none
  | detaching {signal ending r} (hk : s.killed = true) (hx : s.coordinator.transform = s.transform)
      (hr : ∀ f ∈ r, f.turning = false) : Poised s (.install none :: .terminate signal ending :: r) none
  | ending {signal ending r} (ha : Attuned s) (hk : s.killed = true) (hr : ∀ f ∈ r, f.turning = false) :
      Poised s (.terminate signal ending :: r) none

section Attuned

variable {s s' : Session U X}

lemma Keeps.same (h : Keeps s s') :
    handlerOf s' s'.current = handlerOf s s.current ∧ s'.killed = s.killed ∧
      s'.coordinator.transform = s.coordinator.transform := by
  have hc := current_congr h.length
  refine ⟨by rw [hc, h.handlers], ?_, ?_⟩
  · rw [Session.killed, coordinator_eq, hc, h.killed]
    rfl
  · rw [coordinator_eq, hc, h.transforms, ← coordinator_eq]

lemma Attuned.keeps (h : Attuned s) (hk : Keeps s s') : Attuned s' := by
  obtain ⟨hhandler, hkilled, htransform⟩ := hk.same
  exact ⟨by rw [hhandler, hkilled, h.heard], by rw [htransform, hk.transform, h.transform]⟩

lemma attuned_attach (s : Session U X) (w : Worker) : Attuned (s.attach w) := by
  constructor <;> simp [killed, coordinator, link?, handlerOf, current, attach]

lemma coordinator_set (hs : 0 < s.links.length) (c : Coordinator (Hook U) X) :
    (s.setCoordinator s.current c).coordinator = c := by
  rw [coordinator_eq, current_congr (setCoordinator_length ..), coordinatorOf_set s (current_lt hs)]

lemma coordinator_setKernel (s : Session U X) (g : Nat) (k : Kernel) : (s.setKernel g k).coordinator = s.coordinator := by
  rw [coordinator_eq, current_congr (setKernel_length ..), coordinatorOf_setKernel, ← coordinator_eq]

lemma coordinator_setHandler (s : Session U X) (g : Nat) (handler : Option Handler) :
    (s.setHandler g handler).coordinator = s.coordinator := by
  rw [coordinator_eq, current_congr (setHandler_length ..), coordinatorOf_setHandler, ← coordinator_eq]

lemma attuned_detached (hk : s.killed = true) (hx : s.coordinator.transform = s.transform) :
    Attuned (s.setHandler s.current none) where
  heard := by
    rw [killed, coordinator_setHandler, ← killed, hk, if_pos rfl, current_congr (setHandler_length ..)]
    exact handlerOf_setHandler ..
  transform := by
    rw [coordinator_setHandler]
    exact hx

end Attuned

section Steps

variable {s : Session U X} {f : Frame U X} {r : List (Frame U X)} {fault : Option Fault} {es : List (Event U X)}
  {t : Turn U X}

lemma Passing.poised (ht : Passing s t) (ha : Attuned s) (hr : ∀ f ∈ r, f.turning = false) :
    Poised t.state (t.frames ++ r) t.fault := by
  refine .steady (ha.keeps ht.keeps) fun f hf => ?_
  rcases List.mem_append.mp hf with hf | hf
  · exact ht.frames f hf
  · exact hr f hf

lemma poised_initiates (hi : f.initiates = true) (h : f.tick s = some t) (ha : Attuned s)
    (hr : ∀ f ∈ r, f.turning = false) : Poised t.state (t.frames ++ r) t.fault := by
  cases f with
  | kill signal notify =>
    cases h
    exact .closing ha hr
  | restart signal notify =>
    cases h
    split
    · exact .closing ha hr
    · exact .steady ha hr
  | assign x =>
    cases h
    exact .assigning ha.heard hr
  | _ => cases hi

lemma poised_assigned (hs : 0 < s.links.length) (hh : handlerOf s s.current = if s.killed then none else some .router)
    (hr : ∀ f ∈ r, f.turning = false) (h : (Frame.link s.current (.assign s.transform)).tick s = some t) :
    Poised t.state (t.frames ++ r) t.fault := by
  obtain ⟨l, hl⟩ : ∃ l, s.links[s.current]? = some l := ⟨_, List.getElem?_eq_getElem (current_lt hs)⟩
  have hc : s.coordinator = l.coordinator := by simp [coordinator_eq, coordinatorOf, hl]
  simp only [Frame.tick, hl] at h
  obtain rfl := Option.some.inj h
  have hset := coordinator_set hs { l.coordinator with transform := s.transform }
  have hkilled : (s.setCoordinator s.current { l.coordinator with transform := s.transform }).killed = s.killed := by
    rw [killed, hset, killed, hc]
  refine .steady ⟨?_, by simp only [linkTurn, hset]; rfl⟩ hr
  simp only [linkTurn, hkilled, handlerOf_setCoordinator, ← hh]
  exact congrArg _ (current_congr (setCoordinator_length ..))

lemma poised_struck (hs : 0 < s.links.length) (ha : Attuned s) {signal : String} {ending : Ending}
    (hr : ∀ f ∈ r, f.turning = false) (h : (Frame.link s.current .kill).tick s = some t) :
    Poised t.state (t.frames ++ .install none :: .terminate signal ending :: r) t.fault := by
  rw [tick_kill hs] at h
  obtain rfl := Option.some.inj h
  have hc : s.struck.coordinator = { s.coordinator with killed := true, pending := [] } := coordinator_set hs _
  exact .detaching (by rw [killed, hc]) (by rw [hc]; exact ha.transform) hr

lemma poised_detached (hk : s.killed = true) (hx : s.coordinator.transform = s.transform) {signal : String}
    {ending : Ending} (hr : ∀ f ∈ r, f.turning = false) :
    Poised (s.setHandler s.current none) (.terminate signal ending :: r) none :=
  .ending (attuned_detached hk hx) (by rw [killed, coordinator_setHandler, ← killed, hk]) hr

/-- The worker is told to end; a kernel loses the handler that it has lost already. -/
lemma poised_terminate (ha : Attuned s) (hk : s.killed = true) (signal : String) (ending : Ending)
    (hr : ∀ f ∈ r, f.turning = false) :
    Poised (terminateTurn s signal ending).state ((terminateTurn s signal ending).frames ++ r)
      (terminateTurn s signal ending).fault := by
  unfold terminateTurn
  split
  · exact .steady ha hr
  split
  · exact .steady ha (by simpa [Frame.turning] using hr)
  · rename_i k _
    have hkilled : (s.setKernel s.current (k.terminate signal).kernel).killed = true := by
      rw [killed, coordinator_setKernel, ← killed, hk]
    have hkernel : Attuned (s.setKernel s.current (k.terminate signal).kernel) := by
      refine ⟨?_, by rw [coordinator_setKernel]; exact ha.transform⟩
      rw [current_congr (setKernel_length ..), handlerOf_setKernel, hkilled, ha.heard, hk]
    have hgone : ∀ gone : Bool, Attuned (if gone then (s.setKernel s.current (k.terminate signal).kernel).setHandler
        (s.setKernel s.current (k.terminate signal).kernel).current none
        else s.setKernel s.current (k.terminate signal).kernel) := by
      intro gone
      cases gone
      · exact hkernel
      · exact attuned_detached hkilled hkernel.transform
    simp only
    split
    · exact .steady (hgone _) (by simpa [Frame.turning] using hr)
    · exact .steady (hgone _) hr

lemma busy_of_turning (hf : f.turning = true) (s : Session U X) : (f.tick s).isNone = false := by
  cases f with
  | link g f =>
    cases f with
    | kill | assign =>
      simp only [Frame.tick]
      split <;> rfl
    | _ => cases hf
  | install | terminate => rfl
  | _ => cases hf

lemma answer_turning (hf : f.turning = true) (s : Session U X) (a : Answer) : f.answer s a = none := by
  cases f with
  | link g f =>
    simp only [Frame.answer, Frame.answerLink]
    split
    · rename_i b _ _
      cases f <;> cases b <;> first | rfl | cases hf
    · rfl
  | install | terminate => cases a <;> rfl
  | _ => cases hf

lemma Poised.waiting (h : Poised s (f :: r) fault) (hf : (f.tick s).isNone = true) :
    Attuned s ∧ ∀ f' ∈ f :: r, f'.turning = false := by
  have hbusy : f.turning = true → False := fun ht => by simp [busy_of_turning ht s] at hf
  cases h with
  | steady ha hs => exact ⟨ha, hs⟩
  | assigning | closing | detaching | ending => exact (hbusy rfl).elim

lemma poised_tick (hs : 0 < s.links.length) (hp : Poised s (f :: r) none) (h : f.tick s = some t) :
    Poised t.state (t.frames ++ r) t.fault := by
  cases hp with
  | steady ha hturning =>
    have hf := hturning f (List.mem_cons_self ..)
    have hr := fun f hf => hturning f (List.mem_cons_of_mem _ hf)
    cases hi : f.initiates with
    | false => exact (passing_tick hf hi h).poised ha hr
    | true => exact poised_initiates hi h ha hr
  | assigning hh hr => exact poised_assigned hs hh hr h
  | closing ha hr => exact poised_struck hs ha hr h
  | detaching hk hx hr =>
    cases h
    exact poised_detached hk hx hr
  | ending ha hk hr =>
    cases h
    exact poised_terminate ha hk _ _ hr

lemma poised_answer {a : Answer} (hp : Poised s (f :: r) none) (h : f.answer s a = some t) :
    Poised t.state (t.frames ++ r) t.fault := by
  have hnone : f.turning = true → False := fun ht => by simp [answer_turning ht] at h
  cases hp with
  | steady ha hturning =>
    have hf := hturning f (List.mem_cons_self ..)
    have hr := fun f hf => hturning f (List.mem_cons_of_mem _ hf)
    rcases passing_answer hf h with ⟨ht, -⟩ | ⟨notify, status, w, -, -, hstate, hframes⟩
    · exact ht.poised ha hr
    · rw [hstate, hframes]
      exact .steady (attuned_attach s w) hr
  | assigning | closing | detaching | ending => exact (hnone rfl).elim

lemma Poised.faulty {stack : List (Frame U X)} {e : Fault} (hp : Poised s stack (some e)) :
    Attuned s ∧ ∀ f ∈ stack, f.turning = false := by
  cases hp with
  | steady ha hs => exact ⟨ha, hs⟩

lemma poised_unwind {e : Fault} (hp : Poised s (f :: r) (some e)) :
    Poised (f.unwind s e).state ((f.unwind s e).frames ++ r) (f.unwind s e).fault := by
  obtain ⟨ha, hturning⟩ := hp.faulty
  exact (passing_unwind (hturning f (List.mem_cons_self ..)) e).poised ha
    fun f hf => hturning f (List.mem_cons_of_mem _ hf)

lemma turning_frame {m : Machine U X} {operation : Operation U X} (h : Orderly m (.start operation)) :
    (operation.frame : Frame U X).turning = false := by
  cases operation <;> first | rfl | exact h.elim

end Steps

/-- Where outside code has control, or gets a fault, the session is attuned. -/
lemma Poised.suspended {m : Machine U X} (hp : Poised m.state m.stack m.fault) (h : m.suspended = true) :
    Attuned m.state ∧ ∀ f ∈ m.stack, f.turning = false := by
  obtain ⟨s, stack, fault, es⟩ := m
  cases stack with
  | nil =>
    cases hp with
    | steady ha hs => exact ⟨ha, hs⟩
  | cons f r => exact hp.waiting h

theorem poised_step {m n : Machine U X} {move : Move U X} (hs : 0 < m.state.links.length) (ha : Orderly m move)
    (h : m.step move = some n) (hp : Poised m.state m.stack m.fault) : Poised n.state n.stack n.fault := by
  cases step_moved h with
  | ticked ht => exact poised_tick hs hp ht
  | unwound => exact poised_unwind hp
  | answered ht => exact poised_answer hp ht
  | @started _ operation ho =>
    have hsuspended : m.suspended = true := by
      unfold Machine.open? at ho
      unfold Machine.suspended
      split at ho <;> simp_all
    obtain ⟨hattuned, hturning⟩ := hp.suspended hsuspended
    exact .steady hattuned (List.forall_mem_cons.mpr ⟨turning_frame ha, hturning⟩)
  | recovered hsuspended =>
    obtain ⟨hattuned, hturning⟩ := hp.suspended hsuspended
    exact .steady hattuned hturning

end EvalSession.Session

import EvalSession.Proofs.Session.Detached

/-!
# Stages that turn nothing

Few frames change who listens to a worker, whether tasks are taken in, or the transform: those of a kill, of a restart and
of a new transform. Every other stage leaves all that as it is (`passing_tick`, `passing_unwind`, `passing_answer`), and all
that happens to the workers is that a kernel goes on.
-/
namespace EvalSession

variable {H U X : Type}

namespace Coordinator

/-- Frames that end the taking in of tasks or set the transform. -/
def Frame.turning : Frame H X → Bool
  | .kill | .assign _ => true
  | _ => false

lemma steady_stage {c : Coordinator H X} {f : Frame H X} {fault : Option Fault} {es : List (Event H X)} {move : Move H X}
    {n : Machine H X} (h : Stage ⟨c, [f], fault, es⟩ move n) (hf : f.turning = false)
    (hm : ∀ operation, move ≠ .start operation) :
    n.state.killed = c.killed ∧ n.state.transform = c.transform ∧ ∀ f' ∈ n.stack, f'.turning = false := by
  cases h with
  | started => exact absurd rfl (hm _)
  | killed | assigned => cases hf
  | recovered => simpa using hf
  | answered =>
    unfold closing
    split <;> simp [Frame.turning]
  | _ => simp_all [Frame.turning, openContext]

end Coordinator

namespace Session

/-- A worker as it stands later: a kernel that does not listen any more does not start again. -/
inductive Ages : Worker → Worker → Prop
  | remote (n : Nat) : Ages (.remote n) (.remote n)
  | kernel {k k' : Kernel} (h : k.listening = false → k'.listening = false) : Ages (.kernel k) (.kernel k')

/-- What a stage that turns nothing leaves as it is. -/
structure Keeps (s s' : Session U X) : Prop where
  transform : s'.transform = s.transform
  length : s'.links.length = s.links.length
  workers : ∀ g, Option.Rel Ages (workerOf s g) (workerOf s' g)
  handlers : ∀ g, handlerOf s' g = handlerOf s g
  killed : ∀ g, (coordinatorOf s' g).killed = (coordinatorOf s g).killed
  transforms : ∀ g, (coordinatorOf s' g).transform = (coordinatorOf s g).transform

lemma Ages.refl (w : Worker) : Ages w w := by
  cases w with
  | remote n => exact .remote n
  | kernel k => exact .kernel id

lemma ages_rfl (w : Option Worker) : Option.Rel Ages w w := by
  cases w with
  | none => exact .none
  | some w => exact .some (.refl w)

section Keeps

variable {s s' : Session U X}

lemma Keeps.of_links (hx : s'.transform = s.transform) (hl : s'.links = s.links) : Keeps s s' where
  transform := hx
  length := by rw [hl]
  workers := fun g => by
    rw [workerOf, workerOf, hl]
    exact ages_rfl _
  handlers := fun g => by rw [handlerOf, hl, handlerOf]
  killed := fun g => by rw [coordinatorOf, hl, coordinatorOf]
  transforms := fun g => by rw [coordinatorOf, hl, coordinatorOf]

lemma Keeps.refl (s : Session U X) : Keeps s s := .of_links rfl rfl

lemma ages_setKernel {g : Nat} {k k' : Kernel} (hw : workerOf s g = some (.kernel k))
    (hk : k.listening = false → k'.listening = false) (i : Nat) :
    Option.Rel Ages (workerOf s i) (workerOf (s.setKernel g k') i) := by
  rw [workerOf_setKernel]
  split
  · rename_i hi
    subst hi
    rw [hw]
    exact .some (.kernel hk)
  · exact ages_rfl _

lemma Keeps.setKernel {g : Nat} {k k' : Kernel} (hw : workerOf s g = some (.kernel k))
    (hk : k.listening = false → k'.listening = false) : Keeps s (s.setKernel g k') where
  transform := rfl
  length := setKernel_length ..
  workers := ages_setKernel hw hk
  handlers := fun _ => handlerOf_setKernel ..
  killed := fun i => by rw [coordinatorOf_setKernel]
  transforms := fun i => by rw [coordinatorOf_setKernel]

end Keeps

/-- Frames that change who listens, whether tasks are taken in, or the transform. -/
def Frame.turning : Frame U X → Bool
  | .link _ f => f.turning
  | .install _ | .terminate .. => true
  | _ => false

def Frame.initiates : Frame U X → Bool
  | .kill .. | .restart .. | .assign _ => true
  | _ => false

/-- A stage that turns nothing, and leads to no frame that does. -/
structure Passing (s : Session U X) (t : Turn U X) : Prop where
  keeps : Keeps s t.state
  frames : ∀ f ∈ t.frames, f.turning = false

section Stages

variable {s : Session U X} {f : Frame U X} {t : Turn U X}

lemma Passing.of_links (hx : t.state.transform = s.transform) (hl : t.state.links = s.links)
    (hf : ∀ f ∈ t.frames, f.turning = false) : Passing s t :=
  ⟨.of_links hx hl, hf⟩

lemma Passing.of_done (hs : t.state = s) (hf : t.frames = []) : Passing s t :=
  ⟨hs ▸ .refl s, by simp [hf]⟩

lemma passing_call (s : Session U X) (contained : Bool) (moment : Moment) (hook : Option U) (argument : Argument) :
    Passing s (callTurn s contained moment hook argument) := by
  cases hook <;> exact .of_links rfl rfl (by simp [callTurn, Frame.turning])

lemma passing_body (s : Session U X) (hook : Hook U) (payload : Object) : Passing s (bodyTurn s hook payload) := by
  cases hook with
  | user => exact .of_done rfl rfl
  | inspectionError => exact .of_links rfl rfl (by simp [bodyTurn, Frame.turning])
  | names q success =>
    simp only [bodyTurn, namesTurn]
    split
    · exact .of_done rfl rfl
    · exact passing_call ..
  | inspection q hooks =>
    simp only [bodyTurn, inspectionTurn]
    split
    · exact .of_done rfl rfl
    · split <;> exact .of_links rfl rfl (by simp [submit, Frame.turning, Coordinator.Frame.turning])
  | scopeInspection report q hooks =>
    simp only [bodyTurn, scopeInspectionTurn]
    split
    · exact .of_done rfl rfl
    · exact .of_links rfl rfl (by simp [Frame.turning])

lemma link_beside {g : Nat} {l : Link U X} {f : Coordinator.Frame (Hook U) X} (hl : s.links[g]? = some l)
    (h : tickLink s g l f = some t) :
    t.state.transform = s.transform ∧ (∀ i, Option.Rel Ages (workerOf s i) (workerOf t.state i)) ∧
      (∀ i, handlerOf t.state i = handlerOf s i) ∧
      ∀ f' ∈ t.frames, (∃ hook payload, f' = .body hook payload) ∨ ∃ f'', f' = .link g f'' := by
  have hset : ∀ c : Coordinator (Hook U) X, ∀ i, Option.Rel Ages (workerOf s i) (workerOf (s.setCoordinator g c) i) :=
    fun c i => by
      rw [workerOf_setCoordinator]
      exact ages_rfl _
  unfold tickLink at h
  split at h
  · rename_i r k hw
    cases h
    have hworker : workerOf s g = some (.kernel k) := by rw [workerOf, hl, Option.map_some, hw]
    exact ⟨rfl, ages_setKernel hworker id, fun i => handlerOf_setKernel .., by simp [transmitTurn]⟩
  · cases h
  · cases h
    exact ⟨rfl, fun i => ages_rfl _, fun i => rfl, by simp⟩
  · cases h
    refine ⟨rfl, hset _, fun i => handlerOf_setCoordinator .., fun f' hf' => ?_⟩
    rcases List.mem_append.mp hf' with hf' | hf'
    · obtain ⟨hook, -, hf'⟩ := List.mem_flatMap.mp hf'
      exact .inl (eq_body hf')
    · obtain ⟨f'', -, rfl⟩ := List.mem_map.mp hf'
      exact .inr ⟨f'', rfl⟩
  · obtain ⟨turn, -, rfl⟩ := Option.map_eq_some_iff.mp h
    refine ⟨rfl, hset _, fun i => handlerOf_setCoordinator .., fun f' hf' => ?_⟩
    obtain ⟨f'', -, rfl⟩ := List.mem_map.mp hf'
    exact .inr ⟨f'', rfl⟩

lemma Linked.steady {g : Nat} {f : Coordinator.Frame (Hook U) X} {fault : Option Fault} {move : Move U X}
    (h : Linked s g f fault move t) (hf : f.turning = false) :
    (∀ i, (coordinatorOf t.state i).killed = (coordinatorOf s i).killed) ∧
      (∀ i, (coordinatorOf t.state i).transform = (coordinatorOf s i).transform) ∧
      ∀ f', .link g f' ∈ t.frames → f'.turning = false := by
  obtain ⟨own, hown, hstep⟩ := h.move
  have hmove : ∀ operation, own ≠ .start operation := by
    rintro operation rfl
    cases hown
  obtain ⟨hkilled, htransform, hframes⟩ := Coordinator.steady_stage (Coordinator.step_stage (hstep [] [])) hf hmove
  refine ⟨fun i => ?_, fun i => ?_, fun f' hf' => hframes f' ?_⟩
  · by_cases hi : i = g
    · exact hi ▸ hkilled
    · rw [h.others i hi]
  · by_cases hi : i = g
    · exact hi ▸ htransform
    · rw [h.others i hi]
  · rw [List.append_nil]
    exact List.mem_filterMap.mpr ⟨_, hf', by simp⟩

lemma passing_link {g : Nat} {f : Coordinator.Frame (Hook U) X} (hf : f.turning = false)
    (h : (Frame.link g f).tick s = some t) : Passing s t := by
  simp only [Frame.tick] at h
  split at h
  · cases h
    exact .of_done rfl rfl
  rename_i l hl
  obtain ⟨htransform, hworkers, hhandlers, hshape⟩ := link_beside hl h
  have hlinked := linked_tick hl h
  obtain ⟨hkilled, htransforms, hframes⟩ := hlinked.steady hf
  refine ⟨⟨htransform, hlinked.length, hworkers, hhandlers, hkilled, htransforms⟩, fun f' hf' => ?_⟩
  rcases hshape f' hf' with ⟨hook, payload, rfl⟩ | ⟨f'', rfl⟩
  · rfl
  · exact hframes f'' hf'

lemma passing_turn {g : Nat} {c : Coordinator.Turn (Hook U) X} {f : Coordinator.Frame (Hook U) X} {fault : Option Fault}
    {move : Move U X} (hf : f.turning = false) (h : Linked s g f fault move (linkTurn s g c)) :
    Passing s (linkTurn s g c) := by
  obtain ⟨hkilled, htransforms, hframes⟩ := h.steady hf
  refine ⟨⟨rfl, h.length, fun i => ?_, fun i => handlerOf_setCoordinator .., hkilled, htransforms⟩, fun f' hf' => ?_⟩
  · rw [linkTurn, workerOf_setCoordinator]
    exact ages_rfl _
  · obtain ⟨f'', -, rfl⟩ := List.mem_map.mp hf'
    exact hframes f'' hf'

theorem passing_tick (hf : f.turning = false) (hi : f.initiates = false) (h : f.tick s = some t) : Passing s t := by
  cases f with
  | link g f => exact passing_link hf h
  | awaitCall | awaitTermination | awaitWorker => cases h
  | assign | kill | restart => cases hi
  | install | terminate => cases hf
  | execute code hooks =>
    cases h
    exact .of_links rfl rfl (by simp [executeTurn, submit, Frame.turning, Coordinator.Frame.turning])
  | complete code cursor hooks =>
    cases h
    unfold completeTurn
    split <;> exact .of_links rfl rfl (by simp [submit, Frame.turning, Coordinator.Frame.turning])
  | inspect code cursor hooks =>
    cases h
    unfold inspectTurn
    split <;> exact .of_links rfl rfl (by simp [submit, Frame.turning, Coordinator.Frame.turning])
  | respond hooks result =>
    cases h
    unfold respondTurn
    split <;> exact .of_links rfl rfl (by simp [Frame.turning])
  | call moment hook argument =>
    cases h
    exact passing_call ..
  | body hook payload =>
    cases h
    exact passing_body ..
  | deliver n message =>
    cases h
    unfold deliverTurn
    split
    · exact .of_done rfl rfl
    · split <;> exact .of_links rfl rfl (by simp [Frame.turning, Coordinator.Frame.turning])
  | arrive channel message =>
    cases h
    unfold arriveTurn
    split
    · exact .of_done rfl rfl
    split
    · exact .of_done rfl rfl
    split
    · exact .of_done rfl rfl
    · rename_i k hk hlistening _ m
      have hkeeps : Keeps s (s.setKernel s.current (k.receive channel m).kernel) :=
        .setKernel (workerOf_current hk) fun hdead => by simp [hdead] at hlistening
      refine ⟨hkeeps, ?_⟩
      simp only
      split <;> simp [Frame.turning]
  | emit g message =>
    cases h
    unfold emitTurn
    split <;> exact .of_links rfl rfl (by simp [Frame.turning, Coordinator.Frame.turning])
  | guarded =>
    cases h
    exact .of_done rfl rfl
  | transmit fields messageId =>
    cases h
    split
    · exact .of_done rfl rfl
    · exact .of_done rfl rfl
    · rename_i k r hk _
      exact ⟨.setKernel (workerOf_current hk) id, by simp [transmitTurn]⟩
  | finish ending status =>
    cases h
    cases ending <;> exact .of_links rfl rfl (by simp [finishTurn, Frame.turning])

theorem passing_unwind (hf : f.turning = false) (e : Fault) : Passing s (f.unwind s e) := by
  cases f with
  | link g f =>
    cases hl : s.links[g]? with
    | none =>
      simp only [Frame.unwind, hl]
      exact .of_done rfl rfl
    | some l =>
      have hlinked := linked_unwind (List.getElem?_eq_some_iff.mp hl).1 f e
      simp only [Frame.unwind, hl] at hlinked ⊢
      exact passing_turn hf hlinked
  | awaitCall =>
    simp only [Frame.unwind, Frame.callFailed]
    split <;> exact .of_done rfl rfl
  | guarded =>
    simp only [Frame.unwind]
    split <;> exact .of_done rfl rfl
  | _ => exact .of_done rfl rfl

theorem passing_answer {a : Answer} (hf : f.turning = false) (h : f.answer s a = some t) :
    Passing s t ∧ (∀ w, a ≠ .worker w) ∨
      ∃ notify status w, f = .awaitWorker notify status ∧ a = .worker w ∧ t.state = s.attach w ∧ t.frames = [] := by
  unfold Frame.answer at h
  split at h
  · rename_i g f a
    refine .inl ?_
    have hlinked := linked_answer h
    unfold Frame.answerLink at h
    split at h
    · rename_i b _ hb
      obtain ⟨turn, -, rfl⟩ := Option.map_eq_some_iff.mp h
      refine ⟨passing_turn hf hlinked, ?_⟩
      rintro w rfl
      cases hb
    · cases h
  · cases h
    exact .inl ⟨.of_done rfl rfl, by simp⟩
  · cases h
    refine .inl ⟨?_, by simp⟩
    simp only [Frame.callFailed]
    split <;> exact .of_done rfl rfl
  · cases h
    exact .inl ⟨.of_links rfl rfl (by simp [Frame.turning]), by simp⟩
  · cases h
    exact .inl ⟨.of_done rfl rfl, by simp⟩
  · cases h
    exact .inr ⟨_, _, _, rfl, rfl, rfl, rfl⟩
  · cases h
    exact .inl ⟨.of_done rfl rfl, by simp⟩
  · cases h

end Stages

end Session

end EvalSession

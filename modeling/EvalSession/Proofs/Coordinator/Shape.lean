import EvalSession.Proofs.Coordinator.Run

/-!
# The stack of a coordinator

Which frame may stand on which. An operation stands on outside code; the frames of a dispatch stand right on the drain
loop; what a reply has left to do stands in the order in which it was put there. There is one drain loop at most, so
there is one dispatch at most.
-/
namespace EvalSession.Coordinator

variable {H X : Type}

namespace Frame

def isLoop : Frame H X → Bool
  | .drainLoop => true
  | _ => false

def dispatches : Frame H X → Bool
  | .dispatch _ | .prepare .. | .awaitTransform .. | .send .. | .awaitSend _ | .loop _ => true
  | _ => false

def resumes : Frame H X → Bool
  | .prepare .. | .drainLoop | .close .. | .advance _ => true
  | f => f.waits

/-- Nothing, or outside code that waits to be resumed. -/
def Outside : Option (Frame H X) → Prop
  | none => True
  | some f => f.waits = true

/-- What a called hook returns to. -/
def AfterHook (below : Option (Frame H X)) : Prop :=
  Outside below ∨ below = some .drainLoop ∨ (∃ t id, below = some (.prepare t id)) ∨
    (∃ id t, below = some (.close id t)) ∨ ∃ t, below = some (.advance t)

def RestsOn (below : Option (Frame H X)) : Frame H X → Prop
  | .submit _ | .kill | .assign _ | .drainLoop => Outside below
  | .route _ | .drain | .advance _ => Outside below ∨ below = some .drainLoop
  | .dispatch _ | .prepare .. | .awaitTransform .. | .send .. | .awaitSend _ | .loop _ => below = some .drainLoop
  | .close _ t => below = some (.advance t)
  | .call .. | .awaitHook .. => AfterHook below

end Frame

def Seated : List (Frame H X) → Prop
  | [] => True
  | f :: rest => f.RestsOn rest.head? ∧ Seated rest

structure Shape (m : Machine H X) : Prop where
  seated : Seated m.stack
  loops : m.stack.countP Frame.isLoop = m.state.draining.toNat
  /-- A fault only reaches frames that had others above them. -/
  settled : m.fault ≠ none → ∀ f, m.stack.head? = some f → f.resumes = true

lemma Frame.RestsOn.resumes {f g : Frame H X} (h : f.RestsOn (some g)) : g.resumes = true := by
  cases f <;> simp only [Frame.RestsOn, Frame.Outside, Frame.AfterHook, Option.some.injEq] at h <;>
    cases g <;> simp_all [Frame.resumes, Frame.waits]

lemma Frame.RestsOn.loop {f : Frame H X} {below : Option (Frame H X)} (h : f.RestsOn below)
    (hd : f.dispatches = true) : below = some .drainLoop := by
  cases f <;> simp_all [Frame.dispatches, Frame.RestsOn]

lemma Seated.resumes {f : Frame H X} {rest : List (Frame H X)} (h : Seated (f :: rest)) :
    ∀ g ∈ rest, g.resumes = true := by
  induction rest generalizing f with
  | nil => simp
  | cons g rest ih =>
    intro g' hg'
    rcases List.mem_cons.mp hg' with rfl | hg'
    · exact Frame.RestsOn.resumes h.1
    · exact ih h.2 g' hg'

lemma Seated.loop_of_dispatches {stack : List (Frame H X)} (h : Seated stack) {f : Frame H X} (hf : f ∈ stack)
    (hd : f.dispatches = true) : .drainLoop ∈ stack := by
  induction stack with
  | nil => simp at hf
  | cons g rest ih =>
    rcases List.mem_cons.mp hf with rfl | hf
    · have hr := h.1
      have : rest.head? = some .drainLoop := by
        cases f <;> simp_all [Frame.dispatches, Frame.RestsOn]
      exact List.mem_cons_of_mem _ (List.mem_of_mem_head? this)
    · exact List.mem_cons_of_mem _ (ih h.2 hf)

lemma Leaves.not_loop {c : Coordinator H X} {fault fault' : Option Fault} {move : Move H X} {f : Frame H X}
    {quiet : List (Event H X)} (h : Leaves c fault move f fault' quiet) : f.isLoop = false := by
  cases h with
  | unwound _ hl => cases ‹Frame H X› <;> simp_all [Frame.isLoop]
  | _ => rfl

lemma Machine.outside_of_open {m : Machine H X} (h : m.open? = true) : Frame.Outside m.stack.head? := by
  unfold Machine.open? at h
  split at h <;> simp_all [Frame.Outside]

lemma Operation.restsOn {below : Option (Frame H X)} (h : Frame.Outside below) (operation : Operation H X) :
    operation.frame.RestsOn below := by
  cases operation <;> simp [Operation.frame, Frame.RestsOn, h]

lemma Seated.answered {v : Value} {rest : List (Frame H X)} (h : Seated (.route v :: rest)) (nt : Notice) (t : Nat) :
    Seated (.call t nt.moment nt.argument :: (closing nt t ++ .advance t :: rest)) := by
  unfold closing
  split <;> simp_all [Seated, Frame.RestsOn, Frame.AfterHook]

lemma Seated.head_resumes {f : Frame H X} {rest : List (Frame H X)} (h : Seated (f :: rest)) :
    ∀ g, rest.head? = some g → g.resumes = true :=
  fun _ hg => h.resumes _ (List.mem_of_mem_head? hg)

theorem shape_step {m n : Machine H X} {move : Move H X} (h : Stage m move n) (hs : Shape m) : Shape n := by
  obtain ⟨hs, hl, hf⟩ := hs
  cases h with
  | left h => exact ⟨hs.2, by simpa [h.not_loop] using hl, fun _ => hs.head_resumes⟩
  | started h =>
    rename_i operation
    refine ⟨⟨operation.restsOn (Machine.outside_of_open h), hs⟩, ?_, by simp [Machine.push]⟩
    cases operation <;> simpa [Machine.push, Operation.frame, Frame.isLoop] using hl
  | recovered => exact ⟨hs, hl, by simp⟩
  | answered hn ht hr =>
    rename_i nt t r _ _
    refine ⟨hs.answered nt t, ?_, by simp⟩
    unfold closing
    split <;> simpa [Frame.isLoop] using hl
  | draining hd =>
    rename_i r _
    simp only [hd, Bool.toNat_false, List.countP_eq_zero] at hl
    have hn : r.head? ≠ some .drainLoop := by
      intro hr
      exact hl .drainLoop (List.mem_cons_of_mem _ (List.mem_of_mem_head? hr)) rfl
    refine ⟨⟨hs.1.resolve_right hn, hs.2⟩, ?_, by simp⟩
    have hr : List.countP Frame.isLoop r = 0 := List.countP_eq_zero.mpr fun f hf => hl f (List.mem_cons_of_mem _ hf)
    simp [List.countP_cons, Frame.isLoop, hr]
  | drained | broken =>
    refine ⟨hs.2, ?_, fun _ => hs.head_resumes⟩
    have := Bool.toNat_le (c := ‹Coordinator H X›.draining)
    simp only [List.countP_cons, Frame.isLoop, if_true] at hl
    simp only [Bool.toNat_false]
    omega
  | output =>
    refine ⟨⟨?_, hs.2⟩, by simpa [Frame.isLoop] using hl, by simp⟩
    simp only [Seated, Frame.RestsOn, Frame.AfterHook] at hs ⊢
    tauto
  | _ =>
    refine ⟨?_, by simpa [Frame.isLoop, openContext, setCode] using hl, by simp⟩
    simp_all [Seated, Frame.RestsOn, Frame.AfterHook, Frame.Outside]

/-- Below a drain loop there is neither another one nor a frame of a dispatch. -/
lemma Shape.calm_below_loop {m : Machine H X} (h : Shape m) {rest : List (Frame H X)}
    (hm : m.stack = .drainLoop :: rest) : ∀ f ∈ rest, f.dispatches = false ∧ f.isLoop = false := by
  obtain ⟨hs, hl, -⟩ := h
  rw [hm] at hs hl
  have hb := Bool.toNat_le (c := m.state.draining)
  simp only [List.countP_cons, Frame.isLoop, if_true] at hl
  have hr : ∀ f ∈ rest, f.isLoop = false := by
    have : List.countP Frame.isLoop rest = 0 := by omega
    simpa [List.countP_eq_zero] using this
  intro f hf
  refine ⟨?_, hr f hf⟩
  by_contra hd
  have := hr _ (hs.2.loop_of_dispatches hf (by simpa using hd))
  simp [Frame.isLoop] at this

/-- Below a frame of a dispatch there is no other one. -/
lemma Shape.calm_below {m : Machine H X} (h : Shape m) {f : Frame H X} {rest : List (Frame H X)}
    (hm : m.stack = f :: rest) (hf : f.dispatches = true) : ∀ g ∈ rest, g.dispatches = false := by
  have hs := h.seated
  rw [hm] at hs
  have hr : rest.head? = some .drainLoop := by
    have := hs.1
    cases f <;> simp_all [Frame.dispatches, Frame.RestsOn]
  obtain ⟨below, rfl⟩ := List.head?_eq_some_iff.mp hr
  have hc : Shape (H := H) (X := X) { m with stack := .drainLoop :: below } := by
    have hl := h.loops
    rw [hm] at hl
    exact ⟨hs.2, by cases f <;> simp_all [Frame.dispatches, Frame.isLoop], by simp [Frame.resumes]⟩
  intro g hg
  rcases List.mem_cons.mp hg with rfl | hg
  · rfl
  · exact (hc.calm_below_loop rfl g hg).1

end EvalSession.Coordinator

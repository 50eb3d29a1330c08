import Mathlib

/-!
# Runs of a step function

`Follows` restricts the moves of a run to those that are allowed where they are made; `run_invariant` carries an
invariant through a restricted run, and `history_invariant` one that speaks of the moves as well.
-/
namespace EvalSession

variable {σ μ : Type}

/-- Every move is allowed where it is made. -/
def Follows (step : σ → μ → Option σ) (allowed : σ → μ → Prop) (m : σ) : List μ → Prop
  | [] => True
  | move :: rest => allowed m move ∧ ∀ n, step m move = some n → Follows step allowed n rest

instance Follows.decidable {step : σ → μ → Option σ} {allowed : σ → μ → Prop} [∀ m move, Decidable (allowed m move)] :
    (m : σ) → (moves : List μ) → Decidable (Follows step allowed m moves)
  | _, [] => isTrue trivial
  | m, move :: rest =>
    match h : step m move with
    | none => decidable_of_iff (allowed m move) (by simp [Follows, h])
    | some n =>
      have : Decidable (Follows step allowed n rest) := Follows.decidable n rest
      decidable_of_iff (allowed m move ∧ Follows step allowed n rest) (by simp [Follows, h])

lemma follows_of_mem {step : σ → μ → Option σ} {allowed : σ → μ → Prop} {moves : List μ}
    (h : ∀ move ∈ moves, ∀ m, allowed m move) (m : σ) : Follows step allowed m moves := by
  induction moves generalizing m with
  | nil => trivial
  | cons move rest ih => exact ⟨h move (by simp) m, fun n _ => ih (fun a ha => h a (by simp [ha])) n⟩

lemma Follows.and {step : σ → μ → Option σ} {p q : σ → μ → Prop} {m : σ} {moves : List μ} (hp : Follows step p m moves)
    (hq : Follows step q m moves) : Follows step (fun m move => p m move ∧ q m move) m moves := by
  induction moves generalizing m with
  | nil => trivial
  | cons move rest ih => exact ⟨⟨hp.1, hq.1⟩, fun n hn => ih (hp.2 n hn) (hq.2 n hn)⟩

lemma Follows.append {step : σ → μ → Option σ} {p : σ → μ → Prop} {m n : σ} {before after : List μ}
    (h : Follows step p m (before ++ after)) (hr : before.foldlM step m = some n) :
    Follows step p m before ∧ Follows step p n after := by
  induction before generalizing m with
  | nil =>
    simp only [List.foldlM_nil, pure, Option.some.injEq] at hr
    exact ⟨trivial, hr ▸ h⟩
  | cons move rest ih =>
    simp only [List.foldlM_cons, bind, Option.bind_eq_some_iff] at hr
    obtain ⟨p, hp, hr⟩ := hr
    exact ⟨⟨h.1, fun n hn => by
      obtain rfl : p = n := by simpa [hp] using hn
      exact (ih (h.2 p hp) hr).1⟩, (ih (h.2 p hp) hr).2⟩

lemma Follows.concat {step : σ → μ → Option σ} {p : σ → μ → Prop} {m n : σ} {before after : List μ}
    (h : Follows step p m before) (hr : before.foldlM step m = some n) (h' : Follows step p n after) :
    Follows step p m (before ++ after) := by
  induction before generalizing m with
  | nil =>
    simp only [List.foldlM_nil, pure, Option.some.injEq] at hr
    exact hr ▸ h'
  | cons move rest ih =>
    simp only [List.foldlM_cons, bind, Option.bind_eq_some_iff] at hr
    obtain ⟨q, hq, hr⟩ := hr
    refine ⟨h.1, fun q' hq' => ?_⟩
    obtain rfl : q = q' := Option.some.inj (hq.symm.trans hq')
    exact ih (h.2 q hq) hr

/-- What every allowed move keeps holds at the end of a run. -/
theorem run_invariant {step : σ → μ → Option σ} {allowed : σ → μ → Prop} {I : σ → Prop}
    (hstep : ∀ {m move n}, allowed m move → step m move = some n → I m → I n) {m n : σ} {moves : List μ}
    (hf : Follows step allowed m moves) (hr : moves.foldlM step m = some n) (hi : I m) : I n := by
  induction moves generalizing m with
  | nil =>
    simp only [List.foldlM_nil, pure, Option.some.injEq] at hr
    exact hr ▸ hi
  | cons move rest ih =>
    simp only [List.foldlM_cons, bind, Option.bind_eq_some_iff] at hr
    obtain ⟨p, hp, hr⟩ := hr
    exact ih (hf.2 p hp) hr (hstep hf.1 hp hi)

theorem run_keeps {step : σ → μ → Option σ} {I : σ → Prop} (hstep : ∀ {m move n}, step m move = some n → I m → I n)
    {m n : σ} {moves : List μ} (hr : moves.foldlM step m = some n) (hi : I m) : I n := by
  have hall : Follows step (fun _ _ => True) m moves := follows_of_mem (fun _ _ _ => trivial) m
  exact run_invariant (fun _ hs hi => hstep hs hi) hall hr hi

/-- The same for what also speaks of the moves made so far. -/
theorem history_invariant {step : σ → μ → Option σ} {allowed : σ → μ → Prop} {I : List μ → σ → Prop}
    (hstep : ∀ {done m move n}, allowed m move → step m move = some n → I done m → I (done ++ [move]) n)
    {done moves : List μ} {m n : σ} (hf : Follows step allowed m moves) (hr : moves.foldlM step m = some n)
    (hi : I done m) : I (done ++ moves) n := by
  induction moves generalizing done m with
  | nil =>
    simp only [List.foldlM_nil, pure, Option.some.injEq] at hr
    rw [List.append_nil]
    exact hr ▸ hi
  | cons move rest ih =>
    simp only [List.foldlM_cons, bind, Option.bind_eq_some_iff] at hr
    obtain ⟨p, hp, hr⟩ := hr
    rw [List.append_cons]
    exact ih (hf.2 p hp) hr (hstep hf.1 hp hi)

end EvalSession

import Mathlib.Data.List.Nodup
import EvalSession.Value

/-!
# Objects as tables

What stands under a key after two objects are joined, a field is put or fields are taken out.
-/
namespace EvalSession.Object

variable {o new : Object} {key other : String} {v : Value}

lemma has_eq (o : Object) (key : String) : o.has key = (o.get? key).isSome := by
  rw [Bool.eq_iff_iff]
  simp [has, get?, List.find?_isSome]

lemma get?_eq_none (h : ∀ f ∈ o, f.1 ≠ key) : o.get? key = none := by
  simpa [get?] using fun k w hm => h (k, w) hm

lemma mem_keys_iff : key ∈ o.keys ↔ (o.get? key).isSome := by
  rw [← has_eq]
  simp [has, keys]

lemma get?_append (o o' : Object) (key : String) : get? (o ++ o') key = (get? o key).or (get? o' key) := by
  simp only [get?, List.find?_append]
  cases List.find? (fun f => f.1 == key) o <;> rfl

lemma get?_filter_key {p : String → Bool} (h : p key = true) (o : Object) :
    get? (o.filter fun f => p f.1) key = o.get? key := by
  induction o with
  | nil => rfl
  | cons f o ih =>
    by_cases hf : f.1 = key
    · simp [get?, hf, h]
    · cases hp : p f.1 with
      | true => simpa [get?, hp, hf] using ih
      | false => simpa [get?, hp, hf] using ih

lemma get?_filter_value {p : Value → Bool} (h : o.keys.Nodup) (key : String) :
    get? (o.filter fun f => p f.2) key = (o.get? key).filter p := by
  induction o with
  | nil => rfl
  | cons f o ih =>
    obtain ⟨hnew, ho⟩ : f.1 ∉ keys o ∧ (keys o).Nodup := List.nodup_cons.mp h
    have ih := ih ho
    by_cases hf : f.1 = key
    · have hnone : get? o key = none := by simpa [← hf, mem_keys_iff] using hnew
      rw [hnone] at ih
      have hget : get? (f :: o) key = some f.2 := by simp [get?, hf]
      rw [hget]
      cases hp : p f.2 with
      | true => simp [get?, hf, hp, Option.filter]
      | false =>
        rw [List.filter_cons_of_neg (by simp [hp]), ih]
        simp [Option.filter, hp]
    · cases hp : p f.2 with
      | true => simpa [get?, hf, hp] using ih
      | false => simpa [get?, hf, hp] using ih

lemma nodup_filter (p : String × Value → Bool) (h : o.keys.Nodup) : (keys (o.filter p)).Nodup :=
  h.sublist (List.filter_sublist.map _)

lemma get?_put_ne (h : key ≠ other) : (o.put key v).get? other = o.get? other := by
  induction o with
  | nil => simp [put, get?, h]
  | cons f o ih =>
    obtain ⟨k, w⟩ := f
    unfold put
    by_cases hk : k = key
    · subst hk
      simp [get?, h]
    · by_cases ho : k = other
      · subst ho
        simp [get?, hk]
      · simpa [get?, hk, ho] using ih

@[simp] lemma get?_put_self (o : Object) (key : String) (v : Value) : (o.put key v).get? key = some v := by
  induction o with
  | nil => simp [put, get?]
  | cons f o ih =>
    obtain ⟨k, w⟩ := f
    unfold put
    by_cases hk : k = key
    · simp [get?, hk]
    · simpa [get?, hk] using ih

lemma put_put (o : Object) (key : String) (v w : Value) : (o.put key v).put key w = o.put key w := by
  induction o with
  | nil => simp [put]
  | cons f o ih =>
    obtain ⟨k, x⟩ := f
    by_cases hk : k = key
    · simp [put, hk]
    · simp [put, hk, ih]

lemma get?_update_of_ne (h : ∀ f ∈ new, f.1 ≠ key) : (o.update new).get? key = o.get? key := by
  induction new generalizing o with
  | nil => rfl
  | cons f new ih =>
    have hrest := ih (o := o.put f.1 f.2) fun g hg => h g (List.mem_cons_of_mem _ hg)
    exact hrest.trans (get?_put_ne (h f (List.mem_cons_self ..)))

lemma put_of_not_mem (h : key ∉ o.keys) (v : Value) : o.put key v = o ++ [(key, v)] := by
  induction o with
  | nil => rfl
  | cons f o ih =>
    obtain ⟨k, w⟩ := f
    obtain ⟨hk, ho⟩ : key ≠ k ∧ key ∉ keys o := by simpa [keys] using h
    simp [put, hk.symm, ih ho]

end EvalSession.Object

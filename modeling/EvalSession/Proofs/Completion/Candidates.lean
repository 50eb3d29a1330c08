import EvalSession.Completion
import EvalSession.Proofs.Expression.Locality

/-!
# Candidates of a completion

The entries of a completion are the matching names with the scope and the operator around them. What is typed behind the
operator only takes names away; at top level no name is offered twice.
-/
namespace EvalSession.Completion

def matching (e : Expression) (names : List (List Char)) : List (List Char) :=
  (candidates e names).filter e.selector.isPrefixOf

/-- The text that replaces an expression by one with a name behind its operator. -/
def entry (e : Expression) (name : List Char) : List Char := e.scope ++ e.leftOp ++ name ++ e.rightOp

lemma list_eq (e : Expression) (names : List (List Char)) : list e names = (matching e names).map (entry e) := rfl

lemma entry_injective (e : Expression) : Function.Injective (entry e) := fun _ _ h =>
  List.append_cancel_left (List.append_cancel_right h)

section Offers

variable {e : Expression} {names : List (List Char)} {name : List Char}

lemma mem_matching : name ∈ matching e names ↔ name ∈ candidates e names ∧ e.selector <+: name := by
  rw [matching, List.mem_filter, List.isPrefixOf_iff_prefix]

lemma candidates_of_scope (h : e.scope ≠ []) : candidates e names = names := by
  simp [candidates, h]

lemma candidates_of_top (h : e.scope = []) :
    candidates e names = (names ++ reservedWords.map String.toList).eraseDups := by
  simp [candidates, h]

lemma matchedText_prefix (hspan : e.matchedText = e.scope ++ e.leftOp ++ e.selector) :
    ∀ t ∈ list e names, e.matchedText <+: t := by
  intro t ht
  rw [list_eq, List.mem_map] at ht
  obtain ⟨name, hname, rfl⟩ := ht
  obtain ⟨rest, rfl⟩ := (mem_matching.mp hname).2
  refine ⟨rest ++ e.rightOp, ?_⟩
  rw [hspan, entry]
  simp only [List.append_assoc]

end Offers

lemma nodup_eraseDups {α : Type} [BEq α] [LawfulBEq α] : ∀ l : List α, l.eraseDups.Nodup
  | [] => by simp
  | a :: l => by
    have hshorter : (l.filter fun b => !b == a).length < l.length + 1 := Nat.lt_succ_of_le (List.length_filter_le _ _)
    rw [List.eraseDups_cons]
    refine List.nodup_cons.mpr ⟨fun ha => ?_, nodup_eraseDups _⟩
    simpa using List.mem_eraseDups.mp ha
termination_by l => l.length

lemma nodup_list {e : Expression} (h : e.scope = []) (names : List (List Char)) : (list e names).Nodup := by
  rw [list_eq, matching, candidates_of_top h]
  exact ((nodup_eraseDups _).filter _).map (entry_injective e)

end EvalSession.Completion

import EvalSession.Proofs.Completion.Candidates

/-!
# The range of a completion

Main statement: what a completion replaces starts where the matched text first occurs in the source, covers the matched text
and goes on as far as the source agrees with the first of the shortest entries (`range_wellFormed`). The matched text ends at
the cursor, so there is always a place where it occurs, and every entry goes on from it.
-/
namespace EvalSession

/-- What is matched runs from the scope to the cursor, also where there is nothing to read; it ends the text before the
cursor. -/
lemma Expression.matchedText_span {code : List Char} {cursor : Int} {e : Expression} (he : parse code cursor = some e) :
    e.matchedText = e.scope ++ e.leftOp ++ e.selector ∧ e.matchedText <:+ code.take (bound code cursor) := by
  have h := (parse_eq_iff code cursor _).mp he
  generalize code.take (bound code cursor) = text at h
  cases h with
  | nothing | blank => exact ⟨rfl, List.nil_suffix⟩
  | bare hsolid hs ho =>
    obtain ⟨hspan, hsuffix, -⟩ := Parses.span (.bare hsolid hs ho) hsolid
    exact ⟨hspan, hsuffix⟩
  | member hsolid hs hscope =>
    obtain ⟨hspan, hsuffix, -⟩ := Parses.span (.member hsolid hs hscope) hsolid
    exact ⟨hspan, hsuffix⟩

namespace Completion

open Expression

structure FirstAt (needle text : List Char) (n : Nat) : Prop where
  inside : n + needle.length ≤ text.length
  occurs : needle <+: text.drop n
  least : ∀ k < n, ¬ needle <+: text.drop k

def FirstShortest (texts : List (List Char)) (s : List Char) : Prop :=
  ∃ front rest, texts = front ++ s :: rest ∧ (∀ t ∈ front, s.length < t.length) ∧ ∀ t ∈ rest, s.length ≤ t.length

def LongestCommonPrefix (s t common : List Char) : Prop :=
  common <+: s ∧ common <+: t ∧ ∀ r, r <+: s → r <+: t → r <+: common

/-- The part of the source that is replaced, from `first` up to `last`. -/
structure Replaces (q : Question) (texts : List (List Char)) (first last : Nat) : Prop where
  start : FirstAt q.expression.matchedText q.code first
  before_cursor : first + q.expression.matchedText.length ≤ (q.code.take (bound q.code q.cursor)).length
  covers : first + q.expression.matchedText.length ≤ last
  inside : last ≤ q.code.length
  agrees : ∃ s, FirstShortest texts s ∧ LongestCommonPrefix (q.code.drop first) s ((q.code.take last).drop first)

section Search

variable {needle text : List Char} {n k : Nat}

lemma FirstAt.le (h : FirstAt needle text n) (hk : needle <+: text.drop k) : n ≤ k := by
  by_contra hlt
  exact h.least k (Nat.lt_of_not_le hlt) hk

lemma firstAt_zero (h : needle <+: text) : FirstAt needle text 0 :=
  ⟨by simpa using h.length_le, h, fun k hk => absurd hk (Nat.not_lt_zero k)⟩

lemma FirstAt.cons {c : Char} (h : FirstAt needle text n) (hc : ¬ needle <+: c :: text) :
    FirstAt needle (c :: text) (n + 1) where
  inside := by
    have := h.inside
    rw [List.length_cons]
    omega
  occurs := h.occurs
  least := by
    intro k hk
    cases k with
    | zero => exact hc
    | succ k => exact h.least k (Nat.lt_of_succ_lt_succ hk)

lemma indexOf?_of_occurs (h : needle <+: text.drop k) : ∃ n, indexOf? needle text = some n ∧ FirstAt needle text n := by
  induction text generalizing k with
  | nil =>
    obtain rfl : needle = [] := by simpa using h
    exact ⟨0, rfl, firstAt_zero (List.nil_prefix ..)⟩
  | cons c text ih =>
    by_cases hc : needle <+: c :: text
    · exact ⟨0, by rw [indexOf?, if_pos (List.isPrefixOf_iff_prefix.mpr hc)], firstAt_zero hc⟩
    · cases k with
      | zero => exact absurd h hc
      | succ k =>
        obtain ⟨n, hn, hfirst⟩ := ih h
        refine ⟨n + 1, ?_, hfirst.cons hc⟩
        rw [indexOf?, if_neg (by simpa using hc), hn, Option.map_some]

lemma indexOf?_of_suffix (h : needle <:+ text.take k) :
    ∃ n, indexOf? needle text = some n ∧ FirstAt needle text n ∧ n + needle.length ≤ (text.take k).length := by
  obtain ⟨front, hfront⟩ := h
  have hoccurs : needle <+: text.drop front.length := by
    refine ⟨text.drop k, ?_⟩
    calc needle ++ text.drop k = (front ++ needle ++ text.drop k).drop front.length := by
          rw [List.append_assoc, List.drop_left]
      _ = text.drop front.length := by rw [hfront, List.take_append_drop]
  obtain ⟨n, hn, hfirst⟩ := indexOf?_of_occurs hoccurs
  refine ⟨n, hn, hfirst, ?_⟩
  have hle := hfirst.le hoccurs
  rw [← hfront, List.length_append]
  omega

end Search

lemma shortest_eq_some {texts : List (List Char)} (h : texts ≠ []) : ∃ s, shortest texts = some s ∧ FirstShortest texts s := by
  induction texts with
  | nil => exact absurd rfl h
  | cons t texts ih =>
    rcases eq_or_ne texts [] with rfl | hne
    · exact ⟨t, rfl, [], [], rfl, by simp, by simp⟩
    · obtain ⟨s, hs, front, rest, rfl, hfront, hrest⟩ := ih hne
      rw [shortest, hs]
      by_cases hlt : s.length < t.length
      · exact ⟨s, if_pos hlt, t :: front, rest, rfl, by simpa using ⟨hlt, hfront⟩, hrest⟩
      · refine ⟨t, if_neg hlt, [], front ++ s :: rest, rfl, by simp, fun u hu => ?_⟩
        -- what follows is no shorter than the shortest of it
        have hle : s.length ≤ u.length := by
          rcases List.mem_append.mp hu with hu | hu
          · exact (hfront u hu).le
          · rcases List.mem_cons.mp hu with rfl | hu
            · exact le_rfl
            · exact hrest u hu
        omega

lemma commonLength_le (s t : List Char) : commonLength s t ≤ t.length := by
  induction s generalizing t with
  | nil => simp [commonLength]
  | cons c s ih =>
    cases t with
    | nil => simp [commonLength]
    | cons d t =>
      have := ih t
      rw [commonLength, List.length_cons]
      split <;> omega

lemma longestCommonPrefix_take (s t : List Char) : LongestCommonPrefix t s (t.take (commonLength s t)) := by
  refine ⟨List.take_prefix _ _, ?_⟩
  induction s generalizing t with
  | nil =>
    have hnil : t.take (commonLength [] t) = [] := by simp [commonLength]
    rw [hnil]
    exact ⟨List.prefix_rfl, fun r _ hr => hr⟩
  | cons c s ih =>
    cases t with
    | nil => exact ⟨List.nil_prefix .., fun r hr _ => hr⟩
    | cons d t =>
      obtain ⟨hcommon, hlongest⟩ := ih t
      by_cases hcd : c = d
      · subst hcd
        rw [commonLength, if_pos rfl, List.take_succ_cons]
        refine ⟨List.cons_prefix_cons.mpr ⟨rfl, hcommon⟩, fun r hr hr' => ?_⟩
        cases r with
        | nil => exact List.nil_prefix ..
        | cons b r =>
          obtain ⟨rfl, htail⟩ := List.cons_prefix_cons.mp hr
          exact List.cons_prefix_cons.mpr ⟨rfl, hlongest r htail (List.cons_prefix_cons.mp hr').2⟩
      · rw [commonLength, if_neg hcd, List.take_zero]
        refine ⟨List.nil_prefix .., fun r hr hr' => ?_⟩
        cases r with
        | nil => exact List.prefix_rfl
        | cons b r => exact absurd ((List.cons_prefix_cons.mp hr').1.symm.trans (List.cons_prefix_cons.mp hr).1) hcd

lemma range_replaces {code : List Char} {cursor : Int} {e : Expression} (he : parse code cursor = some e)
    {names : List (List Char)} (hne : list e names ≠ []) :
    ∃ first last : Nat, range ⟨code, cursor, e⟩ (list e names) = (↑first, ↑last) ∧
      Replaces ⟨code, cursor, e⟩ (list e names) first last := by
  obtain ⟨hspan, hsuffix⟩ := matchedText_span he
  obtain ⟨s, hs, hshortest⟩ := shortest_eq_some hne
  obtain ⟨first, hfirst, hat, hbefore⟩ := indexOf?_of_suffix hsuffix
  have hcommon := longestCommonPrefix_take s (code.drop first)
  have hle := commonLength_le s (code.drop first)
  have hslice : (code.take (first + commonLength s (code.drop first))).drop first =
      (code.drop first).take (commonLength s (code.drop first)) := by
    rw [List.drop_take, Nat.add_sub_cancel_left]
  have hentry : e.matchedText <+: s := by
    obtain ⟨front, rest, htexts, -⟩ := hshortest
    exact matchedText_prefix hspan s (by rw [htexts]; simp)
  have hcovered : e.matchedText.length ≤ commonLength s (code.drop first) :=
    (hcommon.2.2 _ hat.occurs hentry).length_le.trans (List.length_take_le _ _)
  refine ⟨first, first + commonLength s (code.drop first), ?_, ?_⟩
  · simp only [range, hs, hfirst, Nat.cast_add]
  · exact {
      start := hat
      before_cursor := hbefore
      covers := Nat.add_le_add_left hcovered first
      inside := by
        change first + commonLength s (code.drop first) ≤ code.length
        have hinside := hat.inside
        rw [List.length_drop] at hle
        omega
      agrees := ⟨s, hshortest, by rw [hslice]; exact hcommon⟩ }

/-- Without entries the range of a completion is empty and at the cursor. With entries it starts where the matched text first
occurs, which is before the cursor, and covers what the source has in common with the first of the shortest entries. -/
theorem range_wellFormed {code : List Char} {cursor : Int} {e : Expression} (he : parse code cursor = some e)
    (names : List (List Char)) :
    ∃ fields start stop, result ⟨code, cursor, e⟩ (list e names) = [("completion", .object fields)] ∧
      Object.get? fields "list" = some (.list ((list e names).map text)) ∧
      Object.get? fields "cursorPos" = some (.int cursor) ∧ Object.get? fields "cursorStart" = some (.int start) ∧
      Object.get? fields "cursorEnd" = some (.int stop) ∧
      (list e names = [] → start = cursor ∧ stop = cursor) ∧
      (list e names ≠ [] → ∃ first last : Nat, start = first ∧ stop = last ∧
        Replaces ⟨code, cursor, e⟩ (list e names) first last) := by
  refine ⟨_, _, _, rfl, rfl, rfl, rfl, rfl, fun hnil => ?_, fun hne => ?_⟩
  · simp only [hnil, range, shortest, and_self]
  · obtain ⟨first, last, hrange, hreplaces⟩ := range_replaces he hne
    exact ⟨first, last, congrArg Prod.fst hrange, congrArg Prod.snd hrange, hreplaces⟩

/-- What is matched at the end of the source occurs at its start too, and a reserved word is shorter than the name. -/
theorem repeated_wellFormed :
    parse "ab a\n".toList (-1) = some ⟨"a".toList, [], none, "a".toList⟩ ∧
    Replaces ⟨"ab a\n".toList, -1, ⟨"a".toList, [], none, "a".toList⟩⟩
      (list ⟨"a".toList, [], none, "a".toList⟩ ["abc".toList]) 0 1 := by
  have he : parse "ab a\n".toList (-1) = some ⟨"a".toList, [], none, "a".toList⟩ := by decide +kernel
  obtain ⟨fields, start, stop, hresult, -, -, hstart, hstop, -, hreplaces⟩ := range_wellFormed he ["abc".toList]
  obtain ⟨first, last, rfl, rfl, h⟩ := hreplaces (by decide)
  have hrange : Object.get? fields "cursorStart" = some (.int 0) ∧ Object.get? fields "cursorEnd" = some (.int 1) := by
    obtain ⟨rfl⟩ : _ = [("completion", Value.object fields)] := hresult
    decide +kernel
  obtain rfl : first = 0 := by simpa using hstart.symm.trans hrange.1
  obtain rfl : last = 1 := by simpa using hstop.symm.trans hrange.2
  exact ⟨he, h⟩

end Completion

end EvalSession

import Mathlib
import EvalSession.Expression.Grammar

/-!
# Reading chains

The readings of a text, built up from its end, say what the grammar says of it (`reads_of`); so the chain that a scan
finds is the longest one that ends the text.
-/
namespace EvalSession.Expression

/-- The rest of an identifier, then segments. -/
def Tail (s : List Char) : Prop := ∃ word rest, (∀ d ∈ word, Text.isWord d = true) ∧ Segments rest ∧ s = word ++ rest

/-- The rest of a quoted subscript, then segments. -/
def Quoted (quote : Char) (s : List Char) : Prop :=
  ∃ text rest, '\n' ∉ text ∧ Segments rest ∧ s = text ++ quote :: ']' :: rest

section Grammar

variable {c quote : Char} {s t : List Char}

lemma isWord_of_isIdentStart (h : Text.isIdentStart c = true) : Text.isWord c = true := by
  simp only [Text.isIdentStart, Bool.and_eq_true] at h
  exact h.1

lemma chain_cons : Chain (c :: s) ↔ Text.isIdentStart c = true ∧ Tail s := by
  constructor
  · intro h
    generalize hs : c :: s = u at h
    obtain ⟨⟨hc, hword⟩, hrest⟩ := h
    cases hs
    exact ⟨hc, _, _, hword, hrest, rfl⟩
  · rintro ⟨hc, word, rest, hword, hrest, rfl⟩
    exact .mk (Ident.mk hc hword) hrest

lemma not_chain_nil : ¬ Chain [] := by
  generalize hs : ([] : List Char) = s
  rintro ⟨hname, -⟩
  cases hname
  cases hs

lemma segments_cons : Segments (c :: s) ↔ (c = '.' ∧ Chain s) ∨
    (c = '[' ∧ ∃ quote rest, (quote = '"' ∨ quote = '\'') ∧ s = quote :: rest ∧ Quoted quote rest) := by
  constructor
  · intro h
    generalize hs : c :: s = u at h
    cases h with
    | nil => cases hs
    | cons hfirst hrest =>
      rcases hfirst with hname | htext | htext
      · cases hs
        exact .inl ⟨rfl, .mk hname hrest⟩
      · cases hs
        exact .inr ⟨rfl, '"', _, .inl rfl, rfl, _, _, htext, hrest, by simp⟩
      · cases hs
        exact .inr ⟨rfl, '\'', _, .inr rfl, rfl, _, _, htext, hrest, by simp⟩
  · rintro (⟨rfl, hname, hrest⟩ | ⟨rfl, quote, _, hquote, rfl, text, rest, htext, hrest, rfl⟩)
    · exact .cons (Segment.attribute hname) hrest
    · have hseg : Segment ('[' :: quote :: (text ++ [quote, ']'])) := by
        rcases hquote with rfl | rfl
        · exact .doubleQuoted htext
        · exact .singleQuoted htext
      simpa using Segments.cons hseg hrest

lemma tail_nil : Tail [] := ⟨[], [], by simp, .nil, rfl⟩

lemma tail_cons : Tail (c :: s) ↔ Segments (c :: s) ∨ (Text.isWord c = true ∧ Tail s) := by
  constructor
  · rintro ⟨word, rest, hword, hrest, hs⟩
    cases word with
    | nil =>
      obtain rfl : c :: s = rest := hs
      exact .inl hrest
    | cons d word =>
      obtain ⟨rfl, rfl⟩ : c = d ∧ s = word ++ rest := by simpa using hs
      exact .inr ⟨hword c (by simp), word, rest, fun d hd => hword d (by simp [hd]), hrest, rfl⟩
  · rintro (h | ⟨hc, word, rest, hword, hrest, rfl⟩)
    · exact ⟨[], _, by simp, h, rfl⟩
    · exact ⟨c :: word, rest, by simpa [hc] using hword, hrest, rfl⟩

lemma not_quoted_nil : ¬ Quoted quote [] := by
  rintro ⟨text, rest, -, -, hs⟩
  simp at hs

lemma quoted_cons : Quoted quote (c :: s) ↔
    (c = quote ∧ ∃ rest, s = ']' :: rest ∧ Segments rest) ∨ (c ≠ '\n' ∧ Quoted quote s) := by
  constructor
  · rintro ⟨text, rest, htext, hrest, hs⟩
    cases text with
    | nil =>
      obtain ⟨rfl, rfl⟩ : c = quote ∧ s = ']' :: rest := by simpa using hs
      exact .inl ⟨rfl, rest, rfl, hrest⟩
    | cons d text =>
      obtain ⟨rfl, rfl⟩ : c = d ∧ s = text ++ quote :: ']' :: rest := by simpa using hs
      simp only [List.mem_cons, not_or] at htext
      exact .inr ⟨fun h => htext.1 h.symm, text, rest, htext.2, hrest, rfl⟩
  · rintro (⟨rfl, rest, rfl, hrest⟩ | ⟨hc, text, rest, htext, hrest, rfl⟩)
    · exact ⟨[], rest, by simp, hrest, rfl⟩
    · exact ⟨c :: text, rest, by simp [htext, Ne.symm hc], hrest, rfl⟩

end Grammar

/-- The readings are those that the grammar admits. -/
structure Reads (s : List Char) (r : Reading) : Prop where
  chain : r.chain = true ↔ Chain s
  word : r.word = true ↔ Tail s
  segments : r.segments = true ↔ Segments s
  openDouble : r.openDouble = true ↔ ∃ rest, s = '"' :: rest ∧ Quoted '"' rest
  openSingle : r.openSingle = true ↔ ∃ rest, s = '\'' :: rest ∧ Quoted '\'' rest
  double : r.double = true ↔ Quoted '"' s
  single : r.single = true ↔ Quoted '\'' s
  bracket : r.bracket = true ↔ ∃ rest, s = ']' :: rest ∧ Segments rest

lemma reads_nil : Reads [] .nil where
  chain := by simp [Reading.nil, not_chain_nil]
  word := by simp [Reading.nil, tail_nil]
  segments := by simp [Reading.nil, Segments.nil]
  openDouble := by simp [Reading.nil]
  openSingle := by simp [Reading.nil]
  double := by simp [Reading.nil, not_quoted_nil]
  single := by simp [Reading.nil, not_quoted_nil]
  bracket := by simp [Reading.nil]

lemma Reads.cons {s : List Char} {r : Reading} (h : Reads s r) (c : Char) : Reads (c :: s) (.cons c r) := by
  have hsegments : (Reading.cons c r).segments = true ↔ Segments (c :: s) := by
    simp [Reading.cons, segments_cons, h.chain, h.openDouble, h.openSingle, or_and_right, exists_or]
  constructor
  · simp [Reading.cons, chain_cons, h.word]
  · rw [tail_cons, ← hsegments]
    simp [Reading.cons, h.word]
  · exact hsegments
  · simp [Reading.cons, h.double]
  · simp [Reading.cons, h.single]
  · simp [Reading.cons, quoted_cons, h.double, h.bracket]
  · simp [Reading.cons, quoted_cons, h.single, h.bracket]
  · simp [Reading.cons, h.segments]

theorem reads_of (s : List Char) : Reads s (.of s) := by
  induction s with
  | nil => exact reads_nil
  | cons c s ih => exact ih.cons c

lemma scan_fst (s : List Char) : (scan s).1 = .of s := by
  induction s with
  | nil => rfl
  | cons c s ih => simp [scan, ih, Reading.of]

lemma longestChain_cons (c : Char) (s : List Char) :
    longestChain (c :: s) = if (Reading.of (c :: s)).chain then some (c :: s) else longestChain s := by
  simp only [longestChain, scan, scan_fst, Reading.of, List.foldr_cons]
  rfl

section LongestSuffix

variable {P : List Char → Prop} {s t text : List Char}

lemma longestSuffix_self (h : P text) : LongestSuffix P text text :=
  ⟨h, List.suffix_refl _, fun _ _ ht => ht.length_le⟩

lemma LongestSuffix.unique (hs : LongestSuffix P text s) (ht : LongestSuffix P text t) : s = t := by
  have hlen := (ht.2.2 s hs.1 hs.2.1).antisymm (hs.2.2 t ht.1 ht.2.1)
  exact (List.suffix_of_suffix_length_le hs.2.1 ht.2.1 hlen.le).eq_of_length hlen

lemma longestSuffix_cons {c : Char} (h : ¬ P (c :: text)) : LongestSuffix P (c :: text) s ↔ LongestSuffix P text s := by
  have hsuffix : ∀ {u}, P u → (u <:+ c :: text ↔ u <:+ text) := by
    intro u hu
    rw [List.suffix_cons_iff]
    refine or_iff_right ?_
    rintro rfl
    exact h hu
  constructor
  · rintro ⟨hs, hsub, hmax⟩
    exact ⟨hs, (hsuffix hs).mp hsub, fun t ht hsub' => hmax t ht ((hsuffix ht).mpr hsub')⟩
  · rintro ⟨hs, hsub, hmax⟩
    exact ⟨hs, (hsuffix hs).mpr hsub, fun t ht hsub' => hmax t ht ((hsuffix ht).mp hsub')⟩

end LongestSuffix

/-- A scan finds the longest chain that ends a text, -/
theorem longestChain_eq_some {text s : List Char} : longestChain text = some s ↔ LongestSuffix Chain text s := by
  induction text with
  | nil =>
    refine ⟨fun h => (by cases h), fun h => ?_⟩
    obtain rfl := List.suffix_nil.mp h.2.1
    exact absurd h.1 not_chain_nil
  | cons c text ih =>
    rw [longestChain_cons]
    by_cases hchain : Chain (c :: text)
    · rw [if_pos ((reads_of _).chain.mpr hchain), Option.some.injEq]
      exact ⟨fun h => h ▸ longestSuffix_self hchain, fun h => (longestSuffix_self hchain).unique h⟩
    · rw [if_neg (fun h => hchain ((reads_of _).chain.mp h)), ih, longestSuffix_cons hchain]

/-- and nothing only if no chain ends it. -/
theorem longestChain_eq_none {text : List Char} : longestChain text = none ↔ ∀ t, t <:+ text → ¬ Chain t := by
  induction text with
  | nil =>
    refine ⟨fun _ t ht => ?_, fun _ => rfl⟩
    obtain rfl := List.suffix_nil.mp ht
    exact not_chain_nil
  | cons c text ih =>
    rw [longestChain_cons]
    by_cases hchain : Chain (c :: text)
    · rw [if_pos ((reads_of _).chain.mpr hchain)]
      exact ⟨fun h => (by cases h), fun h => (h _ (List.suffix_refl _) hchain).elim⟩
    · rw [if_neg (fun h => hchain ((reads_of _).chain.mp h)), ih]
      simp only [List.suffix_cons_iff, forall_eq_or_imp, hchain, not_false_eq_true, true_and]

end EvalSession.Expression

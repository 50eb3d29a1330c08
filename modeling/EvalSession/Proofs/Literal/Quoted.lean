import Mathlib
import EvalSession.Literal
import EvalSession.Text.Quoted

/-!
# Reading quoted texts back

What `Text.Quoted.quote` writes is read as the literal of the same text. Hence a JSON text that is written as a literal holds
the JSON value that the text itself holds.
-/
namespace EvalSession.Literal

open Text Text.Quoted

section Hex

variable {n width : Nat} {c : Char} {s r : List Char}

lemma hexValue_digitChar : ∀ d < 16, hexValue d.digitChar = d := by decide

lemma isHexDigit_digitChar : ∀ d < 16, isHexDigit d.digitChar = true := by decide

lemma ofDigits_concat (base : Nat) (s : List Char) (c : Char) :
    ofDigits base (s ++ [c]) = ofDigits base s * base + hexValue c := by
  simp [ofDigits]

lemma ofDigits_zeros (k : Nat) (s : List Char) : ofDigits 16 (List.replicate k '0' ++ s) = ofDigits 16 s := by
  induction k with
  | zero => rfl
  | succ k ih => rwa [List.replicate_succ, List.cons_append, ofDigits, List.foldl_cons]

lemma ofDigits_toDigits {base : Nat} (hb : 1 < base) (hb' : base ≤ 16) (n : Nat) :
    ofDigits base (Nat.toDigits base n) = n := by
  induction n using Nat.strongRecOn with
  | ind n ih =>
    rw [Nat.toDigits_eq_if hb]
    split
    · rename_i hn
      simp [ofDigits, hexValue_digitChar n (hn.trans_le hb')]
    · rename_i hn
      have hpos : 0 < n := by omega
      rw [ofDigits_concat, ih (n / base) (Nat.div_lt_self hpos hb),
        hexValue_digitChar _ ((Nat.mod_lt n (by omega)).trans_le hb')]
      exact Nat.div_add_mod' n base

lemma isHexDigit_toDigits (n : Nat) : ∀ c ∈ Nat.toDigits 16 n, isHexDigit c = true := by
  induction n using Nat.strongRecOn with
  | ind n ih =>
    rw [Nat.toDigits_eq_if (by omega)]
    split
    · simpa using isHexDigit_digitChar n ‹_›
    · intro c hc
      rcases List.mem_append.mp hc with hc | hc
      · exact ih (n / 16) (by omega) c hc
      · obtain rfl := List.mem_singleton.mp hc
        exact isHexDigit_digitChar _ (Nat.mod_lt _ (by omega))

lemma isHexDigit_hex (h : c ∈ hex width n) : isHexDigit c = true := by
  rcases List.mem_append.mp h with h | h
  · obtain rfl := List.eq_of_mem_replicate h
    decide
  · exact isHexDigit_toDigits n c h

lemma ofDigits_hex (width n : Nat) : ofDigits 16 (hex width n) = n := by
  rw [hex, ofDigits_zeros, ofDigits_toDigits (by omega) (by omega)]

lemma length_hex (hw : 0 < width) (h : n < 16 ^ width) : (hex width n).length = width := by
  have hle : (Nat.toDigits 16 n).length ≤ width := (Nat.length_toDigits_le_iff (by omega) hw).mpr h
  simp [hex, hle]

lemma takeHex_hex {n : Nat} (width : Nat) (hw : 0 < width) (h : n < 16 ^ width) (r : List Char) :
    takeHex width (hex width n ++ r) = some (n, r) := by
  have hlen := length_hex hw h
  have htake : (hex width n ++ r).take width = hex width n := List.take_left' hlen
  have hdrop : (hex width n ++ r).drop width = r := List.drop_left' hlen
  have hall : (hex width n).all isHexDigit = true := List.all_eq_true.mpr fun c hc => isHexDigit_hex hc
  simp [takeHex, htake, hdrop, hlen, hall, ofDigits_hex]

end Hex

lemma toNat_lt (c : Char) : c.toNat < 0x110000 := by
  have := c.valid
  simp only [UInt32.isValidChar, Nat.isValidChar] at this
  simp only [Char.toNat]
  omega

def IsQuote (q : Char) : Prop := q = '\'' ∨ q = '"'

section Escapes

variable {q c : Char} {s r : List Char}

lemma delimiter_isQuote (s : List Char) : IsQuote (delimiter s) := by
  unfold delimiter
  split
  · exact .inr rfl
  · exact .inl rfl

lemma escape_cases (hq : IsQuote q) (c : Char) :
    (escape q c = [c] ∧ c ≠ q ∧ c ≠ '\\' ∧ c ≠ '\n' ∧ c ≠ '\r' ∧ c ≠ '\x00') ∨
      ∃ e more, escape q c = '\\' :: e :: more ∧ (∀ d ∈ more, isHexDigit d = true) ∧ e ≠ '\r' ∧ e ≠ '\x00' ∧
        ∀ r, readEscape true (e :: more ++ r) = some ([c.toNat], r) := by
  unfold escape
  split
  · rename_i h
    refine .inr ⟨c, [], rfl, by simp, ?_⟩
    obtain rfl | rfl : c = q ∨ c = '\\' := by simpa using h
    · rcases hq with rfl | rfl <;> exact ⟨by decide, by decide, fun r => rfl⟩
    · exact ⟨by decide, by decide, fun r => rfl⟩
  rename_i hplain
  obtain ⟨hquote, hback⟩ : c ≠ q ∧ c ≠ '\\' := by simpa using hplain
  split
  · rename_i h
    obtain rfl := eq_of_beq h
    exact .inr ⟨'t', [], rfl, by simp, by decide, by decide, fun r => rfl⟩
  split
  · rename_i h
    obtain rfl := eq_of_beq h
    exact .inr ⟨'n', [], rfl, by simp, by decide, by decide, fun r => rfl⟩
  split
  · rename_i h
    obtain rfl := eq_of_beq h
    exact .inr ⟨'r', [], rfl, by simp, by decide, by decide, fun r => rfl⟩
  rename_i hfeed hreturn
  split
  · rename_i h
    refine .inl ⟨rfl, hquote, hback, by simpa using hfeed, by simpa using hreturn, ?_⟩
    rintro rfl
    simp [isPrintable] at h
  split
  · rename_i h
    refine .inr ⟨'x', _, rfl, fun d => isHexDigit_hex, by decide, by decide, fun r => ?_⟩
    simp [readEscape, takeHex_hex 2 (by omega) h]
  split
  · rename_i h
    refine .inr ⟨'u', _, rfl, fun d => isHexDigit_hex, by decide, by decide, fun r => ?_⟩
    simp [readEscape, simpleEscape, isOctal, takeHex_hex 4 (by omega) h]
  · have hc := toNat_lt c
    have hcode : c.toNat < 16 ^ 8 := by omega
    refine .inr ⟨'U', _, rfl, fun d => isHexDigit_hex, by decide, by decide, fun r => ?_⟩
    simp [readEscape, simpleEscape, isOctal, takeHex_hex 8 (by omega) hcode, hc]

lemma scanBody_plain (h : ∀ d ∈ s, d ≠ q ∧ d ≠ '\\' ∧ d ≠ '\n') (r : List Char) :
    scanBody q false (s ++ r) = (scanBody q false r).map fun (b, rest) => (s ++ b, rest) := by
  induction s with
  | nil => simp
  | cons d s ih =>
    obtain ⟨hquote, hback, hfeed⟩ := h d (by simp)
    rw [List.cons_append, scanBody.eq_def]
    split
    · contradiction
    · simp_all
    · rename_i heq
      obtain ⟨rfl, rfl⟩ := List.cons.inj heq
      rw [ih fun d' hd => h d' (by simp [hd])]
      cases scanBody q false r <;> simp [hquote, hback, hfeed]

lemma isHexDigit_ne (hq : IsQuote q) {d : Char} (h : isHexDigit d = true) : d ≠ q ∧ d ≠ '\\' ∧ d ≠ '\n' := by
  refine ⟨?_, ?_, ?_⟩ <;> rintro rfl
  · rcases hq with rfl | rfl <;> simp [isHexDigit] at h
  · simp [isHexDigit] at h
  · simp [isHexDigit] at h

lemma scanBody_escape (hq : IsQuote q) (c : Char) (r : List Char) :
    scanBody q false (escape q c ++ r) = (scanBody q false r).map fun (b, rest) => (escape q c ++ b, rest) := by
  rcases escape_cases hq c with ⟨he, hquote, hback, hfeed, -⟩ | ⟨e, more, he, hmore, -⟩
  · rw [he]
    exact scanBody_plain (by simpa using ⟨hquote, hback, hfeed⟩) r
  · rw [he, List.cons_append, List.cons_append, scanBody, scanBody_plain fun d hd => isHexDigit_ne hq (hmore d hd)]
    cases scanBody q false r <;> rfl

lemma scanBody_quoted (hq : IsQuote q) (s r : List Char) :
    scanBody q false (s.flatMap (escape q) ++ q :: r) = some (s.flatMap (escape q), r) := by
  induction s with
  | nil =>
    rcases hq with rfl | rfl <;> simp [scanBody]
  | cons c s ih => simp [scanBody_escape hq, ih]

lemma decodeBody_quoted (hq : IsQuote q) (s : List Char) (fuel : Nat) (hf : (s.flatMap (escape q)).length ≤ fuel) :
    decodeBody false true fuel (s.flatMap (escape q)) = some (s.map Char.toNat) := by
  induction s generalizing fuel with
  | nil => cases fuel <;> rfl
  | cons c s ih =>
    rw [List.flatMap_cons] at hf ⊢
    rcases escape_cases hq c with ⟨he, -, hback, -⟩ | ⟨e, more, he, -, -, -, hread⟩
    · rw [he] at hf ⊢
      cases fuel with
      | zero => simp at hf
      | succ fuel =>
        simp only [List.singleton_append, List.length_cons] at hf
        simp [decodeBody, hback, ih fuel (by omega)]
    · rw [he] at hf ⊢
      cases fuel with
      | zero => simp at hf
      | succ fuel =>
        simp only [List.cons_append, List.length_cons, List.length_append] at hf
        have := hread (s.flatMap (escape q))
        simp only [List.cons_append] at this
        simp [decodeBody, this, ih fuel (by omega)]

lemma quoted_not_triple (hq : IsQuote q) (s : List Char) :
    ((q :: (s.flatMap (escape q) ++ [q])).take 3 == [q, q, q]) = false := by
  cases s with
  | nil => simp
  | cons c s =>
    rcases escape_cases hq c with ⟨he, hquote, -⟩ | ⟨e, more, he, -⟩
    · simp [he, hquote]
    · have : '\\' ≠ q := by rcases hq with rfl | rfl <;> decide
      simp [he, this]

lemma readQuoted_quote (s : List Char) :
    readQuoted false false false (delimiter s) (quote s) = some (.text (s.map Char.toNat), []) := by
  have hq := delimiter_isQuote s
  have hscan := scanBody_quoted hq s []
  simp only [readQuoted, quote, quoted_not_triple hq s]
  simp only [Bool.false_eq_true, if_false, List.drop_succ_cons, List.drop_zero, hscan, Bool.false_and, Bool.not_false,
    decodeBody_quoted hq s _ le_rfl, Option.map_some]

lemma readToken_quote (s : List Char) : readToken (quote s) = some (.text (s.map Char.toNat), []) := by
  have hq : (delimiter s == '"' || delimiter s == '\'') = true := by
    rcases delimiter_isQuote s with h | h <;> simp [h]
  have hread := readQuoted_quote s
  rw [quote] at hread ⊢
  simp only [readToken, hq, if_true, hread]

/-- Quoted texts hold no line ends but line feeds, and no null characters. -/
lemma quote_clean (s : List Char) : '\r' ∉ quote s ∧ '\x00' ∉ quote s := by
  have hq := delimiter_isQuote s
  have hchar : ∀ c, '\r' ∉ escape (delimiter s) c ∧ '\x00' ∉ escape (delimiter s) c := by
    intro c
    rcases escape_cases hq c with ⟨he, -, -, -, hreturn, hnull⟩ | ⟨e, more, he, hmore, hreturn, hnull, -⟩
    · simp [he, hreturn.symm, hnull.symm]
    · have hr : '\r' ∉ more := fun h => absurd (hmore _ h) (by decide)
      have hn : '\x00' ∉ more := fun h => absurd (hmore _ h) (by decide)
      simp [he, hreturn.symm, hnull.symm, hr, hn]
  have hmarks : '\r' ≠ delimiter s ∧ '\x00' ≠ delimiter s := by rcases hq with h | h <;> rw [h] <;> decide
  simp only [quote, List.mem_cons, List.mem_append, List.mem_flatMap, List.not_mem_nil, or_false, not_or, not_exists, not_and]
  exact ⟨⟨hmarks.1, fun c _ => (hchar c).1, hmarks.1⟩, hmarks.2, fun c _ => (hchar c).2, hmarks.2⟩

lemma unifyLineEnds_eq (h : '\r' ∉ s) : unifyLineEnds s = s := by
  induction s with
  | nil => rfl
  | cons c s ih =>
    obtain ⟨hc, hs⟩ := not_or.mp (List.mem_cons.not.mp h)
    rw [unifyLineEnds.eq_def]
    split <;> simp_all

end Escapes

lemma tokens_quote (s : List Char) : tokens (quote s) = .ok [.text (s.map Char.toNat)] := by
  obtain ⟨hreturn, hnull⟩ := quote_clean s
  have hq := delimiter_isQuote s
  have hread := readToken_quote s
  generalize htail : s.flatMap (escape (delimiter s)) ++ [delimiter s] = tail
  have hquote : quote s = delimiter s :: tail := by rw [← htail]; rfl
  rw [hquote] at hreturn hnull hread ⊢
  generalize delimiter s = q at hq hreturn hnull hread
  have hstart : ∀ p : Char → Bool, p q = false → (q :: tail).dropWhile p = q :: tail := fun p hp => by simp [hp]
  have hindent : isIndented (q :: tail) = some false := by rcases hq with rfl | rfl <;> rfl
  have htokens : ∀ fuel, tokensFrom (fuel + 3) 0 false true (q :: tail) = [.text (s.map Char.toNat)] := by
    intro fuel
    have hskip : (q :: tail).dropWhile isSpacing = q :: tail := hstart _ (by rcases hq with rfl | rfl <;> rfl)
    rcases hq with rfl | rfl <;> simp [tokensFrom, hindent, hskip, hread]
  have hblank : (q == ' ' || q == '\t') = false := by rcases hq with rfl | rfl <;> rfl
  have hclean : (q :: tail).contains '\x00' = false := by simpa using hnull
  rw [tokens, hstart _ hblank]
  simp only [hclean, unifyLineEnds_eq hreturn]
  exact congrArg Except.ok (htokens _)

lemma readItems_text (room : Nat) (units : List Nat) :
    readItems 2 room [.text units] = .ok (([.text units], .single), []) := rfl

/-- A quoted text is read as the text: nothing in it nests. -/
theorem read_quote (depths : Depths) (s : List Char) : read depths (quote s) = .ok (.text (s.map Char.toNat)) := by
  have hterm : readTerm depths (quote s) = .ok (.text (s.map Char.toNat)) := by
    simp [readTerm, tokens_quote, readTokens, readItems_text, Except.bind, Term.height]
  rw [read, hterm]
  rfl

lemma toNat_not_surrogate (c : Char) : ¬ (0xD800 ≤ c.toNat ∧ c.toNat < 0xE000) := by
  have := c.valid
  simp only [UInt32.isValidChar, Nat.isValidChar] at this
  simp only [Char.toNat]
  omega

lemma joinUnits_toNat (s : List Char) : Json.joinUnits (s.map Char.toNat) = s := by
  induction s with
  | nil => rfl
  | cons c s ih =>
    have hc := toNat_not_surrogate c
    cases s with
    | nil => simp [Json.joinUnits, hc]
    | cons d s =>
      have hpair : ¬ (((0xD800 ≤ c.toNat ∧ c.toNat < 0xDC00) ∧ 0xDC00 ≤ d.toNat) ∧ d.toNat < 0xE000) := by omega
      simp only [List.map_cons] at ih
      simp [Json.joinUnits, hc, hpair, ih]

/-- The written form of a JSON text holds the value of the text. -/
theorem readJson_quote (depths : Depths) (s : List Char) : readJson depths (quote s) = parseJson depths s := by
  rw [readJson, read_quote]
  simp only [joinUnits_toNat]

end EvalSession.Literal

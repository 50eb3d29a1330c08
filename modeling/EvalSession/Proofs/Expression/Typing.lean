import EvalSession.Proofs.Expression.Locality

/-!
# Typing on

Word characters that are typed at the end of a text go on with its expression: they lengthen the selector and leave the
scope and the operator alone (`Parses.typed`). A digit starts no identifier, so it is left out where there is none to
go on with.
-/
namespace EvalSession.Expression

def typed (e : Expression) (more : List Char) : Expression :=
  { e with matchedText := e.matchedText ++ more, selector := e.selector ++ more }

/-- The characters go on with a text: they are word characters, and the first is no digit unless an identifier ends the
text. -/
structure GoesOn (text more : List Char) : Prop where
  ne_nil : more ≠ []
  word : ∀ c ∈ more, Text.isWord c = true
  starts : (∀ t, t <:+ text → ¬ Ident t) → ∀ c ∈ more.head?, Text.isDigit c = false

def blankCodes : List Nat :=
  [0x9, 0xA, 0xB, 0xC, 0xD, 0x1C, 0x1D, 0x1E, 0x1F, 0x20, 0x85, 0xA0, 0x1680, 0x2000, 0x2001, 0x2002, 0x2003, 0x2004,
    0x2005, 0x2006, 0x2007, 0x2008, 0x2009, 0x200A, 0x2028, 0x2029, 0x202F, 0x205F, 0x3000]

lemma mem_blankCodes {c : Char} (h : Text.isSpace c = true) : c.toNat ∈ blankCodes := by
  simp only [Text.isSpace, Bool.or_eq_true, Bool.and_eq_true, decide_eq_true_eq, beq_iff_eq] at h
  simp only [blankCodes, List.mem_cons, List.not_mem_nil, or_false]
  omega

lemma isWord_of_isSpace {c : Char} (h : Text.isSpace c = true) : Text.isWord c = false := by
  have hall : ∀ n ∈ blankCodes, Text.isWord (Char.ofNat n) = false := by decide +kernel
  simpa using hall c.toNat (mem_blankCodes h)

section Selector

variable {text rest selector more : List Char}

lemma GoesOn.endsSolid (h : GoesOn text more) : EndsSolid (text ++ more) := by
  obtain ⟨c, hlast⟩ := Option.isSome_iff_exists.mp (List.getLast?_isSome.mpr h.ne_nil)
  refine ⟨c, by simp [hlast], ?_⟩
  by_contra hspace
  have hword := h.word c (List.mem_of_getLast? hlast)
  rw [isWord_of_isSpace (by simpa using hspace)] at hword
  cases hword

lemma Ident.of_append {s t : List Char} (h : Ident (s ++ t)) (hs : s ≠ []) : Ident s := by
  obtain ⟨c, s, rfl⟩ := List.exists_cons_of_ne_nil hs
  rw [List.cons_append] at h
  obtain ⟨hc, hrest⟩ := h
  exact .mk hc fun d hd => hrest d (List.mem_append_left _ hd)

lemma Ident.append (h : Ident selector) (hmore : ∀ c ∈ more, Text.isWord c = true) : Ident (selector ++ more) := by
  obtain ⟨hc, hrest⟩ := h
  refine .mk hc fun d hd => ?_
  rcases List.mem_append.mp hd with hd | hd
  · exact hrest d hd
  · exact hmore d hd

lemma ident_of_head (hne : more ≠ []) (hword : ∀ c ∈ more, Text.isWord c = true)
    (hhead : ∀ c ∈ more.head?, Text.isDigit c = false) : Ident more := by
  obtain ⟨c, rest, rfl⟩ := List.exists_cons_of_ne_nil hne
  have hc : Text.isIdentStart c = true := by
    simp [Text.isIdentStart, hword c (List.mem_cons_self ..), hhead c rfl]
  exact .mk hc fun d hd => hword d (List.mem_cons_of_mem _ hd)

lemma Selects.no_ident (h : Selects text rest []) : ∀ t, t <:+ text → ¬ Ident t := fun t hsub ht =>
  ht.ne_nil (List.length_eq_zero_iff.mp (Nat.le_zero.mp (h.longest t ht hsub)))

lemma Selects.typed (h : Selects text rest selector) (hmore : GoesOn text more) :
    Selects (text ++ more) rest (selector ++ more) where
  split := by rw [h.split, List.append_assoc]
  ident := by
    rcases h.ident with rfl | hident
    · exact .inr (ident_of_head hmore.ne_nil hmore.word (hmore.starts h.no_ident))
    · exact .inr (hident.append hmore.word)
  longest := by
    intro t ht hsub
    rcases Nat.le_total t.length more.length with hle | hge
    · rw [List.length_append]
      omega
    · -- it starts in the text, with an identifier that ends the text
      obtain ⟨s, rfl⟩ := List.suffix_of_suffix_length_le (List.suffix_append text more) hsub hge
      rw [List.length_append, List.length_append, Nat.add_le_add_iff_right]
      rcases eq_or_ne s [] with rfl | hs
      · exact Nat.zero_le _
      · exact h.longest s (ht.of_append hs) (List.suffix_append_self_iff.mp hsub)

lemma selects_none (hlast : ∀ c ∈ text.getLast?, Text.isWord c = false) : Selects text text [] where
  split := (List.append_nil text).symm
  ident := .inl rfl
  longest := by
    intro t ht hsub
    exfalso
    obtain ⟨c, hc⟩ := Option.isSome_iff_exists.mp (List.getLast?_isSome.mpr ht.ne_nil)
    obtain ⟨front, rfl⟩ := hsub
    have hword := hlast c (by simp [hc])
    rw [ht.isWord c (List.mem_of_getLast? hc)] at hword
    cases hword

end Selector

lemma Access.not_blank {text : List Char} {c : Char} (hc : Text.isSpace c = true) (access : Access) :
    ¬ access.opening <:+ text ++ [c] := by
  rintro ⟨front, h⟩
  have hlast : access.opening.getLast? = some c := by
    have := congrArg List.getLast? h
    cases access <;> simpa [Access.opening, List.getLast?_append] using this
  cases access <;>
    · obtain rfl := Option.some.inj hlast
      cases hc

/-- Where the text goes on, so does its expression. -/
theorem Parses.typed {text more : List Char} {r : Option Expression} (h : Parses text r) (hmore : GoesOn text more) :
    Parses (text ++ more) (r.map fun e => e.typed more) := by
  cases h with
  | nothing =>
    have hs : Selects [] [] [] := selects_none (by simp)
    exact .bare hmore.endsSolid (hs.typed hmore) fun access => by cases access <;> simp [Access.opening]
  | @blank text c hc =>
    have hs : Selects (text ++ [c]) (text ++ [c]) [] := selects_none (by simpa using isWord_of_isSpace hc)
    exact .bare hmore.endsSolid (hs.typed hmore) fun access => Access.not_blank hc access
  | bare _ hs ho => exact .bare hmore.endsSolid (hs.typed hmore) ho
  | unsupported _ hs hnone => exact .unsupported hmore.endsSolid (hs.typed hmore) hnone
  | member _ hs hscope =>
    rw [Option.map_some, Expression.typed, List.append_assoc]
    exact .member hmore.endsSolid (hs.typed hmore) hscope

lemma ofText_typed {text more : List Char} (h : GoesOn text more) :
    ofText (text ++ more) = (ofText text).map fun e => e.typed more :=
  ofText_of_parses ((parses_ofText text).typed h)

lemma Parses.selects {text : List Char} {e : Expression} (h : Parses text (some e)) :
    ∃ rest, Selects text rest e.selector := by
  cases h with
  | nothing => exact ⟨[], selects_none (by simp)⟩
  | @blank text c hc => exact ⟨text ++ [c], selects_none (by simpa using isWord_of_isSpace hc)⟩
  | bare _ hs _ => exact ⟨_, hs⟩
  | member _ hs _ => exact ⟨_, hs⟩

end EvalSession.Expression

import EvalSession.Proofs.Expression.Chain

/-!
# Parsing the expression left of a cursor

Main statement: what is read left of a cursor is what the grammar of expressions says of the text before it, and only
that (`parse_eq_iff`). `Parses` is that grammar: a selector, an operator in front of it, and the longest chain in front
of the operator.
-/
namespace EvalSession.Expression

/-- Where a text is cut at a position: a negative position counts from the end, and one beyond the text is its end. -/
def bound (code : List Char) (position : Int) : Nat :=
  (if position < 0 then code.length + position else position).toNat

def EndsSolid (text : List Char) : Prop := ∃ c, text.getLast? = some c ∧ Text.isSpace c = false

/-- The longest identifier that ends a text, empty if there is none, and the text in front of it. -/
structure Selects (text rest selector : List Char) : Prop where
  split : text = rest ++ selector
  ident : selector = [] ∨ Ident selector
  longest : ∀ t, Ident t → t <:+ text → t.length ≤ selector.length

/-- The expression that ends a text; `none` if it is unsupported. -/
inductive Parses : List Char → Option Expression → Prop
  | nothing : Parses [] (some {})
  | blank {text : List Char} {c : Char} : Text.isSpace c = true → Parses (text ++ [c]) (some {})
  | bare {text rest selector : List Char} : EndsSolid text → Selects text rest selector →
      (∀ access : Access, ¬ access.opening <:+ rest) →
        Parses text (some { matchedText := selector, selector := selector })
  | unsupported {text front selector : List Char} {access : Access} : EndsSolid text →
      Selects text (front ++ access.opening) selector → (∀ t, t <:+ front → ¬ Chain t) → Parses text none
  | member {text front scope selector : List Char} {access : Access} : EndsSolid text →
      Selects text (front ++ access.opening) selector → LongestSuffix Chain front scope →
        Parses text (some
          { matchedText := scope ++ access.opening ++ selector
            scope := scope
            access := some access
            selector := selector })

section Selector

variable {text rest rest' selector selector' t : List Char}

lemma Ident.isWord (h : Ident t) : ∀ c ∈ t, Text.isWord c = true := by
  obtain ⟨hc, hrest⟩ := h
  simpa [isWord_of_isIdentStart hc] using hrest

lemma Ident.ne_nil (h : Ident t) : t ≠ [] := by
  obtain ⟨-, -⟩ := h
  simp

lemma Ident.dropWhile (h : Ident t) : t.dropWhile (!Text.isIdentStart ·) = t := by
  obtain ⟨hc, -⟩ := h
  simp [hc]

lemma Selects.unique (h : Selects text rest selector) (h' : Selects text rest' selector') :
    rest = rest' ∧ selector = selector' := by
  have hle : ∀ {r r' s s'}, Selects text r s → Selects text r' s' → s.length ≤ s'.length := by
    intro r r' s s' h h'
    rcases h.ident with rfl | hs
    · exact Nat.zero_le _
    · exact h'.longest s hs ⟨r, h.split.symm⟩
  exact List.append_inj' (h.split.symm.trans h'.split) ((hle h h').antisymm (hle h' h))

/-- The selector is cut out of the text where it starts, -/
lemma Selects.span (h : Selects text rest selector) : text.drop rest.length = selector := by
  rw [h.split, List.drop_left]

/-- and so is what is read from the start of the scope on. -/
lemma Selects.span_scope {front scope opening : List Char} (h : Selects text (front ++ opening) selector)
    (hscope : scope <:+ front) : text.drop (front.length - scope.length) = scope ++ opening ++ selector := by
  obtain ⟨lead, rfl⟩ := hscope
  have hlead : (lead ++ scope).length - scope.length = lead.length := by
    rw [List.length_append, Nat.add_sub_cancel]
  have htext : text = lead ++ (scope ++ opening ++ selector) := by
    rw [h.split, List.append_assoc, List.append_assoc, List.append_assoc]
  rw [hlead, htext, List.drop_left]

lemma suffix_rtakeWhile {α : Type} {p : α → Bool} {l t : List α} (ht : t <:+ l) (hp : ∀ a ∈ t, p a = true) :
    t <:+ l.rtakeWhile p := by
  obtain ⟨u, rfl⟩ := ht
  rw [List.rtakeWhile, List.reverse_append, List.takeWhile_append_of_pos (by simpa using hp), List.reverse_append,
    List.reverse_reverse]
  exact List.suffix_append _ _

lemma suffix_dropWhile {α : Type} {p : α → Bool} {l t : List α} (ht : t <:+ l) (hp : t.dropWhile p = t) :
    t <:+ l.dropWhile p := by
  obtain ⟨u, rfl⟩ := ht
  rw [List.dropWhile_append]
  split
  · rw [hp]
  · exact List.suffix_append _ _

lemma splitIdent_snd (text : List Char) :
    (splitIdent text).2 = (text.rtakeWhile Text.isWord).dropWhile (!Text.isIdentStart ·) := rfl

theorem selects_splitIdent (text : List Char) : Selects text (splitIdent text).1 (splitIdent text).2 := by
  have hword : (splitIdent text).2 <:+ text.rtakeWhile Text.isWord := List.dropWhile_suffix _
  have hsuffix : (splitIdent text).2 <:+ text := hword.trans (List.rtakeWhile_suffix _ _)
  constructor
  · exact (List.suffix_iff_eq_append.mp hsuffix).symm
  · cases hident : (splitIdent text).2 with
    | nil => exact .inl rfl
    | cons c ident =>
      have hc : Text.isIdentStart c = true := by
        have := List.head?_dropWhile_not (!Text.isIdentStart ·) (text.rtakeWhile Text.isWord)
        rw [← splitIdent_snd, hident] at this
        simpa using this
      refine .inr (.mk hc fun d hd => ?_)
      exact List.mem_rtakeWhile_imp (hword.subset (hident ▸ List.mem_cons_of_mem _ hd))
  · intro t ht hsub
    exact (suffix_dropWhile (suffix_rtakeWhile hsub ht.isWord) ht.dropWhile).length_le

end Selector

section Operator

variable {s front : List Char} {access : Access}

@[simp] lemma splitAccess_append (front : List Char) (access : Access) :
    splitAccess (front ++ access.opening) = some (front, access) := by
  cases access <;> simp [splitAccess, Access.opening]

lemma eq_append_of_splitAccess (h : splitAccess s = some (front, access)) : s = front ++ access.opening := by
  unfold splitAccess at h
  rw [← List.reverse_inj]
  split at h <;> simp_all [Access.opening]
  all_goals
    obtain ⟨rfl, rfl⟩ := h
    simp

lemma splitAccess_eq_none : splitAccess s = none ↔ ∀ access : Access, ¬ access.opening <:+ s := by
  constructor
  · rintro h access ⟨front, rfl⟩
    simp at h
  · intro h
    cases hs : splitAccess s with
    | none => rfl
    | some split => exact (h split.2 ⟨split.1, (eq_append_of_splitAccess hs).symm⟩).elim

end Operator

section Solid

variable {text rest front selector : List Char} {access : Access}

lemma ofText_bare (hsolid : EndsSolid text) (hs : Selects text rest selector) (ho : splitAccess rest = none) :
    ofText text = some { matchedText := selector, selector := selector } := by
  obtain ⟨c, hlast, hc⟩ := hsolid
  obtain ⟨rfl, rfl⟩ := (selects_splitIdent text).unique hs
  have hspan : text.drop (splitIdent text).1.length = (splitIdent text).2 := by
    rw [(selects_splitIdent text).span]
  simp [ofText, hlast, hc, ho, hspan]

lemma ofText_member (hsolid : EndsSolid text) (hs : Selects text (front ++ access.opening) selector) :
    ofText text = (longestChain front).map fun scope =>
      { matchedText := scope ++ access.opening ++ selector
        scope := scope
        access := some access
        selector := selector } := by
  obtain ⟨c, hlast, hc⟩ := hsolid
  obtain ⟨hrest, rfl⟩ := (selects_splitIdent text).unique hs
  simp only [ofText, hlast, hc, hrest, splitAccess_append, Bool.false_eq_true, if_false]
  refine Option.map_congr fun scope hscope => ?_
  rw [hs.span_scope (longestChain_eq_some.mp hscope).2.1]

end Solid

theorem ofText_of_parses {text : List Char} {r : Option Expression} (h : Parses text r) : ofText text = r := by
  cases h with
  | nothing => rfl
  | blank hc => simp [ofText, hc]
  | bare hsolid hs ho => exact ofText_bare hsolid hs (splitAccess_eq_none.mpr ho)
  | unsupported hsolid hs hnone => rw [ofText_member hsolid hs, longestChain_eq_none.mpr hnone, Option.map_none]
  | member hsolid hs hscope => rw [ofText_member hsolid hs, longestChain_eq_some.mpr hscope, Option.map_some]

theorem parses_ofText (text : List Char) : Parses text (ofText text) := by
  rcases List.eq_nil_or_concat text with rfl | ⟨front, c, htext⟩
  · exact .nothing
  rw [List.concat_eq_append] at htext
  by_cases hc : Text.isSpace c = true
  · subst htext
    simpa [ofText, hc] using (Parses.blank hc : Parses (front ++ [c]) (some {}))
  have hsolid : EndsSolid text := ⟨c, by simp [htext], by simpa using hc⟩
  have hs := selects_splitIdent text
  cases hsplit : splitAccess (splitIdent text).1 with
  | none =>
    rw [ofText_bare hsolid hs hsplit]
    exact .bare hsolid hs (splitAccess_eq_none.mp hsplit)
  | some split =>
    rw [eq_append_of_splitAccess hsplit] at hs
    rw [ofText_member hsolid hs]
    cases hchain : longestChain split.1 with
    | none => exact .unsupported hsolid hs (longestChain_eq_none.mp hchain)
    | some scope => exact .member hsolid hs (longestChain_eq_some.mp hchain)

lemma before_eq_take (code : List Char) (position : Int) : before code position = code.take (bound code position) := by
  unfold before bound
  split
  · rw [if_neg (by omega)]
  · rw [if_pos (by omega)]
    congr 1
    omega

lemma parse_append (text rest : List Char) : parse (text ++ rest) text.length = ofText text := by
  simp [parse, before]

lemma parse_length (text : List Char) : parse text text.length = ofText text := by
  simp [parse, before]

/-- The expression left of a cursor is the one that the grammar reads off the end of the text before it. -/
theorem parse_eq_iff (code : List Char) (cursor : Int) (r : Option Expression) :
    parse code cursor = r ↔ Parses (code.take (bound code cursor)) r := by
  rw [parse, before_eq_take]
  exact ⟨fun h => h ▸ parses_ofText _, ofText_of_parses⟩

example : parse "a.b[\"c\"].d".toList (-1) = some
    { matchedText := "a.b[\"c\"].".toList, scope := "a.b[\"c\"]".toList, access := some .attribute } := by
  decide +kernel

section Scope

variable {s t : List Char}

/-- A text that ends, unless it is empty, in a word character or with a bracket that closes a subscript. -/
def EndsClosed (s : List Char) : Prop := ∀ c ∈ s.getLast?, Text.isWord c = true ∨ c = ']'

lemma EndsClosed.append (hs : EndsClosed s) (ht : EndsClosed t) : EndsClosed (s ++ t) := by
  intro c hc
  rw [List.getLast?_append, Option.mem_def, Option.or_eq_some_iff] at hc
  exact hc.elim (ht c) fun h => hs c h.2

lemma Ident.endsClosed (h : Ident s) : EndsClosed s := fun c hc => .inl (h.isWord c (List.mem_of_getLast? hc))

lemma endsClosed_subscript (s : List Char) (quote : Char) : EndsClosed (s ++ [quote, ']']) := by
  intro c hc
  have hlast : ']' = c := by simpa [List.getLast?_append] using hc
  exact .inr hlast.symm

lemma Segment.endsClosed (h : Segment s) : EndsClosed s := by
  rcases h with hname | _ | _
  · intro c hc
    obtain ⟨d, rest, rfl⟩ := List.exists_cons_of_ne_nil hname.ne_nil
    rw [List.getLast?_cons_cons] at hc
    exact hname.endsClosed c hc
  · exact endsClosed_subscript ('[' :: '"' :: _) '"'
  · exact endsClosed_subscript ('[' :: '\'' :: _) '\''

lemma Segments.endsClosed (h : Segments s) : EndsClosed s := by
  induction h with
  | nil => simp [EndsClosed]
  | cons hfirst _ ih => exact hfirst.endsClosed.append ih

lemma Chain.endsClosed (h : Chain s) : EndsClosed s := by
  obtain ⟨hname, hrest⟩ := h
  exact hname.endsClosed.append hrest.endsClosed

lemma scope_endsClosed {code : List Char} {cursor : Int} {e : Expression} (h : parse code cursor = some e) :
    EndsClosed e.scope := by
  have hparses := (parse_eq_iff code cursor (some e)).mp h
  generalize code.take (bound code cursor) = text at hparses
  cases hparses with
  | nothing | blank | bare => simp [EndsClosed]
  | member _ _ hscope => exact hscope.1.endsClosed

end Scope

end EvalSession.Expression

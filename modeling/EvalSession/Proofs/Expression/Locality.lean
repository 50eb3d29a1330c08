import EvalSession.Proofs.Expression.Plain

/-!
# The current line

What is read left of a cursor stands on the line of the cursor. Main statement: the matched text is the source from the
start of the scope to the cursor, on one line, and two texts with the same last line are read alike (`parse_local`). The
grammar is what makes it so: no identifier, no operator and no chain has a line end in it.
-/
namespace EvalSession.Expression

section Lines

variable {front line text rest selector scope t : List Char}

/-- What has no line end in it ends a text if it ends the last line. -/
lemma suffix_line (ht : '\n' ∉ t) : t <:+ front ++ '\n' :: line ↔ t <:+ line := by
  have hline : line <:+ front ++ '\n' :: line := ⟨front ++ ['\n'], by simp⟩
  constructor
  · intro h
    rcases Nat.lt_or_ge line.length t.length with hlt | hge
    · -- it would reach over the line end
      have hover : '\n' :: line <:+ t := List.suffix_of_suffix_length_le (List.suffix_append ..) h hlt
      exact absurd (hover.subset (List.mem_cons_self ..)) ht
    · exact List.suffix_of_suffix_length_le h hline hge
  · exact fun h => h.trans hline

lemma Ident.newline_not_mem (h : Ident t) : '\n' ∉ t := h.not_mem (by decide)

lemma Access.newline_not_mem (access : Access) : '\n' ∉ access.opening := by
  cases access <;> decide

lemma EndsSolid.behind (h : EndsSolid line) : EndsSolid (front ++ '\n' :: line) := by
  obtain ⟨c, hlast, hc⟩ := h
  exact ⟨c, by simp [List.getLast?_append, List.getLast?_cons, hlast], hc⟩

lemma Selects.behind (h : Selects line rest selector) : Selects (front ++ '\n' :: line) (front ++ '\n' :: rest) selector where
  split := by rw [h.split, List.append_assoc, List.cons_append]
  ident := h.ident
  longest := fun t ht hsub => h.longest t ht ((suffix_line ht.newline_not_mem).mp hsub)

lemma LongestSuffix.behind (h : LongestSuffix Chain line scope) : LongestSuffix Chain (front ++ '\n' :: line) scope := by
  obtain ⟨hchain, hsub, hmax⟩ := h
  refine ⟨hchain, (suffix_line hchain.newline_not_mem).mpr hsub, fun t ht hsub' => ?_⟩
  exact hmax t ht ((suffix_line ht.newline_not_mem).mp hsub')

lemma Parses.behind {r : Option Expression} (front : List Char) (h : Parses line r) : Parses (front ++ '\n' :: line) r := by
  cases h with
  | nothing => exact .blank (by decide)
  | @blank text c hc =>
    rw [← List.cons_append, ← List.append_assoc]
    exact .blank hc
  | bare hsolid hs ho =>
    refine .bare hsolid.behind hs.behind fun access h => ho access ?_
    exact (suffix_line (Access.newline_not_mem access)).mp h
  | @unsupported _ before selector access hsolid hs hnone =>
    have hs' : Selects (front ++ '\n' :: line) (front ++ '\n' :: (before ++ access.opening)) selector := hs.behind
    rw [← List.cons_append, ← List.append_assoc] at hs'
    exact .unsupported hsolid.behind hs' fun t hsub ht => hnone t ((suffix_line ht.newline_not_mem).mp hsub) ht
  | @member _ before scope selector access hsolid hs hscope =>
    have hs' : Selects (front ++ '\n' :: line) (front ++ '\n' :: (before ++ access.opening)) selector := hs.behind
    rw [← List.cons_append, ← List.append_assoc] at hs'
    exact .member hsolid.behind hs' hscope.behind

lemma ofText_behind (front line : List Char) : ofText (front ++ '\n' :: line) = ofText line :=
  ofText_of_parses ((parses_ofText line).behind front)

lemma eq_lastLine (text : List Char) : text = lastLine text ∨ ∃ front, text = front ++ '\n' :: lastLine text := by
  have hsplit : text.rdropWhile (· != '\n') ++ lastLine text = text := List.rdropWhile_append_rtakeWhile ..
  rcases List.eq_nil_or_concat (text.rdropWhile (· != '\n')) with hnil | ⟨front, c, hfront⟩
  · rw [hnil] at hsplit
    exact .inl hsplit.symm
  · have hc := List.rdropWhile_last_not (· != '\n') text (by simp [hfront])
    simp only [hfront, List.concat_eq_append, List.getLast_append_singleton, bne_iff_ne, ne_eq, Decidable.not_not] at hc
    subst hc
    rw [hfront, List.concat_eq_append, List.append_assoc] at hsplit
    exact .inr ⟨front, hsplit.symm⟩

lemma ofText_lastLine (text : List Char) : ofText text = ofText (lastLine text) := by
  rcases eq_lastLine text with h | ⟨front, h⟩
  · rw [← h]
  · conv_lhs => rw [h]
    exact ofText_behind front _

end Lines

lemma Parses.span {text : List Char} {e : Expression} (h : Parses text (some e)) (hsolid : EndsSolid text) :
    e.matchedText = e.scope ++ e.leftOp ++ e.selector ∧ e.matchedText <:+ text ∧ '\n' ∉ e.matchedText ∧
      (e.leftOp = [] ↔ e.scope = []) := by
  have hword : ∀ {text rest selector}, Selects text rest selector → '\n' ∉ selector := by
    intro text rest selector hs
    rcases hs.ident with rfl | hident
    · exact List.not_mem_nil
    · exact hident.newline_not_mem
  cases h with
  | nothing =>
    obtain ⟨c, hlast, -⟩ := hsolid
    cases hlast
  | blank hc =>
    obtain ⟨d, hlast, hd⟩ := hsolid
    obtain rfl : _ = d := by simpa using hlast
    rw [hd] at hc
    cases hc
  | bare _ hs _ => exact ⟨rfl, ⟨_, hs.split.symm⟩, hword hs, by simp [leftOp]⟩
  | @member _ front scope selector access _ hs hscope =>
    obtain ⟨hchain, ⟨lead, rfl⟩, -⟩ := hscope
    have hleft : leftOp ⟨scope ++ access.opening ++ selector, scope, some access, selector⟩ = access.opening := rfl
    refine ⟨by rw [hleft], ⟨lead, by rw [hs.split]; simp⟩, ?_, ?_⟩
    · simp only [List.mem_append, not_or]
      exact ⟨⟨hchain.newline_not_mem, Access.newline_not_mem access⟩, hword hs⟩
    · have hopening : access.opening ≠ [] := by cases access <;> simp [Access.opening]
      have hne : scope ≠ [] := fun h => not_chain_nil (h ▸ hchain)
      rw [hleft]
      exact iff_of_false hopening hne

/-- What is matched left of a cursor is the source from the scope to the cursor, on the line of the cursor; what stands on
earlier lines and behind the cursor makes no difference, not even whether there is an expression. -/
theorem parse_local (code : List Char) (cursor : Int) :
    (∀ e, parse code cursor = some e → EndsSolid (code.take (bound code cursor)) →
      e.matchedText = e.scope ++ e.leftOp ++ e.selector ∧ e.matchedText <:+ code.take (bound code cursor) ∧
        '\n' ∉ e.matchedText ∧ (e.leftOp = [] ↔ e.scope = [])) ∧
    (∀ code' cursor', lastLine (code.take (bound code cursor)) = lastLine (code'.take (bound code' cursor')) →
      parse code cursor = parse code' cursor') ∧
    ∀ front line rest, front.getLast? = some '\n' →
      parse (front ++ line ++ rest) (front ++ line).length = parse line line.length := by
  refine ⟨fun e he hsolid => ((parse_eq_iff code cursor _).mp he).span hsolid, fun code' cursor' hline => ?_,
    fun front line rest hfront => ?_⟩
  · rw [parse, before_eq_take, ofText_lastLine, hline, ← ofText_lastLine, ← before_eq_take, ← parse]
  · obtain ⟨front, rfl⟩ := List.getLast?_eq_some_iff.mp hfront
    rw [parse_append, parse_length, List.append_assoc, List.singleton_append, ofText_behind]

/-- A scope on the second line, and a cursor that is counted from the end. -/
theorem secondLine_local :
    ∃ e, parse "import a.\nb[\"k\"].name + 1".toList (-4) = some e ∧
      EndsSolid ("import a.\nb[\"k\"].name + 1".toList.take (bound "import a.\nb[\"k\"].name + 1".toList (-4))) ∧
      e.matchedText = e.scope ++ e.leftOp ++ e.selector ∧ '\n' ∉ e.matchedText ∧ e.scope = "b[\"k\"]".toList ∧
      parse ("import a.\n".toList ++ "b[\"k\"].name".toList ++ " + 1".toList) 21 = some e ∧
      parse "b[\"k\"].name".toList 11 = some e := by
  have hparse : parse "import a.\nb[\"k\"].name + 1".toList (-4) = some
      ⟨"b[\"k\"].name".toList, "b[\"k\"]".toList, some .attribute, "name".toList⟩ := by decide +kernel
  have hsolid : EndsSolid ("import a.\nb[\"k\"].name + 1".toList.take (bound "import a.\nb[\"k\"].name + 1".toList (-4))) :=
    ⟨'e', by decide +kernel, by decide⟩
  obtain ⟨hspan, hsame, hline⟩ := parse_local "import a.\nb[\"k\"].name + 1".toList (-4)
  obtain ⟨hmatched, -, hnewline, -⟩ := hspan _ hparse hsolid
  have hshort := hline "import a.\n".toList "b[\"k\"].name".toList " + 1".toList (by decide)
  have hlong := hsame ("import a.\n".toList ++ "b[\"k\"].name".toList ++ " + 1".toList) 21 (by decide +kernel)
  exact ⟨_, hparse, hsolid, hmatched, hnewline, rfl, hlong.symm.trans hparse,
    hshort.symm.trans (hlong.symm.trans hparse)⟩

end EvalSession.Expression

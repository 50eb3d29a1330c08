import EvalSession.Proofs.Expression.Parsing

/-!
# Plain scopes

A scope is plain if outside its quoted subscripts it is made of identifiers and dots. Main statement: the scope that is
read is the longest chain in front of the operator, and it is plain wherever the subscripts on its line belong together.
Where they do not, a quoted text may reach over what stands between two subscripts, calls included.
-/
namespace EvalSession.Expression

/-- A segment whose quoted text, if it has one, does not hold the closer of its subscript. -/
def Segment.Plain (s : List Char) : Prop :=
  Segment s ∧ ∀ quote text, s = '[' :: quote :: (text ++ [quote, ']']) → ¬ [quote, ']'] <:+: text

def PlainChain (s : List Char) : Prop :=
  ∃ (name : List Char) (segments : List (List Char)),
    Ident name ∧ (∀ g ∈ segments, Segment.Plain g) ∧ s = name ++ segments.flatten

def Unopened (s : List Char) : Prop := ∀ quote, quote = '"' ∨ quote = '\'' → ¬ ['[', quote] <:+: s

/-- No two subscripts of a kind are closed in the text. -/
def ClosedOnce (s : List Char) : Prop :=
  ∀ quote, quote = '"' ∨ quote = '\'' → ∀ u v w, s ≠ u ++ quote :: ']' :: (v ++ quote :: ']' :: w)

/-- No two subscripts of a kind are closed on the line, or all that are opened belong to a plain chain that ends it. -/
def Unmixed (line : List Char) : Prop :=
  ClosedOnce line ∨ ∃ front chain, line = front ++ chain ∧ PlainChain chain ∧ Unopened front

def lastLine (text : List Char) : List Char := text.rtakeWhile (· != '\n')

section Segments

variable {s g : List Char} {gs : List (List Char)}

lemma segments_flatten (h : ∀ g ∈ gs, Segment g) : Segments gs.flatten := by
  induction gs with
  | nil => exact .nil
  | cons g gs ih => exact .cons (h g (by simp)) (ih fun g' hg' => h g' (by simp [hg']))

lemma Segments.split (h : Segments s) : ∃ gs : List (List Char), (∀ g ∈ gs, Segment g) ∧ s = gs.flatten := by
  induction h with
  | nil => exact ⟨[], by simp, rfl⟩
  | cons hfirst _ ih =>
    obtain ⟨gs, hgs, rfl⟩ := ih
    exact ⟨_ :: gs, by simpa [hfirst] using hgs, rfl⟩

lemma Chain.split (h : Chain s) : ∃ (name : List Char) (gs : List (List Char)),
    Ident name ∧ (∀ g ∈ gs, Segment g) ∧ s = name ++ gs.flatten := by
  obtain ⟨hname, hrest⟩ := h
  obtain ⟨gs, hgs, rfl⟩ := hrest.split
  exact ⟨_, gs, hname, hgs, rfl⟩

lemma PlainChain.chain (h : PlainChain s) : Chain s := by
  obtain ⟨name, gs, hname, hgs, rfl⟩ := h
  exact .mk hname (segments_flatten fun g hg => (hgs g hg).1)

lemma isWord_ne {c d : Char} (h : Text.isWord c = true) (hd : Text.isWord d = false) : c ≠ d := by
  rintro rfl
  simp [h] at hd

lemma Ident.not_mem (h : Ident s) {d : Char} (hd : Text.isWord d = false) : d ∉ s :=
  fun hm => isWord_ne (h.isWord d hm) hd rfl

lemma Segment.newline_not_mem (h : Segment s) : '\n' ∉ s := by
  rcases h with hname | htext | htext
  · simpa using hname.not_mem (d := '\n') (by decide)
  · simpa using htext
  · simpa using htext

lemma Chain.newline_not_mem (h : Chain s) : '\n' ∉ s := by
  obtain ⟨name, gs, hname, hgs, rfl⟩ := h.split
  simp only [List.mem_append, List.mem_flatten, not_or, not_exists, not_and]
  exact ⟨hname.not_mem (by decide), fun g hg => (hgs g hg).newline_not_mem⟩

/-- A chain does not reach over the start of a line. -/
lemma longestSuffix_lastLine {text : List Char} (h : LongestSuffix Chain text s) :
    LongestSuffix Chain (lastLine text) s := by
  obtain ⟨hs, hsub, hmax⟩ := h
  refine ⟨hs, suffix_rtakeWhile hsub fun c hc => ?_, fun t ht hsub' => hmax t ht (hsub'.trans (List.rtakeWhile_suffix ..))⟩
  simpa using fun h : c = '\n' => hs.newline_not_mem (h ▸ hc)

lemma Segment.bracket (h : Segment g) : '[' ∉ g ∨ ∃ quote rest, (quote = '"' ∨ quote = '\'') ∧ g = '[' :: quote :: rest := by
  rcases h with hname | - | -
  · exact .inl (by simpa using hname.not_mem (d := '[') (by decide))
  · exact .inr ⟨'"', _, .inl rfl, rfl⟩
  · exact .inr ⟨'\'', _, .inr rfl, rfl⟩

lemma Segment.plain_of_bracket (h : Segment g) (hb : '[' ∉ g) : Segment.Plain g :=
  ⟨h, fun quote text hg => by simp [hg] at hb⟩

end Segments

/-- Where no kind of subscript is closed twice, no quoted text holds the closer of its subscript. -/
lemma Chain.plain_of_single {s : List Char} (hs : Chain s) (h : ClosedOnce s) : PlainChain s := by
  obtain ⟨name, gs, hname, hgs, rfl⟩ := hs.split
  refine ⟨name, gs, hname, fun g hg => ⟨hgs g hg, ?_⟩, rfl⟩
  rintro quote text rfl ⟨a, b, rfl⟩
  have hquote : quote = '"' ∨ quote = '\'' := by
    rcases (hgs _ hg).bracket with hnone | ⟨quote', rest, hquote, heq⟩
    · simp at hnone
    · have hsame : quote = quote' := (List.cons.inj (List.cons.inj heq).2).1
      exact hsame ▸ hquote
  obtain ⟨older, newer, rfl⟩ := List.append_of_mem hg
  exact h quote hquote (name ++ older.flatten ++ '[' :: quote :: a) b newer.flatten (by simp)

section Brackets

variable {s front chain name : List Char} {gs : List (List Char)}

lemma split_bracket (hname : Ident name) (hgs : ∀ g ∈ gs, Segment g) :
    ∃ dots rest, gs = dots ++ rest ∧ (∀ g ∈ dots, '[' ∉ g) ∧ '[' ∉ name ++ dots.flatten ∧
      (rest.flatten = [] ∨ ∃ quote more, (quote = '"' ∨ quote = '\'') ∧ rest.flatten = '[' :: quote :: more) := by
  have hdots : ∀ g ∈ gs.takeWhile (fun g => decide ('[' ∉ g)), '[' ∉ g := fun g hg => by
    simpa using List.mem_takeWhile_imp hg
  refine ⟨_, _, List.takeWhile_append_dropWhile.symm, hdots, ?_, ?_⟩
  · simp only [List.mem_append, List.mem_flatten, not_or, not_exists, not_and]
    exact ⟨hname.not_mem (by decide), hdots⟩
  · cases hrest : gs.dropWhile (fun g => decide ('[' ∉ g)) with
    | nil => exact .inl rfl
    | cons g rest =>
      have hg : g ∈ gs := (List.dropWhile_suffix _).subset (hrest ▸ List.mem_cons_self ..)
      have hb := List.head?_dropWhile_not (fun g => decide ('[' ∉ g)) gs
      simp only [hrest, List.head?_cons] at hb
      obtain ⟨quote, more, hquote, rfl⟩ := (hgs g hg).bracket.resolve_left (by simpa using hb)
      exact .inr ⟨quote, more ++ rest.flatten, hquote, rfl⟩

lemma cut_bracket {a b c d : List Char} (h : a ++ b = c ++ d) (ha : '[' ∉ a) (hc : '[' ∉ c)
    (hb : b = [] ∨ ∃ b', b = '[' :: b') (hd : d = [] ∨ ∃ d', d = '[' :: d') : a = c ∧ b = d := by
  have htake : ∀ {x y : List Char}, '[' ∉ x → (y = [] ∨ ∃ y', y = '[' :: y') →
      (x ++ y).takeWhile (· != '[') = x := by
    intro x y hx hy
    have hall : ∀ z ∈ x, (z != '[') = true := by
      rintro z hz
      simpa using fun h : z = '[' => hx (h ▸ hz)
    rw [List.takeWhile_append_of_pos hall]
    rcases hy with rfl | ⟨y', rfl⟩ <;> simp
  obtain rfl : a = c := by rw [← htake ha hb, h, htake hc hd]
  exact ⟨rfl, List.append_cancel_left h⟩

lemma Chain.plain_of_unopened (hs : Chain (front ++ chain)) (hchain : PlainChain chain) (hf : Unopened front) :
    PlainChain (front ++ chain) := by
  generalize hsum : front ++ chain = s at hs
  obtain ⟨name, gs, hname, hgs, rfl⟩ := hs.split
  obtain ⟨name', gs', hname', hgs', rfl⟩ := hchain
  obtain ⟨dots, rest, rfl, hdots, hout, hrest⟩ := split_bracket hname hgs
  obtain ⟨dots', rest', rfl, -, hout', hrest'⟩ := split_bracket hname' fun g hg => (hgs' g hg).1
  have hopens : ∀ {r : List Char}, (r = [] ∨ ∃ quote more, (quote = '"' ∨ quote = '\'') ∧ r = '[' :: quote :: more) →
      r = [] ∨ ∃ r', r = '[' :: r' := by
    rintro r (rfl | ⟨quote, more, -, rfl⟩)
    · exact .inl rfl
    · exact .inr ⟨_, rfl⟩
  -- the first bracket of the whole would open a subscript in front of the plain chain
  have hfront : '[' ∉ front := by
    intro hmem
    obtain ⟨a, b, rfl, ha⟩ := List.eq_append_cons_of_mem hmem
    obtain ⟨-, htail⟩ := cut_bracket (a := a) (b := '[' :: (b ++ (name' ++ (dots' ++ rest').flatten)))
      (by simpa using hsum) ha hout (.inr ⟨_, rfl⟩) (hopens hrest)
    obtain hnone | ⟨quote, more, hquote, hmore⟩ := hrest
    · simp [hnone] at htail
    rw [hmore, List.cons.injEq] at htail
    cases b with
    | nil =>
      obtain ⟨hc, -⟩ := hname'
      obtain ⟨rfl, -⟩ := List.cons.inj htail.2
      rcases hquote with rfl | rfl <;> simp [Text.isIdentStart, Text.isWord] at hc
    | cons d b =>
      obtain ⟨rfl, -⟩ := List.cons.inj htail.2
      exact hf d hquote ⟨a, b, by simp⟩
  obtain ⟨-, htail⟩ := cut_bracket (a := front ++ (name' ++ dots'.flatten)) (c := name ++ dots.flatten)
    (by simpa using hsum) (by simp_all) hout (hopens hrest') (hopens hrest)
  refine ⟨name, dots ++ rest', hname, fun g hg => ?_, ?_⟩
  · rcases List.mem_append.mp hg with hg | hg
    · exact (hgs g (by simp [hg])).plain_of_bracket (hdots g hg)
    · exact hgs' g (by simp [hg])
  · simp [htail]

lemma PlainChain.goes_on {quote : Char} (word text : List Char) (c : Char) (rest : List Char) (hw : '[' ∉ word)
    (ht : ']' ∉ text) (hq : quote ≠ ']') (h : PlainChain (word ++ '[' :: quote :: (text ++ quote :: ']' :: c :: rest))) :
    c = '.' ∨ c = '[' := by
  obtain ⟨name, gs, hname, hgs, hsum⟩ := h
  obtain ⟨dots, subscripts, rfl, -, hout, hopens⟩ := split_bracket hname fun g hg => (hgs g hg).1
  obtain ⟨-, htail⟩ := cut_bracket (a := word) (c := name ++ dots.flatten) (d := subscripts.flatten)
    (by simpa using hsum) hw hout (.inr ⟨_, rfl⟩) (by
      rcases hopens with h | ⟨quote, more, -, h⟩
      · exact .inl h
      · exact .inr ⟨_, h⟩)
  cases subscripts with
  | nil => simp at htail
  | cons g more =>
    have hmore : ∀ g' ∈ more, Segment g' := fun g' hg' => (hgs g' (by simp [hg'])).1
    obtain ⟨hg, hplain⟩ := hgs g (by simp)
    have hquoted : ∃ quote text, g = '[' :: quote :: (text ++ [quote, ']']) := by
      rcases hg with hname' | htext | htext
      · simp at htail
      · exact ⟨_, _, rfl⟩
      · exact ⟨_, _, rfl⟩
    obtain ⟨quote', text', rfl⟩ := hquoted
    obtain ⟨rfl, htail⟩ : quote = quote' ∧ text ++ quote :: ']' :: c :: rest =
        text' ++ quote' :: ']' :: more.flatten := by simpa using htail
    have hsame : c :: rest = more.flatten := by
      rcases List.append_eq_append_iff.mp htail with ⟨between, rfl, heq⟩ | ⟨between, rfl, heq⟩
      · match between with
        | [] => simpa using heq
        | [d] =>
          simp only [List.cons_append, List.nil_append, List.cons.injEq] at heq
          exact (hq heq.2.1.symm).elim
        | d :: d' :: between =>
          obtain ⟨rfl, rfl, -⟩ : quote = d ∧ ']' = d' ∧ c :: rest = between ++ quote :: ']' :: more.flatten := by
            simpa using heq
          exact (hplain quote _ rfl ⟨text, between, by simp⟩).elim
      · match between with
        | [] => simpa using heq.symm
        | [d] => simp_all
        | d :: d' :: between => simp_all
    have hseg := segments_cons.mp (hsame ▸ segments_flatten hmore)
    rcases hseg with ⟨rfl, -⟩ | ⟨rfl, -⟩
    · exact .inl rfl
    · exact .inr rfl

end Brackets

lemma plain_of_unmixed {text scope : List Char} (h : LongestSuffix Chain text scope) (hline : Unmixed (lastLine text)) :
    PlainChain scope := by
  obtain ⟨hs, hsub, hmax⟩ := longestSuffix_lastLine h
  rcases hline with hsingle | ⟨front, chain, hline, hchain, hfront⟩
  · refine hs.plain_of_single fun quote hquote u v w heq => ?_
    obtain ⟨r, hr⟩ := hsub
    exact hsingle quote hquote (r ++ u) v w (by rw [← hr, heq]; simp)
  · -- the longest chain holds the plain one, and some of what stands in front of it
    rw [hline] at hsub hmax
    obtain ⟨reach, rfl⟩ := List.suffix_of_suffix_length_le (List.suffix_append front chain) hsub
      (hmax chain hchain.chain (List.suffix_append ..))
    refine hs.plain_of_unopened hchain fun quote hq hopen => hfront quote hq (hopen.trans ?_)
    obtain ⟨r, hr⟩ := hsub
    exact ⟨r, [], by simpa using List.append_cancel_right ((List.append_assoc ..).trans hr)⟩

/-- The scope that is read is the longest chain in front of the operator; where the subscripts on its line belong
together, nothing but identifiers and dots stands outside its subscripts. -/
theorem scope_plain {code : List Char} {cursor : Int} {e : Expression} (h : parse code cursor = some e)
    (hs : e.scope ≠ []) :
    ∃ front, code.take (bound code cursor) = front ++ e.leftOp ++ e.selector ∧ LongestSuffix Chain front e.scope ∧
      (Unmixed (lastLine front) → PlainChain e.scope) := by
  rw [parse, before_eq_take] at h
  have hparses := parses_ofText (code.take (bound code cursor))
  generalize htext : code.take (bound code cursor) = text at h hparses ⊢
  rw [h] at hparses
  cases hparses with
  | nothing | blank | bare => simp at hs
  | @member _ front scope selector access _ hselects hscope =>
    refine ⟨front, hselects.split, hscope, plain_of_unmixed hscope⟩

/-- Two keys of one chain, which a plain chain in front of the operator holds. -/
theorem twoKeys_plain :
    ∃ e, parse "y = b[\"k\"].c[\"m\"].n".toList 19 = some e ∧ e.scope ≠ [] ∧
      Unmixed (lastLine "y = b[\"k\"].c[\"m\"]".toList) ∧ PlainChain e.scope := by
  have hparse : parse "y = b[\"k\"].c[\"m\"].n".toList 19 = some
      ⟨"b[\"k\"].c[\"m\"].n".toList, "b[\"k\"].c[\"m\"]".toList, some .attribute, "n".toList⟩ := by decide +kernel
  obtain ⟨front, htext, -, hplain⟩ := scope_plain hparse (by decide)
  obtain rfl : "y = b[\"k\"].c[\"m\"]".toList = front := by
    have hshape : "y = b[\"k\"].c[\"m\"]".toList ++ ".n".toList = front ++ ".n".toList :=
      htext.trans (List.append_assoc ..)
    exact List.append_cancel_right hshape
  have hname : ∀ c, Text.isIdentStart c = true → Ident [c] := fun c hc => .mk hc (by simp)
  have hkey : ∀ c, c ≠ '\n' → Segment.Plain ['[', '"', c, '"', ']'] := fun c hc => by
    refine ⟨Segment.doubleQuoted (show '\n' ∉ [c] by simpa using hc.symm), fun quote text htext hclosed => ?_⟩
    have hlen := congrArg List.length htext
    have hle := hclosed.length_le
    simp only [List.length_cons, List.length_append, List.length_nil] at hlen hle
    omega
  have hdot : Segment.Plain ['.', 'c'] :=
    (Segment.attribute (hname 'c' (by decide))).plain_of_bracket (by decide)
  have hchain : PlainChain "b[\"k\"].c[\"m\"]".toList := by
    refine ⟨['b'], [['[', '"', 'k', '"', ']'], ['.', 'c'], ['[', '"', 'm', '"', ']']], hname 'b' (by decide), ?_, rfl⟩
    simp [hkey, hdot]
  have hline : Unmixed (lastLine "y = b[\"k\"].c[\"m\"]".toList) := by
    refine .inr ⟨"y = ".toList, _, rfl, hchain, ?_⟩
    rintro quote (rfl | rfl) <;> decide
  exact ⟨_, hparse, by decide, hline, hplain hline⟩

/-- A call between two subscripts becomes part of the quoted text that joins them, and of the scope. -/
theorem joined_not_plain :
    ∃ e, parse "a[\"x\"] + f() + b[\"y\"].z".toList 23 = some e ∧ e.scope = "a[\"x\"] + f() + b[\"y\"]".toList ∧
      ¬ PlainChain e.scope := by
  refine ⟨⟨"a[\"x\"] + f() + b[\"y\"].z".toList, "a[\"x\"] + f() + b[\"y\"]".toList, some .attribute, "z".toList⟩,
    by decide +kernel, rfl, fun h => ?_⟩
  have := PlainChain.goes_on ['a'] ['x'] ' ' "+ f() + b[\"y\"]".toList (by decide) (by decide) (by decide) h
  simp at this

end EvalSession.Expression

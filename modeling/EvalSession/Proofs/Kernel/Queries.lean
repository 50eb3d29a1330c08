import Mathlib
import EvalSession.Query

/-!
# What queries say

The source of a template spells its pieces, and reading undoes that exactly (`readPieces_eq_some`). So a template with one place is
filled by putting the text, as it stands, between what its source spells before the place and behind it (`fill_eq`), and
the queries of two scopes, or of two codes, are equal only if these are.
-/
namespace EvalSession

namespace Template

def double (c : Char) : List Char := if c = '\x7b' ∨ c = '\x7d' then [c, c] else [c]

def spell (name : List Char) : Piece → List Char
  | .char c => double c
  | .hole => '\x7b' :: (name ++ ['\x7d'])

/-- What is left of a source spells these pieces, when a name has been read up to here. -/
def Spells (name : List Char) : Option (List Char) → List Char → List Piece → Prop
  | none, s, ps => s = ps.flatMap (spell name)
  | some word, s, ps =>
    ∃ rest qs, word ++ rest = name ∧ ps = .hole :: qs ∧ s = rest ++ '\x7d' :: qs.flatMap (spell name)

/-- A name that can be told from the braces around it. -/
def Plain (name : List Char) : Prop := '\x7b' ∉ name ∧ '\x7d' ∉ name

instance : DecidablePred Plain := fun name => inferInstanceAs (Decidable ('\x7b' ∉ name ∧ '\x7d' ∉ name))

def escape (text : List Char) : List Char := text.flatMap double

section Reading

variable {name word rest s : List Char} {ps : List Piece} {c : Char}

lemma readPieces_char (c : Char) (rest : List Char) :
    readPieces name none (spell name (.char c) ++ rest) = (readPieces name none rest).map (.char c :: ·) := by
  by_cases hopen : c = '\x7b'
  · subst hopen
    simp [spell, double, readPieces]
  · by_cases hclose : c = '\x7d'
    · subst hclose
      simp [spell, double, readPieces]
    · simp [spell, double, readPieces, hopen, hclose]

lemma readPieces_word (h : Plain rest) (s : List Char) :
    readPieces name (some word) (rest ++ '\x7d' :: s) =
      if word ++ rest = name then (readPieces name none s).map (.hole :: ·) else none := by
  induction rest generalizing word with
  | nil => simp [readPieces]
  | cons c rest ih =>
    obtain ⟨hopen, hclose⟩ : c ≠ '\x7b' ∧ c ≠ '\x7d' :=
      ⟨fun hc => h.1 (by simp [hc]), fun hc => h.2 (by simp [hc])⟩
    have hrest : Plain rest := ⟨fun hm => h.1 (by simp [hm]), fun hm => h.2 (by simp [hm])⟩
    simp [readPieces, hopen, hclose, ih hrest]

lemma readPieces_hole (h : Plain name) (s : List Char) :
    readPieces name none (spell name .hole ++ s) = (readPieces name none s).map (.hole :: ·) := by
  have hword : readPieces name (some []) (name ++ '\x7d' :: s) = (readPieces name none s).map (.hole :: ·) := by
    rw [readPieces_word h, List.nil_append, if_pos rfl]
  rw [← hword]
  cases name with
  | nil => simp [spell, readPieces]
  | cons c name =>
    have hc : c ≠ '\x7b' := fun hc => h.1 (by simp [hc])
    simp [spell, readPieces, hc]

lemma readPieces_spell (h : Plain name) (ps : List Piece) : readPieces name none (ps.flatMap (spell name)) = some ps := by
  induction ps with
  | nil => simp [readPieces]
  | cons p ps ih =>
    cases p with
    | char c => rw [List.flatMap_cons, readPieces_char, ih, Option.map_some]
    | hole => rw [List.flatMap_cons, readPieces_hole h, ih, Option.map_some]

/-- Only what is spelled like that is read; behind an opening brace the rest of the name comes first. -/
lemma spells_of_readPieces {state : Option (List Char)} (h : readPieces name state s = some ps) : Spells name state s ps := by
  fun_induction readPieces name state s generalizing ps with
  | case1 =>
    obtain rfl := Option.some.inj h
    rfl
  | case2 rest ih | case3 rest ih =>
    obtain ⟨qs, hqs, rfl⟩ := Option.map_eq_some_iff.mp h
    simp [Spells, spell, double, show rest = _ from ih hqs]
  | case4 rest _ _ ih =>
    obtain ⟨_, qs, rfl, rfl, rfl⟩ := ih h
    simp [Spells, spell]
  | case6 c rest _ _ hopen hclose ih =>
    obtain ⟨qs, hqs, rfl⟩ := Option.map_eq_some_iff.mp h
    simp [Spells, spell, double, hopen, hclose, show rest = _ from ih hqs]
  | case8 rest ih =>
    obtain ⟨qs, hqs, rfl⟩ := Option.map_eq_some_iff.mp h
    exact ⟨[], qs, List.append_nil _, rfl, by rw [show rest = _ from ih hqs]; rfl⟩
  | case11 word c rest hclose hopen ih =>
    obtain ⟨more, qs, hname, rfl, rfl⟩ := ih h
    exact ⟨c :: more, qs, by simpa using hname, rfl, rfl⟩
  | case5 | case7 | case9 | case10 => cases h

/-- A source is read as the pieces that it spells. -/
theorem readPieces_eq_some (hname : Plain name) :
    readPieces name none s = some ps ↔ s = ps.flatMap (spell name) :=
  ⟨spells_of_readPieces, fun h => h ▸ readPieces_spell hname ps⟩

end Reading

/-- A template with one place puts the text, as it stands, between what its source spells before the place and behind it. -/
theorem fill_eq {name : String} {t : Template name} (hname : Plain name.toList) {before after : List Char}
    (h : t.source = escape before ++ (spell name.toList .hole ++ escape after)) (text : String) :
    t.fill text = String.ofList before ++ text ++ String.ofList after := by
  have hspelled : t.source = (before.map Piece.char ++ .hole :: after.map Piece.char).flatMap (spell name.toList) := by
    rw [h]
    simp [escape, List.flatMap_map, spell]
  have hpieces : t.pieces = before.map Piece.char ++ .hole :: after.map Piece.char :=
    Option.some.inj (t.readable.symm.trans ((readPieces_eq_some hname).mpr hspelled))
  have hfill : t.pieces.flatMap (Piece.fill text.toList) = before ++ text.toList ++ after := by
    simp [hpieces, List.flatMap_map, Piece.fill]
  rw [fill, hfill, String.ofList_append, String.ofList_append, String.ofList_toList]

end Template

namespace Query

/-- What a kernel reads before the scope whose names are listed. -/
def namesHead : List Char :=
  List.flatMap String.toList
    ["(lambda o: __import__('json').dumps(\x7b'names': sorted(dir(o)), ",
      "'keys': sorted(k for k in o if isinstance(k, str)) ",
      "if isinstance(o, __import__('collections.abc').abc.Mapping) else []\x7d))("]

/-- What a kernel reads before the code whose value is described. -/
def inspectionHead : List Char :=
  List.flatMap String.toList
    ["(lambda o: __import__('json').dumps(\x7b'string': repr(o), 'type': type(o).__name__, ",
      "'constructorList': [c.__name__ for c in (o.__mro__ if isinstance(o, type) else type(o).__mro__)], ",
      "'length': len(o) if isinstance(o, __import__('collections.abc').abc.Sized) else None\x7d, ",
      "default=str))("]

/-- Characters are quicker to compare than texts. -/
lemma lines_spelled (lines head : List (List Char)) {rest : List Char}
    (h : lines.flatten = Template.escape head.flatten ++ rest) :
    (lines.map String.ofList).flatMap String.toList =
      Template.escape ((head.map String.ofList).flatMap String.toList) ++ rest := by
  simpa [List.flatMap, Function.comp_def] using h

lemma head?_ofList (c : Char) (rest : List Char) : (String.ofList (c :: rest)).toList.head? = some c := by simp

lemma head?_lines (c : Char) (first : List Char) (lines : List String) :
    ((String.ofList (c :: first) :: lines).flatMap String.toList).head? = some c := by simp

set_option maxRecDepth 2000 in
/-- The scope is put before the last parenthesis as it stands, and once. -/
theorem names_eq (scope : String) :
    names scope = if scope = globalScope then globalNames else String.ofList namesHead ++ scope ++ ")" := by
  have hsource : namesTemplate.source =
      Template.escape namesHead ++ (Template.spell "scope".toList .hole ++ Template.escape [')']) :=
    lines_spelled [_, _, _] [_, _, _] (by decide +kernel)
  rw [names, Template.fill_eq (by decide +kernel) hsource]

set_option maxRecDepth 2000 in
/-- So is the code. -/
theorem inspection_eq (code : String) : inspection code = String.ofList inspectionHead ++ code ++ ")" := by
  have hsource : inspectionTemplate.source =
      Template.escape inspectionHead ++ (Template.spell "code".toList .hole ++ Template.escape [')']) :=
    lines_spelled [_, _, _, _] [_, _, _, _] (by decide +kernel)
  rw [inspection, Template.fill_eq (by decide +kernel) hsource]

lemma enclosed_injective (head : List Char) : Function.Injective fun text => String.ofList head ++ text ++ ")" := by
  intro text text' h
  have h : String.ofList head ++ text ++ ")" = String.ofList head ++ text' ++ ")" := h
  rw [← String.toList_inj] at h ⊢
  simpa using h

lemma globalNames_ne (scope : String) : globalNames ≠ String.ofList namesHead ++ scope ++ ")" := by
  intro h
  have hglobal : globalNames.toList.head? = some '_' := head?_ofList '_' _
  have hscope : namesHead.head? = some '(' := head?_lines '(' _ _
  rw [h] at hglobal
  simp [List.head?_append, hscope] at hglobal

/-- What a kernel evaluates to list the names of a scope; where there is no scope, at top level, the query is fixed. -/
def ofScope (scope : List Char) : String :=
  if scope = [] then globalNames else String.ofList namesHead ++ String.ofList scope ++ ")"

/-- What a kernel evaluates to describe the value of some code. -/
def ofText (text : List Char) : String := String.ofList inspectionHead ++ String.ofList text ++ ")"

lemma names_ofScope {scope : List Char} (h : String.ofList scope ≠ globalScope) :
    names (if scope.isEmpty then globalScope else String.ofList scope) = ofScope scope := by
  cases scope with
  | nil => rw [List.isEmpty_nil, if_pos rfl, names_eq, if_pos rfl, ofScope, if_pos rfl]
  | cons c rest =>
    rw [List.isEmpty_cons, if_neg Bool.false_ne_true, names_eq, if_neg h, ofScope, if_neg (List.cons_ne_nil c rest)]

/-- Different scopes are asked for by different queries. -/
theorem ofScope_injective : Function.Injective ofScope := by
  intro scope scope' h
  rw [ofScope, ofScope] at h
  split_ifs at h with hs hs' hs'
  · rw [hs, hs']
  · exact absurd h (globalNames_ne _)
  · exact absurd h.symm (globalNames_ne _)
  · exact String.ofList_injective (enclosed_injective namesHead h)

theorem ofText_injective : Function.Injective ofText := fun _ _ h =>
  String.ofList_injective (enclosed_injective inspectionHead h)

end Query

end EvalSession

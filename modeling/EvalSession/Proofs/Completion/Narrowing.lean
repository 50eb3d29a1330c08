import EvalSession.Proofs.Completion.Candidates
import EvalSession.Proofs.Expression.Typing
import EvalSession.Session.Frame

/-!
# Completions narrow while a name is typed

Word characters that are typed behind an expression change neither the query of its completion nor the offered names, and
the entries are those of before that still match. So a name stays offered until it has been typed out.
-/
namespace EvalSession.Completion

open Expression

/-- The completion at the end of a text narrows to that at the end of another: both ask for the same names, and of the
entries remain, in their order, those whose names go on from the new selector. -/
structure Narrows (text text' : List Char) (e e' : Expression) : Prop where
  scope : e'.scope = e.scope
  leftOp : e'.leftOp = e.leftOp
  rightOp : e'.rightOp = e.rightOp
  query : ∀ {U X : Type} (s : Session U X) (hooks : Hooks U), ∃ task task' : Task (Hook U),
    (Session.completeTurn s text text.length hooks).frames = [s.submit task] ∧
    (Session.completeTurn s text' text'.length hooks).frames = [s.submit task'] ∧
    task.action = .listNames ∧ task'.action = .listNames ∧ task'.code = task.code
  names : ∀ payload, names? e' payload = names? e payload
  list : ∀ names, list e names = (matching e names).map (entry e) ∧
    list e' names = ((matching e names).filter e'.selector.isPrefixOf).map (entry e)

lemma filter_isPrefixOf_append (s more : List Char) (names : List (List Char)) :
    (names.filter s.isPrefixOf).filter (s ++ more).isPrefixOf = names.filter (s ++ more).isPrefixOf := by
  rw [List.filter_filter]
  refine List.filter_congr fun name _ => ?_
  have himp : s ++ more <+: name → s <+: name := (List.prefix_append s more).trans
  rw [Bool.eq_iff_iff, Bool.and_eq_true, List.isPrefixOf_iff_prefix, List.isPrefixOf_iff_prefix]
  exact ⟨And.left, fun h => ⟨h, himp h⟩⟩

lemma matching_typed (e : Expression) (more : List Char) (names : List (List Char)) :
    matching (e.typed more) names = (matching e names).filter (e.selector ++ more).isPrefixOf :=
  (filter_isPrefixOf_append ..).symm

lemma narrows_typed {text more : List Char} {e : Expression} (he : parse text text.length = some e)
    (he' : parse (text ++ more) (text ++ more).length = some (e.typed more)) :
    Narrows text (text ++ more) e (e.typed more) where
  scope := rfl
  leftOp := rfl
  rightOp := rfl
  query := by
    intro U X s hooks
    refine ⟨Session.namesTask ⟨text, text.length, e⟩ hooks,
      Session.namesTask ⟨text ++ more, (text ++ more).length, e.typed more⟩ hooks, ?_, ?_, rfl, rfl, rfl⟩
    · rw [Session.completeTurn, he]
    · rw [Session.completeTurn, he']
  names := fun _ => rfl
  list := fun names => ⟨rfl, by rw [list_eq, matching_typed]; rfl⟩

/-- What is typed goes on with the text if it starts with no digit where no identifier has been begun. -/
lemma goesOn_of_digit {text more : List Char} (hne : more ≠ []) (hword : ∀ c ∈ more, Text.isWord c = true)
    (hselector : ∀ e, parse text text.length = some e → e.selector = [] → ∀ c ∈ more.head?, Text.isDigit c = false)
    (hunsupported : parse text text.length = none → (∀ t, t <:+ text → ¬ Ident t) →
      ∀ c ∈ more.head?, Text.isDigit c = false) : GoesOn text more where
  ne_nil := hne
  word := hword
  starts := by
    intro hnone
    cases he : parse text text.length with
    | none => exact hunsupported he hnone
    | some e =>
      rw [parse_length] at he
      obtain ⟨rest, hs⟩ := (he ▸ parses_ofText text : Parses text (some e)).selects
      refine hselector e (parse_length text ▸ he) ?_
      exact hs.ident.resolve_right (hnone _ ⟨rest, hs.split.symm⟩)

lemma goesOn_of_ident {text rest more : List Char} {e : Expression} (h : Selects text rest e.selector)
    (hident : Ident (e.selector ++ more)) (hne : more ≠ []) : GoesOn text more where
  ne_nil := hne
  word := fun c hc => hident.isWord c (List.mem_append_right _ hc)
  starts := by
    intro hnone c hc
    have hnil := h.ident.resolve_right (hnone _ ⟨rest, h.split.symm⟩)
    rw [hnil, List.nil_append] at hident
    obtain ⟨hstart, -⟩ := hident
    obtain rfl := Option.some.inj hc
    simp only [Text.isIdentStart, Bool.and_eq_true, Bool.not_eq_true'] at hstart
    exact hstart.2

lemma typedOut {text name : List Char} {e : Expression} {names : List (List Char)}
    (he : parse text text.length = some e) (hname : name ∈ matching e names) (hident : Ident name) :
    ∃ rest e', name = e.selector ++ rest ∧ parse (text ++ rest) (text ++ rest).length = some e' ∧ e'.scope = e.scope ∧
      e'.selector = name ∧ entry e' name = entry e name ∧ entry e name ∈ list e' names := by
  obtain ⟨hcandidate, rest, rfl⟩ := mem_matching.mp hname
  rw [parse_length] at he
  refine ⟨rest, e.typed rest, rfl, ?_, rfl, rfl, rfl, ?_⟩
  · rw [parse_length]
    rcases eq_or_ne rest [] with rfl | hne
    · simpa [typed] using he
    · obtain ⟨front, hs⟩ := (he ▸ parses_ofText text : Parses text (some e)).selects
      rw [ofText_typed (goesOn_of_ident hs hident hne), he, Option.map_some]
  · rw [list_eq]
    exact List.mem_map_of_mem (mem_matching.mpr ⟨hcandidate, List.prefix_rfl⟩)

/-- Word characters that are typed at the end of a text narrow its completion, unless they start with a digit where no
identifier has been begun; and every name that is offered can be typed out. -/
theorem typing_narrows {text more : List Char} (hne : more ≠ []) (hword : ∀ c ∈ more, Text.isWord c = true)
    (hselector : ∀ e, parse text text.length = some e → e.selector = [] → ∀ c ∈ more.head?, Text.isDigit c = false)
    (hunsupported : parse text text.length = none → (∀ t, t <:+ text → ¬ Ident t) →
      ∀ c ∈ more.head?, Text.isDigit c = false) :
    (parse (text ++ more) (text ++ more).length = none ↔ parse text text.length = none) ∧
    ∀ e, parse text text.length = some e →
      (∃ e', parse (text ++ more) (text ++ more).length = some e' ∧ e'.selector = e.selector ++ more ∧
        Narrows text (text ++ more) e e') ∧
      ∀ names, ∀ name ∈ matching e names, Ident name → ∃ rest e', name = e.selector ++ rest ∧
        parse (text ++ rest) (text ++ rest).length = some e' ∧ e'.scope = e.scope ∧ e'.selector = name ∧
        entry e' name = entry e name ∧ entry e name ∈ Completion.list e' names := by
  have htyped : parse (text ++ more) (text ++ more).length = (parse text text.length).map fun e => e.typed more := by
    rw [parse_length, parse_length, ofText_typed (goesOn_of_digit hne hword hselector hunsupported)]
  refine ⟨by rw [htyped, Option.map_eq_none_iff], fun e he => ⟨?_, fun names name => typedOut he⟩⟩
  have he' : parse (text ++ more) (text ++ more).length = some (e.typed more) := by rw [htyped, he, Option.map_some]
  exact ⟨e.typed more, he', rfl, narrows_typed he he'⟩

/-- Two characters more of an attribute, and one of the names typed out. -/
theorem attribute_narrows :
    parse "os.p".toList 4 = some ⟨"os.p".toList, "os".toList, some .attribute, "p".toList⟩ ∧
    ∃ e', parse "os.pat".toList 6 = some e' ∧ e'.scope = "os".toList ∧
      Completion.list e' ["path".toList, "pipe".toList, "sep".toList] = ["os.path".toList] ∧
      ∃ rest, "path".toList = "p".toList ++ rest ∧
        (parse ("os.p".toList ++ rest) ("os.p".toList ++ rest).length).isSome = true := by
  have he : parse "os.p".toList 4 = some ⟨"os.p".toList, "os".toList, some .attribute, "p".toList⟩ := by decide +kernel
  have hword : ∀ c ∈ "at".toList, Text.isWord c = true := by simp; decide
  have hdigit : ∀ c ∈ "at".toList.head?, Text.isDigit c = false := by simp; decide
  obtain ⟨-, h⟩ := @typing_narrows "os.p".toList "at".toList (by decide) hword (fun _ _ _ => hdigit) fun _ _ => hdigit
  obtain ⟨⟨e', he', -, hn⟩, hout⟩ := h _ he
  refine ⟨he, e', he', hn.scope, ?_, ?_⟩
  · obtain rfl : e' = ⟨"os.pat".toList, "os".toList, some .attribute, "pat".toList⟩ :=
      Option.some.inj (he'.symm.trans (by decide +kernel))
    rw [(hn.list _).2]
    decide
  · have hident : Ident "path".toList := .mk (by decide) (by simp; decide)
    obtain ⟨rest, e'', hrest, hparse, -⟩ := hout ["path".toList, "pipe".toList, "sep".toList] "path".toList (by decide)
      hident
    exact ⟨rest, hrest, by rw [hparse]; rfl⟩

/-- A digit behind an operator that follows no chain: there is no selector it could go on with, and it is read as a
number. So without the condition on unsupported texts, typing may turn one into a supported text. -/
theorem digit_supports : ¬ ∀ text more : List Char, more ≠ [] → (∀ c ∈ more, Text.isWord c = true) →
    (∀ e, parse text text.length = some e → e.selector = [] → ∀ c ∈ more.head?, Text.isDigit c = false) →
      (parse (text ++ more) (text ++ more).length = none ↔ parse text text.length = none) := by
  intro h
  have hnone : parse "f().".toList 4 = none := by decide +kernel
  have hsome : parse "f().1".toList 5 = some {} := by decide +kernel
  have hword : ∀ c ∈ "1".toList, Text.isWord c = true := by simp; decide
  have hboth := (h "f().".toList "1".toList (by decide) hword fun e he => by cases hnone.symm.trans he).mpr hnone
  cases hsome.symm.trans hboth

end EvalSession.Completion

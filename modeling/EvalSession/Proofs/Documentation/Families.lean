import Mathlib
import EvalSession.Documentation.Builtin
import EvalSession.Inspection

/-!
# Families of names

Which entry of an index documents a name. Main statement: with the default rules a member that has no entry of its own is
looked up once more as a member of the base of its type's family (`lookup_member`), and a name that is no member is looked up
as it is (`lookup_plain`).
-/
namespace EvalSession

namespace Documentation

/-- The name of a type that belongs to a family: plain letters that end in its mark, and more than the mark. -/
def inFamily (mark type : List Char) : Bool :=
  type.all Char.isAlpha && mark.isSuffixOf type && decide (mark.length < type.length)

def member (type selector : List Char) : List Char := type ++ '.' :: selector

def base? (type : List Char) : Option (List Char) :=
  if inFamily "Error".toList type then some "BaseException".toList
  else if inFamily "List".toList type then some "list".toList
  else none

/-- Members of the types of a family are those of its base. -/
def familyRule (mark base : List Char) : Rule where
  pattern := ⟨true, .many letters :: (mark ++ ['.']).map fun c => .one (.char c)⟩
  replacement := (base ++ ['.']).map .char

namespace Index

/-- The entry of a member itself or else, if the type belongs to a family, that of the member of the base. -/
def memberEntry? (index : Index) (selector type : List Char) : Option Object :=
  (index.entry? (String.ofList (member type selector))).or
    ((base? type).bind fun base => index.entry? (String.ofList (member base selector)))

/-- An index with the default rules and no empty entries. -/
structure Regular (index : Index) : Prop where
  rules : index.rules = defaultRules
  filled : ∀ e ∈ index.entries, e.2 ≠ []

end Index

variable {mark base type selector text : List Char}

lemma defaultRules_eq :
    defaultRules = [familyRule "Error".toList "BaseException".toList, familyRule "List".toList "list".toList] := by
  decide

lemma letters_holds (c : Char) : letters.holds c = c.isAlpha := by
  simp only [letters, Class.holds, Char.isAlpha, Char.isUpper, Char.isLower, List.any_cons, List.any_nil, Bool.or_false,
    Bool.decide_and]
  rfl

lemma matchHere_chars (mark group text : List Char) :
    matchHere (mark.map fun c => .one (.char c)) false group text =
      if mark <+: text then some (group, text.drop mark.length) else none := by
  induction mark generalizing text with
  | nil => simp [matchHere]
  | cons c mark ih =>
    cases text with
    | nil => simp [matchHere]
    | cons d text =>
      by_cases h : d = c
      · subst h
        simp [matchHere, Class.holds, ih]
      · simp [matchHere, Class.holds, h, Ne.symm h]

/-- Up to the first point a mark stands only at the end of the type. -/
lemma marked_iff (hmark : '.' ∉ mark) (htype : '.' ∉ type) : mark ++ ['.'] <+: member type selector ↔ mark = type := by
  constructor
  · rintro ⟨rest, h⟩
    rw [member, List.append_assoc, List.singleton_append] at h
    rcases List.append_eq_append_iff.mp h with ⟨more, rfl, hpoint⟩ | ⟨more, rfl, hpoint⟩
    · cases more with
      | nil => simp
      | cons c more =>
        obtain ⟨rfl, -⟩ := List.cons.inj hpoint
        simp at htype
    · cases more with
      | nil => simp
      | cons c more =>
        obtain ⟨rfl, -⟩ := List.cons.inj hpoint
        simp at hmark
  · rintro rfl
    exact ⟨selector, by simp [member]⟩

lemma findSome?_const {α β : Type} {f : α → Option β} {p : α → Prop} [DecidablePred p] {v : β} {l : List α}
    (h : ∀ a ∈ l, f a = if p a then some v else none) : l.findSome? f = if ∃ a ∈ l, p a then some v else none := by
  induction l with
  | nil => simp
  | cons a l ih =>
    have ih := ih fun b hb => h b (List.mem_cons_of_mem _ hb)
    rw [List.findSome?_cons, h a (List.mem_cons_self ..), ih]
    by_cases hp : p a <;> simp [hp]

lemma takeWhile_member (htype : '.' ∉ type) : (member type selector).takeWhile letters.holds = type.takeWhile Char.isAlpha := by
  have hholds : letters.holds = Char.isAlpha := funext letters_holds
  rw [hholds, member]
  induction type with
  | nil => simp
  | cons c type ih =>
    have ih := ih fun h => htype (List.mem_cons_of_mem _ h)
    simp only [List.cons_append, List.takeWhile_cons, ih]

/-- The mark of a family is what is left behind some of the letters of the type. -/
lemma inFamily_iff (hmark : mark.all Char.isAlpha = true) :
    inFamily mark type = true ↔ ∃ n, n < (type.takeWhile Char.isAlpha).length ∧ mark = type.drop (n + 1) := by
  simp only [inFamily, Bool.and_eq_true, List.isSuffixOf_iff_suffix, decide_eq_true_eq]
  constructor
  · rintro ⟨⟨hall, hsuffix⟩, hlength⟩
    have hletters : type.takeWhile Char.isAlpha = type := List.takeWhile_eq_self_iff.mpr (by simpa using hall)
    refine ⟨type.length - mark.length - 1, by rw [hletters]; omega, ?_⟩
    rw [List.suffix_iff_eq_drop.mp hsuffix, List.length_drop]
    congr 1
    omega
  · rintro ⟨n, hn, rfl⟩
    have hle := (List.takeWhile_prefix (l := type) Char.isAlpha).length_le
    have hfront : type.take (n + 1) <+: type.takeWhile Char.isAlpha :=
      List.prefix_of_prefix_length_le (List.take_prefix ..) (List.takeWhile_prefix ..) (by rw [List.length_take]; omega)
    refine ⟨⟨?_, List.drop_suffix ..⟩, by rw [List.length_drop]; omega⟩
    rw [← List.take_append_drop (n + 1) type, List.all_append, hmark, Bool.and_true, List.all_eq_true]
    exact fun c hc => List.mem_takeWhile_imp (hfront.subset hc)

lemma point_not_mem (hmark : mark.all Char.isAlpha = true) : '.' ∉ mark := fun h => by
  have hpoint := List.all_eq_true.mp hmark '.' h
  cases hpoint

lemma matchHere_member (hmark : mark.all Char.isAlpha = true) (htype : '.' ∉ type) :
    matchHere (familyRule mark base).pattern.pieces false [] (member type selector) =
      if inFamily mark type then some ([], selector) else none := by
  have hstage : ∀ n ∈ (List.range (type.takeWhile Char.isAlpha).length).reverse,
      matchHere ((mark ++ ['.']).map fun c => .one (.char c)) false [] ((member type selector).drop (n + 1)) =
        if mark = type.drop (n + 1) then some ([], selector) else none := by
    intro n hn
    have hn : n < (type.takeWhile Char.isAlpha).length := by simpa using hn
    have hle := (List.takeWhile_prefix (l := type) Char.isAlpha).length_le
    have hrest : (member type selector).drop (n + 1) = member (type.drop (n + 1)) selector :=
      List.drop_append_of_le_length (by omega)
    have hpoint : '.' ∉ type.drop (n + 1) := fun h => htype (List.mem_of_mem_drop h)
    rw [matchHere_chars, hrest]
    simp only [marked_iff (point_not_mem hmark) hpoint]
    refine if_ctx_congr Iff.rfl (fun h => ?_) fun _ => rfl
    have hlength : (mark ++ ['.']).length = mark.length + 1 := List.length_append
    rw [← h, hlength, member, ← List.drop_drop, List.drop_left]
    rfl
  have hmatch : matchHere (familyRule mark base).pattern.pieces false [] (member type selector) =
      if ∃ n ∈ (List.range (type.takeWhile Char.isAlpha).length).reverse, mark = type.drop (n + 1) then some ([], selector)
      else none := by
    rw [familyRule, matchHere, takeWhile_member htype]
    exact findSome?_const hstage
  rw [hmatch]
  refine if_congr ?_ rfl rfl
  simp [inFamily_iff hmark]

lemma substitute_member (hmark : mark.all Char.isAlpha = true) (htype : '.' ∉ type) :
    (familyRule mark base).substitute (member type selector) =
      if inFamily mark type then member base selector else member type selector := by
  have hmatch : matchHere (familyRule mark base).pattern.pieces false [] (member type selector) =
      if inFamily mark type then some ([], selector) else none := matchHere_member hmark htype
  have hreplaced : expand [] (familyRule mark base).replacement ++ selector = member base selector := by
    simp [familyRule, expand, member, List.flatMap_map]
  obtain ⟨c, tail, hcons⟩ : ∃ c tail, member type selector = c :: tail := by
    cases type with
    | nil => exact ⟨_, _, rfl⟩
    | cons c type => exact ⟨_, _, rfl⟩
  rw [Rule.substitute, hcons, substituteFrom, ← hcons, hmatch]
  cases inFamily mark type with
  | true => exact hreplaced
  | false => rfl

lemma substitute_plain (htext : '.' ∉ text) : (familyRule mark base).substitute text = text := by
  have hmatch : matchHere (familyRule mark base).pattern.pieces false [] text = none := by
    rw [familyRule, matchHere, List.findSome?_eq_none_iff]
    intro n _
    rw [if_neg (by simp), matchHere_chars, if_neg]
    intro h
    exact htext (List.mem_of_mem_drop (h.subset (by simp)))
  cases text with
  | nil => rw [Rule.substitute, substituteFrom, hmatch]
  | cons c tail =>
    rw [Rule.substitute, substituteFrom, hmatch]
    rfl

lemma inFamily_exclusive (h : inFamily "Error".toList type = true) : inFamily "List".toList type = false := by
  simp only [inFamily, Bool.and_eq_true, List.isSuffixOf_iff_suffix] at h
  by_contra hlist
  simp only [Bool.not_eq_false, inFamily, Bool.and_eq_true, List.isSuffixOf_iff_suffix] at hlist
  have hsuffix := List.suffix_of_suffix_length_le hlist.1.2 h.1.2 (by decide)
  revert hsuffix
  decide

namespace Index

variable {index : Index}

/-- A member is looked up as one of its type and then, with the default rules, as one of the base of the type's family. -/
theorem lookup_member (h : index.rules = defaultRules) (htype : '.' ∉ type) :
    index.lookup (String.ofList (member type selector)) = index.memberEntry? selector type := by
  unfold lookup memberEntry?
  cases hown : index.entry? (String.ofList (member type selector)) with
  | some e => rfl
  | none =>
    have hmember (mark base : List Char) (hmark : mark.all Char.isAlpha = true) :
        (familyRule mark base).substitute (member type selector) =
          if inFamily mark type then member base selector else member type selector := substitute_member hmark htype
    have herror := hmember "Error".toList "BaseException".toList (by decide)
    have hlist := hmember "List".toList "list".toList (by decide)
    have hname : (String.ofList (member type selector)).toList = member type selector := String.toList_ofList
    rw [h, defaultRules_eq, List.findSome?_cons, List.findSome?_cons, List.findSome?_nil, hname, herror, hlist,
      Option.none_or, base?]
    cases hfirst : inFamily "Error".toList type with
    | true =>
      simp only [inFamily_exclusive hfirst, if_true, Bool.false_eq_true, if_false, Option.bind_some, hown]
      cases index.entry? (String.ofList (member "BaseException".toList selector)) <;> rfl
    | false =>
      simp only [Bool.false_eq_true, if_false, hown]
      cases inFamily "List".toList type with
      | true =>
        simp only [if_true, Option.bind_some]
        cases index.entry? (String.ofList (member "list".toList selector)) <;> rfl
      | false => simp [hown]

/-- What is no member is looked up as it is. -/
theorem lookup_plain (h : index.rules = defaultRules) (htext : '.' ∉ text) :
    index.lookup (String.ofList text) = index.entry? (String.ofList text) := by
  unfold lookup
  cases hown : index.entry? (String.ofList text) with
  | some e => rfl
  | none =>
    rw [h, defaultRules_eq]
    simp [substitute_plain htext, hown]

lemma entry?_mem {name : String} {e : Object} (h : index.entry? name = some e) : ∃ key, (key, e) ∈ index.entries := by
  obtain ⟨entry, hfind, rfl⟩ := Option.map_eq_some_iff.mp h
  exact ⟨_, List.mem_of_find?_eq_some hfind⟩

lemma lookup_mem {name : String} {e : Object} (h : index.lookup name = some e) : ∃ key, (key, e) ∈ index.entries := by
  unfold lookup at h
  split at h
  · rename_i hown
    exact Option.some.inj h ▸ entry?_mem hown
  · obtain ⟨r, -, hr⟩ := List.exists_of_findSome?_eq_some h
    exact entry?_mem hr

end Index

/-- The documentation that a session consults by default is regular. -/
theorem builtin_regular : Builtin.index.Regular where
  rules := rfl
  filled := by
    intro e he
    simp only [Builtin.index, List.mem_append, List.mem_map] at he
    rcases he with (⟨function, -, rfl⟩ | ⟨type, -, rfl⟩) | ⟨exception, -, rfl⟩ <;> simp [Builtin.entry]

end Documentation

namespace Inspection

open Documentation (member)

variable {index : Documentation.Index} {selector text : List Char} {names : List (List Char)}

lemma found_eq (h : index.Regular) (name : List Char) : found index name = index.lookup (String.ofList name) := by
  unfold found
  cases hl : index.lookup (String.ofList name) with
  | none => rfl
  | some e =>
    obtain ⟨key, hm⟩ := Documentation.Index.lookup_mem hl
    simp [Option.filter, h.filled _ hm]

/-- A name without a point has the entry that stands under it. -/
theorem found_plain (h : index.Regular) (htext : '.' ∉ text) : found index text = index.entry? (String.ofList text) := by
  rw [found_eq h, Documentation.Index.lookup_plain h.rules htext]

/-- The first type of a chain that has an entry for a member, by itself or by its family, documents the member. -/
theorem memberEntry_eq (h : index.Regular) (hnames : ∀ name ∈ names, '.' ∉ name) :
    memberEntry index names selector = names.findSome? (index.memberEntry? selector) := by
  induction names with
  | nil => rfl
  | cons name names ih =>
    have ih := ih fun n hn => hnames n (List.mem_cons_of_mem _ hn)
    have hfirst : found index (member name selector) = index.memberEntry? selector name := by
      rw [found_eq h, Documentation.Index.lookup_member h.rules (hnames name (List.mem_cons_self ..))]
    unfold memberEntry at ih ⊢
    rw [List.findSome?_cons, List.findSome?_cons, ih, ← hfirst]
    rfl

end Inspection

end EvalSession

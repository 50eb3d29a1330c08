import EvalSession.Json.Printer
import EvalSession.Json.Reader
import EvalSession.Proofs.Literal.Quoted
import EvalSession.Proofs.Object

/-!
# JSON texts read back

What is written for a value without floats, whose objects have distinct keys, is read as the same value, unless one of its
integers has more digits than the reader takes, or there is no room for one of its arrays and objects; the text is refused for
the first of these then.
-/
namespace EvalSession.Json

open Literal Text

mutual

/-- The check passes at the value and at everything in it. -/
def everywhere (passes : Value → Bool) : Value → Bool
  | .list items => passes (.list items) && everyItem passes items
  | .object fields => passes (.object fields) && everyField passes fields
  | v => passes v

def everyItem (passes : Value → Bool) : List Value → Bool
  | [] => true
  | v :: rest => everywhere passes v && everyItem passes rest

def everyField (passes : Value → Bool) : List (String × Value) → Bool
  | [] => true
  | (_, v) :: rest => everywhere passes v && everyField passes rest

end

/-- The value is no float, and no object with a key twice. -/
def isExactHere : Value → Bool
  | .float _ => false
  | .object fields => decide (Object.keys fields).Nodup
  | _ => true

def isShort (n : Nat) : Bool := decide ((Nat.toDigits 10 n).length ≤ maxIntegerDigits)

/-- The value is no integer with more digits than the reader takes. -/
def fitsHere : Value → Bool
  | .int n => isShort n.natAbs
  | _ => true

/-- No number is a float, and no object has a key twice. -/
def isExact (v : Value) : Bool := everywhere isExactHere v

/-- No integer has more digits than the reader takes. -/
def fits (v : Value) : Bool := everywhere fitsHere v

def lengthDefects (n : Nat) : List Problem := if isShort n then [] else [.integerTooLong]

mutual

/-- What stands in the way of reading the text of the value, in the order of the text. -/
def defects : Nat → Value → List Problem
  | _, .int n => lengthDefects n.natAbs
  | 0, .list _ => [.tooDeep .array]
  | 0, .object _ => [.tooDeep .object]
  | room + 1, .list items => itemDefects room items
  | room + 1, .object fields => fieldDefects room fields
  | _, _ => []

def itemDefects (room : Nat) : List Value → List Problem
  | [] => []
  | v :: rest => defects room v ++ itemDefects room rest

def fieldDefects (room : Nat) : List (String × Value) → List Problem
  | [] => []
  | (_, v) :: rest => defects room v ++ fieldDefects room rest

end

mutual

/-- How many arrays and objects are open at a time in the text of the value. -/
def depth : Value → Nat
  | .list items => itemDepth items + 1
  | .object fields => fieldDepth fields + 1
  | _ => 0

def itemDepth : List Value → Nat
  | [] => 0
  | v :: rest => max (depth v) (itemDepth rest)

def fieldDepth : List (String × Value) → Nat
  | [] => 0
  | (_, v) :: rest => max (depth v) (fieldDepth rest)

end

/-- What is read is `a` and the rest, or a refusal for the first defect. -/
def Yields {α : Type} (defects : List Problem) (a : α) (rest : List Char) (result : Read α) : Prop :=
  match defects with
  | [] => result = .ok (a, rest)
  | problem :: _ => ∃ place, result = .error ⟨problem, place⟩

section Strings

variable {c : Char} {s r start : List Char}

/-- The code units of a character: one in the basic plane, two above. -/
def units (c : Char) : List Nat :=
  if c.toNat < 0x10000 then [c.toNat] else [0xD800 + (c.toNat - 0x10000) / 0x400, 0xDC00 + (c.toNat - 0x10000) % 0x400]

lemma readUnits_unicodeEscape {n : Nat} (h : n < 16 ^ 4) (hr : r ≠ []) :
    readUnits start (unicodeEscape n ++ r) = (readUnits start r).map fun p => (n :: p.1, p.2) := by
  have hlen := length_hex (by omega) h
  have hdigits : ∀ d ∈ hex 4 n, isHexDigit d = true := fun d => isHexDigit_hex
  have hvalue := ofDigits_hex 4 n
  obtain ⟨e, more, rfl⟩ := List.exists_cons_of_ne_nil hr
  obtain ⟨a, b, c, d, hhex⟩ : ∃ a b c d, hex 4 n = [a, b, c, d] := by
    match hex 4 n, hlen with
    | [a, b, c, d], _ => exact ⟨a, b, c, d, rfl⟩
  rw [hhex] at hvalue hdigits
  have hall : [a, b, c, d].all isHexDigit = true := List.all_eq_true.mpr hdigits
  simp only [unicodeEscape, hhex, List.cons_append, List.nil_append, readUnits, hall, if_true, hvalue]
  cases readUnits start (e :: more) <;> rfl

lemma readUnits_plain (hquote : c ≠ '"') (hback : c ≠ '\\') (hc : 0x20 ≤ c.toNat) (r : List Char) :
    readUnits start (c :: r) = (readUnits start r).map fun p => (c.toNat :: p.1, p.2) := by
  rw [readUnits.eq_def]
  split
  · contradiction
  · simp_all
  · simp_all
  · simp_all
  · simp_all
  · rename_i heq
    obtain ⟨rfl, rfl⟩ := List.cons.inj heq
    rw [if_neg (by omega)]
    cases readUnits start r <;> rfl

def shortEscapes : List (Char × Char) :=
  [('"', '"'), ('\\', '\\'), ('n', '\n'), ('r', '\r'), ('t', '\t'), ('f', '\x0c'), ('b', '\x08')]

lemma readUnits_short {e : Char} (h : (e, c) ∈ shortEscapes) (r : List Char) :
    readUnits start ('\\' :: e :: r) = (readUnits start r).map fun p => (c.toNat :: p.1, p.2) := by
  simp only [shortEscapes, List.mem_cons, Prod.mk.injEq, List.not_mem_nil, or_false] at h
  rcases h with ⟨rfl, rfl⟩ | ⟨rfl, rfl⟩ | ⟨rfl, rfl⟩ | ⟨rfl, rfl⟩ | ⟨rfl, rfl⟩ | ⟨rfl, rfl⟩ | ⟨rfl, rfl⟩ <;>
    cases hr : readUnits start r <;> simp [readUnits, hr, Except.map]

lemma escape_cases (c : Char) :
    (∃ e, (e, c) ∈ shortEscapes ∧ escape c = ['\\', e]) ∨
      (escape c = [c] ∧ c ≠ '"' ∧ c ≠ '\\' ∧ 0x20 ≤ c.toNat ∧ c.toNat < 0x7F) ∨
      escape c = (units c).flatMap unicodeEscape := by
  unfold escape
  by_cases hshort : ∃ e, (e, c) ∈ shortEscapes
  · obtain ⟨e, he⟩ := hshort
    refine .inl ⟨e, he, ?_⟩
    simp only [shortEscapes, List.mem_cons, Prod.mk.injEq, List.not_mem_nil, or_false] at he
    rcases he with ⟨rfl, rfl⟩ | ⟨rfl, rfl⟩ | ⟨rfl, rfl⟩ | ⟨rfl, rfl⟩ | ⟨rfl, rfl⟩ | ⟨rfl, rfl⟩ | ⟨rfl, rfl⟩ <;> rfl
  · have hc : c ≠ '"' ∧ c ≠ '\\' ∧ c ≠ '\n' ∧ c ≠ '\r' ∧ c ≠ '\t' ∧ c ≠ '\x0c' ∧ c ≠ '\x08' := by
      simpa [shortEscapes, exists_or] using hshort
    obtain ⟨hquote, hback, hfeed, hreturn, htab, hpage, hspace⟩ := hc
    simp only [beq_iff_eq, hquote, hback, hfeed, hreturn, htab, hpage, hspace, if_false]
    refine .inr ?_
    split
    · rename_i hplain
      exact .inl ⟨rfl, hquote, hback, by simpa using hplain⟩
    · refine .inr ?_
      unfold units
      split <;> simp

lemma unicodeEscape_ne_nil (n : Nat) : unicodeEscape n ++ r ≠ [] := by simp [unicodeEscape]

lemma readUnits_unicodeEscapes (c : Char) (hr : r ≠ []) :
    readUnits start ((units c).flatMap unicodeEscape ++ r) = (readUnits start r).map fun p => (units c ++ p.1, p.2) := by
  have hcode := toNat_lt c
  unfold units
  split
  · rename_i hsmall
    simpa using readUnits_unicodeEscape hsmall hr
  · have hhigh : 0xD800 + (c.toNat - 0x10000) / 0x400 < 16 ^ 4 := by omega
    have hlow : 0xDC00 + (c.toNat - 0x10000) % 0x400 < 16 ^ 4 := by omega
    simp only [List.flatMap_cons, List.flatMap_nil, List.append_nil, List.append_assoc]
    rw [readUnits_unicodeEscape hhigh (unicodeEscape_ne_nil _), readUnits_unicodeEscape hlow hr]
    cases readUnits start r <;> rfl

lemma units_of_lt (h : c.toNat < 0x80) : units c = [c.toNat] := by
  rw [units, if_pos (by omega)]

lemma readUnits_escape (c : Char) (hr : r ≠ []) :
    readUnits start (escape c ++ r) = (readUnits start r).map fun p => (units c ++ p.1, p.2) := by
  rcases escape_cases c with ⟨e, he, h⟩ | ⟨h, hquote, hback, hlow, hhigh⟩ | h
  · have hsmall : c.toNat < 0x80 := by
      simp only [shortEscapes, List.mem_cons, Prod.mk.injEq, List.not_mem_nil, or_false] at he
      rcases he with ⟨-, rfl⟩ | ⟨-, rfl⟩ | ⟨-, rfl⟩ | ⟨-, rfl⟩ | ⟨-, rfl⟩ | ⟨-, rfl⟩ | ⟨-, rfl⟩ <;> decide
    rw [h, units_of_lt hsmall]
    exact readUnits_short he r
  · rw [h, units_of_lt (by omega)]
    exact readUnits_plain hquote hback hlow r
  · rw [h]
    exact readUnits_unicodeEscapes c hr

lemma readUnits_text (s r : List Char) :
    readUnits start (s.flatMap escape ++ '"' :: r) = .ok (s.flatMap units, r) := by
  induction s with
  | nil => simp [readUnits]
  | cons c s ih =>
    rw [List.flatMap_cons, List.append_assoc, readUnits_escape c (by simp), ih]
    rfl

lemma joinUnits_units (c : Char) (rest : List Nat) : joinUnits (units c ++ rest) = c :: joinUnits rest := by
  have hc := toNat_not_surrogate c
  have hcode := toNat_lt c
  unfold units
  split
  · cases rest with
    | nil => simp [joinUnits, hc]
    | cons m rest =>
      have hpair : ¬ (((0xD800 ≤ c.toNat ∧ c.toNat < 0xDC00) ∧ 0xDC00 ≤ m) ∧ m < 0xE000) := by omega
      simp [joinUnits, hc, hpair]
  · have hhigh : 0xD800 + (c.toNat - 0x10000) / 0x400 < 0xDC00 := by omega
    have hlow : 0xDC00 + (c.toNat - 0x10000) % 0x400 < 0xE000 := by omega
    have hjoined : 0x10000 + (0xD800 + (c.toNat - 0x10000) / 0x400 - 0xD800) * 0x400 +
        (0xDC00 + (c.toNat - 0x10000) % 0x400 - 0xDC00) = c.toNat := by omega
    have hpair : (0xD800 ≤ 0xD800 + (c.toNat - 0x10000) / 0x400 && 0xD800 + (c.toNat - 0x10000) / 0x400 < 0xDC00 &&
        0xDC00 ≤ 0xDC00 + (c.toNat - 0x10000) % 0x400 && 0xDC00 + (c.toNat - 0x10000) % 0x400 < 0xE000) = true := by
      simp [hhigh, hlow]
    rw [List.cons_append, List.cons_append, List.nil_append, joinUnits, if_pos hpair, hjoined, Char.ofNat_toNat]

lemma joinUnits_text (s : List Char) : joinUnits (s.flatMap units) = s := by
  induction s with
  | nil => rfl
  | cons c s ih => rw [List.flatMap_cons, joinUnits_units, ih]

lemma readString_writeString (start : List Char) (s : String) (r : List Char) :
    readString start (s.toList.flatMap escape ++ '"' :: r) = .ok (s, r) := by
  simp [readString, readUnits_text, joinUnits_text]

end Strings

section Numbers

variable {r : List Char}

/-- No number goes on at the start of the text. -/
def Delimited (r : List Char) : Prop := ∀ c ∈ r.head?, c = ',' ∨ c = ']' ∨ c = '\x7d'

lemma toDigits_cases (n : Nat) : Nat.toDigits 10 n = ['0'] ∨
    ∃ c digits, Nat.toDigits 10 n = c :: digits ∧ c.isDigit = true ∧ c ≠ '0' ∧ ∀ d ∈ digits, d.isDigit = true := by
  have hdigits : ∀ d ∈ Nat.toDigits 10 n, d.isDigit = true := fun d => Nat.isDigit_of_mem_toDigits (by omega) le_rfl
  by_cases hzero : n = 0
  · subst hzero
    exact .inl rfl
  have hhead : ∃ c digits, Nat.toDigits 10 n = c :: digits ∧ c ≠ '0' := by
    clear hdigits
    induction n using Nat.strongRecOn with
    | ind n ih =>
      rw [Nat.toDigits_eq_if (by omega)]
      split
      · refine ⟨n.digitChar, [], rfl, ?_⟩
        interval_cases n <;> first | contradiction | decide
      · obtain ⟨c, digits, h, hc⟩ := ih (n / 10) (by omega) (by omega)
        exact ⟨c, digits ++ [(n % 10).digitChar], by rw [h]; rfl, hc⟩
  obtain ⟨c, digits, h, hc⟩ := hhead
  rw [h] at hdigits
  exact .inr ⟨c, digits, h, hdigits c (by simp), hc, fun d hd => hdigits d (by simp [hd])⟩

lemma Delimited.head (h : Delimited r) : r = [] ∨ ∃ c t, r = c :: t ∧ (c = ',' ∨ c = ']' ∨ c = '\x7d') := by
  cases r with
  | nil => exact .inl rfl
  | cons c t => exact .inr ⟨c, t, rfl, h c rfl⟩

lemma readWhole_toDigits (n : Nat) (h : Delimited r) :
    readWhole (Nat.toDigits 10 n ++ r) = some (Nat.toDigits 10 n, r) := by
  rcases toDigits_cases n with hn | ⟨c, digits, hn, hc, hzero, hdigits⟩
  · rw [hn]
    rfl
  · have hstop : r.takeWhile Char.isDigit = [] ∧ r.dropWhile Char.isDigit = r := by
      rcases h.head with rfl | ⟨d, t, rfl, rfl | rfl | rfl⟩ <;> simp
    rw [hn, List.cons_append, readWhole, if_pos hc, List.takeWhile_append_of_pos hdigits,
      List.dropWhile_append_of_pos hdigits, hstop.1, hstop.2, List.append_nil]
    rintro rfl
    exact hzero rfl

lemma readNumber_toDigits (negative : Bool) (n : Nat) (h : Delimited r) :
    Yields (lengthDefects n) (.int (if negative then -n else n)) r
      (readNumber ((if negative then ['-'] else []) ++ (Nat.toDigits 10 n ++ r))) := by
  have hfraction : readFraction r = ([], r) := by
    rcases h.head with rfl | ⟨d, t, rfl, rfl | rfl | rfl⟩ <;> rfl
  have hexponent : readExponent r = (none, r) := by
    rcases h.head with rfl | ⟨d, t, rfl, rfl | rfl | rfl⟩ <;> rfl
  have hwhole := readWhole_toDigits n h
  have hvalue : ofDigits 10 (Nat.toDigits 10 n) = n := ofDigits_toDigits (by omega) (by omega) n
  have hread : readNumber ((if negative then ['-'] else []) ++ (Nat.toDigits 10 n ++ r)) =
      if (Nat.toDigits 10 n).length > maxIntegerDigits
        then .error ⟨.integerTooLong, (if negative then ['-'] else []) ++ (Nat.toDigits 10 n ++ r)⟩
        else .ok (.int (if negative then -n else n), r) := by
    cases negative with
    | true =>
      unfold readNumber
      simp only [if_true, List.cons_append, List.nil_append, hwhole, hfraction, hexponent, hvalue, List.isEmpty_nil,
        Option.isNone_none, Bool.and_self]
    | false =>
      have hunsigned : ∀ t, Nat.toDigits 10 n ++ r ≠ '-' :: t := by
        intro t ht
        rcases toDigits_cases n with hn | ⟨c, digits, hn, hc, -⟩
        · simp [hn] at ht
        · obtain rfl : c = '-' := by simpa [hn] using congrArg List.head? ht
          simp at hc
      have hplain : (if false = true then ['-'] else []) ++ (Nat.toDigits 10 n ++ r) = Nat.toDigits 10 n ++ r := rfl
      rw [hplain]
      generalize hs : Nat.toDigits 10 n ++ r = s at *
      unfold readNumber
      split
      · rename_i heq
        split at heq
        · exact absurd rfl (hunsigned _)
        · obtain ⟨rfl, rfl⟩ := Prod.mk.inj heq
          simp only [Bool.false_eq_true, if_false, if_true, hwhole, hfraction, hexponent, hvalue, List.isEmpty_nil,
            Option.isNone_none, Bool.and_self]
  rw [hread]
  unfold lengthDefects isShort
  by_cases hn : (Nat.toDigits 10 n).length ≤ maxIntegerDigits
  · rw [if_neg (Nat.not_lt.mpr hn), if_pos (decide_eq_true hn)]
    rfl
  · rw [if_pos (Nat.lt_of_not_le hn), if_neg (by rwa [decide_eq_true_eq])]
    exact ⟨_, rfl⟩

lemma readValue_number {c : Char} {s : List Char} (hc : c.isDigit = true) (fuel room : Nat) (negative : Bool) :
    readValue (fuel + 1) room ((if negative then ['-'] else []) ++ c :: s) =
      readNumber ((if negative then ['-'] else []) ++ c :: s) := by
  cases negative
  all_goals
    simp only [if_true, Bool.false_eq_true, if_false, List.cons_append, List.nil_append]
    unfold readValue
    split
    -- a digit begins no other kind of value
    all_goals first
      | rfl
      | rename_i heq
        cases heq <;> cases hc

lemma toList_toString (n : Int) : (toString n).toList = (if n < 0 then ['-'] else []) ++ Nat.toDigits 10 n.natAbs := by
  rw [Int.toString_eq_repr, Int.repr_eq_if]
  by_cases h : 0 ≤ n
  · rw [if_pos h, if_neg (by omega), Nat.toList_repr, List.nil_append]
    congr 1
    omega
  · rw [if_neg h, if_pos (by omega), String.toList_append, Nat.toList_repr]
    congr 2
    omega

lemma readValue_int (n : Int) (fuel room : Nat) (h : Delimited r) :
    Yields (lengthDefects n.natAbs) (.int n) r (readValue (fuel + 1) room ((toString n).toList ++ r)) := by
  have hnumber := readNumber_toDigits (decide (n < 0)) n.natAbs h
  have hvalue : (if decide (n < 0) = true then -(n.natAbs : Int) else n.natAbs) = n := by
    by_cases hn : n < 0
    · simp only [hn, decide_true, if_true]
      omega
    · simp only [hn, decide_false, Bool.false_eq_true, if_false]
      omega
  rw [hvalue] at hnumber
  obtain ⟨c, digits, hn, hc⟩ : ∃ c digits, Nat.toDigits 10 n.natAbs = c :: digits ∧ c.isDigit = true := by
    rcases toDigits_cases n.natAbs with hn | ⟨c, digits, hn, hc, -⟩
    · exact ⟨'0', [], hn, rfl⟩
    · exact ⟨c, digits, hn, hc⟩
  have hread := readValue_number (s := digits ++ r) hc fuel room (decide (n < 0))
  rw [toList_toString]
  rw [hn] at hnumber ⊢
  simp only [decide_eq_true_eq, List.append_assoc, List.cons_append] at hread hnumber ⊢
  rwa [hread]

end Numbers

section Values

variable {fuel room : Nat} {ds ds' : List Problem} {v : Value} {vs : List Value} {key : String} {seen fields : Object}
  {s r t : List Char}

/-- A value or a member can start here: with no blank, no closing bracket and no byte order mark. -/
def Starts (s : List Char) : Prop :=
  ∃ c t, s = c :: t ∧ isBlank c = false ∧ c ≠ ']' ∧ c ≠ '\x7d' ∧ c ≠ '\uFEFF'

lemma Starts.append (h : Starts s) (r : List Char) : Starts (s ++ r) := by
  obtain ⟨c, t, rfl, hc⟩ := h
  exact ⟨c, t ++ r, rfl, hc⟩

lemma Starts.skipBlanks (h : Starts s) : Json.skipBlanks s = s := by
  obtain ⟨c, t, rfl, hc, -⟩ := h
  simp [Json.skipBlanks, hc]

lemma Starts.skipBlank (h : Starts s) : Json.skipBlanks (' ' :: s) = s := by
  have hblank : isBlank ' ' = true := rfl
  rw [Json.skipBlanks, List.dropWhile_cons_of_pos hblank]
  exact h.skipBlanks

lemma starts_writeString (key : String) (s : List Char) : Starts (writeString key ++ s) :=
  ⟨'"', _, rfl, rfl, by decide, by decide, by decide⟩

lemma starts_toString (n : Int) : Starts (toString n).toList := by
  rw [toList_toString]
  by_cases hn : n < 0
  · exact ⟨'-', _, by rw [if_pos hn]; rfl, rfl, by decide, by decide, by decide⟩
  rw [if_neg hn, List.nil_append]
  rcases toDigits_cases n.natAbs with h | ⟨c, digits, h, hc, -⟩
  · exact ⟨'0', [], h, rfl, by decide, by decide, by decide⟩
  · have hne : ∀ d : Char, d.isDigit = false → c ≠ d := by
      rintro d hd rfl
      simp [hc] at hd
    have hblank : isBlank c = false := by
      simp [isBlank, hne ' ' rfl, hne '\t' rfl, hne '\n' rfl, hne '\r' rfl]
    exact ⟨c, digits, h, hblank, hne _ rfl, hne _ rfl, hne _ rfl⟩

lemma starts_write (h : isExact v = true) : Starts (write v) := by
  cases v with
  | null => exact ⟨'n', "ull".toList, by simp [write], rfl, by decide, by decide, by decide⟩
  | bool b =>
    cases b with
    | true => exact ⟨'t', "rue".toList, by simp [write], rfl, by decide, by decide, by decide⟩
    | false => exact ⟨'f', "alse".toList, by simp [write], rfl, by decide, by decide, by decide⟩
  | int n => exact starts_toString n
  | float x => cases h
  | string s => exact ⟨'"', _, rfl, rfl, by decide, by decide, by decide⟩
  | list items => exact ⟨'[', _, rfl, rfl, by decide, by decide, by decide⟩
  | object fields => exact ⟨'\x7b', _, rfl, rfl, by decide, by decide, by decide⟩

lemma starts_items (h : everyItem isExactHere (v :: vs) = true) : Starts (writeItems (v :: vs)) := by
  have hv : isExact v = true := by simp_all [everyItem, isExact]
  cases vs with
  | nil => exact starts_write hv
  | cons w vs => exact (starts_write hv).append _

lemma starts_fields (v : Value) : Starts (writeFields ((key, v) :: fields)) := by
  cases fields with
  | nil => exact starts_writeString key _
  | cons f fields => exact starts_writeString key _

lemma skipBlanks_delimiter {c : Char} (h : c = ',' ∨ c = ']' ∨ c = '\x7d' ∨ c = ':') : skipBlanks (c :: s) = c :: s := by
  rcases h with rfl | rfl | rfl | rfl <;> rfl

lemma readItems_last (h : Yields ds v (']' :: r) (readValue fuel room s)) :
    Yields ds [v] r (readItems (fuel + 1) room s) := by
  cases ds with
  | nil =>
    have h : readValue fuel room s = .ok (v, ']' :: r) := h
    show readItems (fuel + 1) room s = _
    simp [readItems, h, skipBlanks_delimiter]
  | cons =>
    obtain ⟨place, h⟩ := h
    exact ⟨place, by simp [readItems, h]⟩

lemma readItems_more (h : Yields ds v (',' :: ' ' :: t) (readValue fuel room s)) (ht : Starts t)
    (hvs : Yields ds' vs r (readItems fuel room t)) : Yields (ds ++ ds') (v :: vs) r (readItems (fuel + 1) room s) := by
  cases ds with
  | nil =>
    have h : readValue fuel room s = .ok (v, ',' :: ' ' :: t) := h
    cases ds' with
    | nil =>
      have hvs : readItems fuel room t = .ok (vs, r) := hvs
      show readItems (fuel + 1) room s = _
      simp [readItems, h, skipBlanks_delimiter, ht.skipBlank, hvs]
    | cons =>
      obtain ⟨place, hvs⟩ := hvs
      exact ⟨place, by simp [readItems, h, skipBlanks_delimiter, ht.skipBlank, hvs]⟩
  | cons =>
    obtain ⟨place, h⟩ := h
    exact ⟨place, by simp [readItems, h]⟩

lemma readMembers_last (seen : Object) (key : String) (h : Yields ds v ('\x7d' :: r) (readValue fuel room s)) (hs : Starts s) :
    Yields ds (seen.put key v) r (readMembers (fuel + 1) room seen (writeString key ++ ':' :: ' ' :: s)) := by
  have hkey := readString_writeString (writeString key ++ ':' :: ' ' :: s) key (':' :: ' ' :: s)
  simp only [writeString, List.cons_append, List.append_assoc, List.nil_append] at hkey ⊢
  cases ds with
  | nil =>
    have h : readValue fuel room s = .ok (v, '\x7d' :: r) := h
    show readMembers (fuel + 1) room seen _ = _
    simp [readMembers, hkey, skipBlanks_delimiter, hs.skipBlank, h]
  | cons =>
    obtain ⟨place, h⟩ := h
    exact ⟨place, by simp [readMembers, hkey, skipBlanks_delimiter, hs.skipBlank, h]⟩

lemma readMembers_more (key : String) (h : Yields ds v (',' :: ' ' :: t) (readValue fuel room s)) (hs : Starts s)
    (ht : Starts t) (hfields : Yields ds' fields r (readMembers fuel room (seen.put key v) t)) :
    Yields (ds ++ ds') fields r (readMembers (fuel + 1) room seen (writeString key ++ ':' :: ' ' :: s)) := by
  have hkey := readString_writeString (writeString key ++ ':' :: ' ' :: s) key (':' :: ' ' :: s)
  simp only [writeString, List.cons_append, List.append_assoc, List.nil_append] at hkey ⊢
  cases ds with
  | nil =>
    have h : readValue fuel room s = .ok (v, ',' :: ' ' :: t) := h
    have hmembers : readMembers (fuel + 1) room seen ('"' :: (key.toList.flatMap escape ++ '"' :: ':' :: ' ' :: s)) =
        readMembers fuel room (seen.put key v) t := by
      simp [readMembers, hkey, skipBlanks_delimiter, hs.skipBlank, ht.skipBlank, h]
    rwa [hmembers, List.nil_append]
  | cons =>
    obtain ⟨place, h⟩ := h
    exact ⟨place, by simp [readMembers, hkey, skipBlanks_delimiter, hs.skipBlank, h]⟩

lemma readValue_string (text : String) : readValue (fuel + 1) room (writeString text ++ r) = .ok (.string text, r) := by
  have htext := readString_writeString (writeString text ++ r) text r
  simp only [writeString, List.cons_append, List.append_assoc, List.nil_append] at htext ⊢
  simp [readValue, htext]

lemma readValue_list (hs : Starts s) (h : Yields ds vs r (readItems fuel room s)) :
    Yields ds (.list vs) r (readValue (fuel + 1) (room + 1) ('[' :: s)) := by
  have hskip := hs.skipBlanks
  obtain ⟨c, t, rfl, hblank, hitems, hmembers, -⟩ := hs
  cases ds with
  | nil =>
    have h : readItems fuel room (c :: t) = .ok (vs, r) := h
    show readValue (fuel + 1) (room + 1) ('[' :: c :: t) = _
    simp [readValue, hskip, hitems, h]
  | cons =>
    obtain ⟨place, h⟩ := h
    exact ⟨place, by simp [readValue, hskip, hitems, h]⟩

lemma readValue_object (hs : Starts s) (h : Yields ds fields r (readMembers fuel room [] s)) :
    Yields ds (.object fields) r (readValue (fuel + 1) (room + 1) ('\x7b' :: s)) := by
  have hskip := hs.skipBlanks
  obtain ⟨c, t, rfl, hblank, hitems, hmembers, -⟩ := hs
  cases ds with
  | nil =>
    have h : readMembers fuel room [] (c :: t) = .ok (fields, r) := h
    show readValue (fuel + 1) (room + 1) ('\x7b' :: c :: t) = _
    simp [readValue, hskip, hmembers, h]
  | cons =>
    obtain ⟨place, h⟩ := h
    exact ⟨place, by simp [readValue, hskip, hmembers, h]⟩

lemma not_mem_keys_of_nodup (h : (Object.keys (seen ++ (key, v) :: fields)).Nodup) : key ∉ seen.keys := by
  intro hmem
  have hkeys : (Object.keys seen ++ key :: Object.keys fields).Nodup := by
    rwa [Object.keys, List.map_append, List.map_cons] at h
  exact List.disjoint_of_nodup_append hkeys hmem (List.mem_cons_self ..)

end Values

/-! The induction is on the value, and every call leaves fuel for each character of the text that it reads. -/

mutual

theorem readValue_write : (v : Value) → (fuel room : Nat) → (r : List Char) → everywhere isExactHere v = true →
    (write v).length ≤ fuel → Delimited r → Yields (defects room v) v r (readValue fuel room (write v ++ r))
  | v, 0, _, r, hv, hf, _ => by
    obtain ⟨c, t, h, -⟩ := starts_write hv
    simp [h] at hf
  | .null, fuel + 1, room, r, _, _, _ => by simp [Yields, defects, write, readValue]
  | .bool true, fuel + 1, room, r, _, _, _ => by simp [Yields, defects, write, readValue]
  | .bool false, fuel + 1, room, r, _, _, _ => by simp [Yields, defects, write, readValue]
  | .int n, fuel + 1, room, r, _, _, hr => by
    rw [write, defects]
    exact readValue_int n fuel room hr
  | .string text, fuel + 1, room, r, _, _, _ => by simp [Yields, defects, write, readValue_string]
  | .list items, fuel + 1, 0, r, _, _, _ => by simp [Yields, defects, write, readValue]
  | .list [], fuel + 1, room + 1, r, _, _, _ => by
    simp [Yields, defects, itemDefects, write, writeItems, readValue, skipBlanks_delimiter]
  | .list (v :: vs), fuel + 1, room + 1, r, hv, hf, _ => by
    have hitems : everyItem isExactHere (v :: vs) = true := by
      simpa [everywhere, isExactHere] using hv
    have hlength : (writeItems (v :: vs)).length + 1 ≤ fuel := by
      simp [write] at hf
      omega
    have hread := readItems_write (v :: vs) fuel room r (by simp) hitems hlength
    simpa [write, defects] using readValue_list ((starts_items hitems).append _) hread
  | .object fields, fuel + 1, 0, r, _, _, _ => by simp [Yields, defects, write, readValue]
  | .object [], fuel + 1, room + 1, r, _, _, _ => by
    simp [Yields, defects, fieldDefects, write, writeFields, readValue, skipBlanks_delimiter]
  | .object ((key, v) :: fields), fuel + 1, room + 1, r, hv, hf, _ => by
    obtain ⟨hkeys, hfields⟩ : (Object.keys ((key, v) :: fields)).Nodup ∧ everyField isExactHere ((key, v) :: fields) = true := by
      simpa only [everywhere, isExactHere, Bool.and_eq_true, decide_eq_true_eq] using hv
    have hlength : (writeFields ((key, v) :: fields)).length + 1 ≤ fuel := by
      simp [write] at hf
      omega
    have hread := readMembers_write ((key, v) :: fields) [] fuel room r (by simp) hkeys hfields hlength
    simpa [write, defects] using readValue_object ((starts_fields v).append _) hread

theorem readItems_write : (vs : List Value) → (fuel room : Nat) → (r : List Char) → vs ≠ [] →
    everyItem isExactHere vs = true → (writeItems vs).length + 1 ≤ fuel →
    Yields (itemDefects room vs) vs r (readItems fuel room (writeItems vs ++ ']' :: r))
  | [], _, _, _, hne, _, _ => absurd rfl hne
  | [v], fuel + 1, room, r, _, hvs, hf => by
    have hv : everywhere isExactHere v = true := by simpa [everyItem] using hvs
    have hread := readValue_write v fuel room (']' :: r) hv (by simpa [writeItems] using hf) (by simp [Delimited])
    simpa [writeItems, itemDefects] using readItems_last hread
  | v :: w :: vs, fuel + 1, room, r, _, hvs, hf => by
    obtain ⟨hv, hrest⟩ : everywhere isExactHere v = true ∧ everyItem isExactHere (w :: vs) = true := by
      simpa only [everyItem, Bool.and_eq_true] using hvs
    simp only [writeItems, List.length_append, List.length_cons] at hf
    have hread := readValue_write v fuel room (',' :: ' ' :: (writeItems (w :: vs) ++ ']' :: r)) hv (by omega)
      (by simp [Delimited])
    have hreadRest := readItems_write (w :: vs) fuel room r (by simp) hrest (by omega)
    have hmore := readItems_more hread ((starts_items hrest).append _) hreadRest
    rw [itemDefects]
    simpa [writeItems] using hmore

theorem readMembers_write : (fields seen : Object) → (fuel room : Nat) → (r : List Char) → fields ≠ [] →
    (Object.keys (seen ++ fields)).Nodup → everyField isExactHere fields = true → (writeFields fields).length + 1 ≤ fuel →
    Yields (fieldDefects room fields) (seen ++ fields) r (readMembers fuel room seen (writeFields fields ++ '\x7d' :: r))
  | [], _, _, _, _, hne, _, _, _ => absurd rfl hne
  | [(key, v)], seen, fuel + 1, room, r, _, hkeys, hvs, hf => by
    have hv : everywhere isExactHere v = true := by simpa [everyField] using hvs
    have hnew := not_mem_keys_of_nodup hkeys
    have hlength : (write v).length ≤ fuel := by
      simp [writeFields] at hf
      omega
    have hread := readValue_write v fuel room ('\x7d' :: r) hv hlength (by simp [Delimited])
    have hlast := readMembers_last seen key hread ((starts_write hv).append _)
    rw [Object.put_of_not_mem hnew] at hlast
    simpa [writeFields, fieldDefects] using hlast
  | (key, v) :: f :: fields, seen, fuel + 1, room, r, _, hkeys, hvs, hf => by
    obtain ⟨hv, hrest⟩ : everywhere isExactHere v = true ∧ everyField isExactHere (f :: fields) = true := by
      simpa only [everyField, Bool.and_eq_true] using hvs
    have hnew := not_mem_keys_of_nodup hkeys
    simp only [writeFields, List.length_append, List.length_cons] at hf
    have hread := readValue_write v fuel room (',' :: ' ' :: (writeFields (f :: fields) ++ '\x7d' :: r)) hv (by omega)
      (by simp [Delimited])
    have hreadRest := readMembers_write (f :: fields) (seen ++ [(key, v)]) fuel room r (by simp) (by simpa using hkeys) hrest
      (by omega)
    rw [← Object.put_of_not_mem hnew] at hreadRest
    have hmore := readMembers_more key hread ((starts_write hv).append _) ((starts_fields f.2).append _) hreadRest
    rw [Object.put_of_not_mem hnew] at hmore
    rw [fieldDefects]
    simpa [writeFields] using hmore

end

lemma read_of_readValue {s : List Char} (hs : Starts s) {room : Nat} {result : Read Value}
    (h : readValue (2 * s.length + 2) room s = result) :
    (∀ v, result = .ok (v, []) → readWithin room s = .ok v) ∧ ∀ f, result = .error f → readWithin room s = .error f := by
  have hskip := hs.skipBlanks
  obtain ⟨c, t, rfl, -, -, -, hmark⟩ := hs
  rw [List.length_cons] at h
  constructor
  · rintro v rfl
    have hend : skipBlanks [] = [] := rfl
    simp [readWithin, hmark, hskip, h, hend]
  · rintro f rfl
    simp [readWithin, hmark, hskip, h]

/-- The text of an exact value is read as the value, or refused for the first thing that stands in the way. -/
theorem read_write {v : Value} (h : isExact v = true) (room : Nat) :
    match defects room v with
    | [] => readWithin room (write v) = .ok v
    | problem :: _ => ∃ place, readWithin room (write v) = .error ⟨problem, place⟩ := by
  have hread := readValue_write v (2 * (write v).length + 2) room [] h (by omega) (by simp [Delimited])
  rw [List.append_nil] at hread
  obtain ⟨hok, herror⟩ := read_of_readValue (starts_write h) rfl
  split
  · rename_i hnone
    rw [hnone] at hread
    exact hok v hread
  · rename_i hfirst
    rw [hfirst] at hread
    obtain ⟨place, hread⟩ := hread
    exact ⟨place, herror _ hread⟩

/-! With room for everything in a value only its integers can stand in the way. -/

mutual

theorem defects_of_depth : (v : Value) → (room : Nat) → depth v ≤ room →
    (defects room v = [] ↔ everywhere fitsHere v = true) ∧ ∀ p ∈ defects room v, p = .integerTooLong
  | .null, _, _ | .bool _, _, _ | .float _, _, _ | .string _, _, _ => by simp [defects, everywhere, fitsHere]
  | .int n, _, _ => by cases h : isShort n.natAbs <;> simp [defects, lengthDefects, everywhere, fitsHere, h]
  | .list _, 0, h | .object _, 0, h => by simp [depth] at h
  | .list items, room + 1, h => by
    simpa [defects, everywhere, fitsHere] using itemDefects_of_depth items room (by simpa [depth] using h)
  | .object fields, room + 1, h => by
    simpa [defects, everywhere, fitsHere] using fieldDefects_of_depth fields room (by simpa [depth] using h)

theorem itemDefects_of_depth : (vs : List Value) → (room : Nat) → itemDepth vs ≤ room →
    (itemDefects room vs = [] ↔ everyItem fitsHere vs = true) ∧ ∀ p ∈ itemDefects room vs, p = .integerTooLong
  | [], _, _ => by simp [itemDefects, everyItem]
  | v :: vs, room, h => by
    obtain ⟨hv, hvs⟩ : depth v ≤ room ∧ itemDepth vs ≤ room := by simpa [itemDepth] using h
    obtain ⟨hfits, hlong⟩ := defects_of_depth v room hv
    obtain ⟨hfits', hlong'⟩ := itemDefects_of_depth vs room hvs
    rw [itemDefects, everyItem, Bool.and_eq_true, List.append_eq_nil_iff, hfits, hfits']
    exact ⟨Iff.rfl, fun p hp => (List.mem_append.mp hp).elim (hlong p) (hlong' p)⟩

theorem fieldDefects_of_depth : (fields : List (String × Value)) → (room : Nat) → fieldDepth fields ≤ room →
    (fieldDefects room fields = [] ↔ everyField fitsHere fields = true) ∧
      ∀ p ∈ fieldDefects room fields, p = .integerTooLong
  | [], _, _ => by simp [fieldDefects, everyField]
  | (key, v) :: fields, room, h => by
    obtain ⟨hv, hvs⟩ : depth v ≤ room ∧ fieldDepth fields ≤ room := by simpa [fieldDepth] using h
    obtain ⟨hfits, hlong⟩ := defects_of_depth v room hv
    obtain ⟨hfits', hlong'⟩ := fieldDefects_of_depth fields room hvs
    rw [fieldDefects, everyField, Bool.and_eq_true, List.append_eq_nil_iff, hfits, hfits']
    exact ⟨Iff.rfl, fun p hp => (List.mem_append.mp hp).elim (hlong p) (hlong' p)⟩

end

/-- A value that there is room for is read back if its integers fit, and refused for one of them otherwise. -/
theorem readWithin_write {v : Value} (h : isExact v = true) {room : Nat} (hroom : depth v ≤ room) :
    if fits v then readWithin room (write v) = .ok v
    else ∃ place, readWithin room (write v) = .error ⟨.integerTooLong, place⟩ := by
  obtain ⟨hfits, hlong⟩ := defects_of_depth v room hroom
  have hread := read_write h room
  cases hdefects : defects room v with
  | nil =>
    rw [fits, if_pos (hfits.mp hdefects)]
    simpa [hdefects] using hread
  | cons p ps =>
    rw [hdefects] at hread hlong
    have hunfit : ¬ fits v = true := fun hf => by simpa [hdefects] using hfits.mpr hf
    rw [if_neg hunfit, ← hlong p (by simp)]
    exact hread

end EvalSession.Json

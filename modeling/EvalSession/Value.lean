/-!
# Values

The data that callers and workers exchange. Numbers keep the distinction between unbounded integers and
binary64 floats; a float is its bit pattern, so equality of values is lawful. An object is an association
list in insertion order: `put` overwrites in place, so a key occurs once in every object built by `put`.
-/
namespace EvalSession

structure Binary64 where
  bits : UInt64
  deriving DecidableEq, Repr

inductive Value where
  | null
  | bool (b : Bool)
  | int (n : Int)
  | float (x : Binary64)
  | string (s : String)
  | list (items : List Value)
  | object (fields : List (String × Value))
  deriving Repr, Inhabited

abbrev Object := List (String × Value)

namespace Value

mutual

def decEq : (a b : Value) → Decidable (a = b)
  | .null, b => by cases b <;> first | exact isTrue rfl | exact isFalse nofun
  | .bool x, b => by
    cases b with
    | bool y => exact decidable_of_iff (x = y) (by simp)
    | _ => exact isFalse nofun
  | .int x, b => by
    cases b with
    | int y => exact decidable_of_iff (x = y) (by simp)
    | _ => exact isFalse nofun
  | .float x, b => by
    cases b with
    | float y => exact decidable_of_iff (x = y) (by simp)
    | _ => exact isFalse nofun
  | .string x, b => by
    cases b with
    | string y => exact decidable_of_iff (x = y) (by simp)
    | _ => exact isFalse nofun
  | .list x, b => by
    cases b with
    | list y => exact @decidable_of_iff _ (x = y) (by simp) (decEqList x y)
    | _ => exact isFalse nofun
  | .object x, b => by
    cases b with
    | object y => exact @decidable_of_iff _ (x = y) (by simp) (decEqFields x y)
    | _ => exact isFalse nofun

def decEqList : (a b : List Value) → Decidable (a = b)
  | [], [] => isTrue rfl
  | [], _ :: _ => isFalse nofun
  | _ :: _, [] => isFalse nofun
  | x :: xs, y :: ys =>
    match decEq x y, decEqList xs ys with
    | isTrue h, isTrue k => isTrue (by rw [h, k])
    | isFalse h, _ => isFalse fun e => h (List.cons.inj e).1
    | _, isFalse k => isFalse fun e => k (List.cons.inj e).2

def decEqFields : (a b : List (String × Value)) → Decidable (a = b)
  | [], [] => isTrue rfl
  | [], _ :: _ => isFalse nofun
  | _ :: _, [] => isFalse nofun
  | (k, x) :: xs, (l, y) :: ys =>
    match decEq x y, decEqFields xs ys with
    | isTrue h, isTrue t =>
      if e : k = l then isTrue (by rw [h, t, e])
      else isFalse fun c => e (Prod.mk.inj (List.cons.inj c).1).1
    | isFalse h, _ => isFalse fun c => h (Prod.mk.inj (List.cons.inj c).1).2
    | _, isFalse t => isFalse fun c => t (List.cons.inj c).2

end

instance : DecidableEq Value := decEq

/-- The word for the kind of value, as problem reports spell it. -/
def kind : Value → String
  | .null => "NoneType"
  | .bool _ => "bool"
  | .int _ => "int"
  | .float _ => "float"
  | .string _ => "str"
  | .list _ => "list"
  | .object _ => "dict"

/-- Zero, false, null, and everything that holds nothing. -/
def isVacant : Value → Bool
  | .null => true
  | .bool b => !b
  | .int n => n == 0
  | .float x => x.bits.toNat % Nat.pow 2 63 == 0
  | .string s => s.isEmpty
  | .list items => items.isEmpty
  | .object fields => fields.isEmpty

/-- The items of what can be listed: the characters of a text, the keys of an object. -/
def items? : Value → Option (List Value)
  | .list items => some items
  | .string s => some (s.toList.map fun c => .string (String.ofList [c]))
  | .object fields => some (fields.map fun f => .string f.1)
  | _ => none

def object? : Value → Option Object
  | .object o => some o
  | _ => none

def text? : Value → Option String
  | .string s => some s
  | _ => none

end Value

namespace Object

def get? (o : Object) (key : String) : Option Value :=
  (o.find? (·.1 == key)).map (·.2)

def has (o : Object) (key : String) : Bool :=
  o.any (·.1 == key)

def keys (o : Object) : List String :=
  o.map (·.1)

/-- Overwrites the value of a key where it stands, and appends a new key. -/
def put : Object → String → Value → Object
  | [], key, v => [(key, v)]
  | (k, w) :: rest, key, v => if k == key then (k, v) :: rest else (k, w) :: put rest key v

def without (o : Object) (key : String) : Object :=
  o.filter (·.1 != key)

def update (o new : Object) : Object :=
  new.foldl (fun acc f => put acc f.1 f.2) o

end Object

/-- The object with the given fields, a repeated key keeping its first place and its last value. -/
def Value.ofFields (fields : List (String × Value)) : Value :=
  .object (Object.update [] fields)

end EvalSession

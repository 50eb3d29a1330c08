/-!
# UTF-8 octets

Decodes octets into code points and says what is wrong with octets that cannot be decoded. Halves of surrogate pairs
are let through.
-/
namespace EvalSession.Text.Octets

inductive Reason where
  | invalidStart
  | invalidContinuation
  | endOfData
  deriving DecidableEq, Repr

def Reason.text : Reason → String
  | .invalidStart => "invalid start byte"
  | .invalidContinuation => "invalid continuation byte"
  | .endOfData => "unexpected end of data"

/-- The octets of a malformed sequence: the first one, its place, and how many there are. -/
structure Fault where
  octet : Nat
  place : Nat
  count : Nat
  reason : Reason
  deriving DecidableEq, Repr

/-- Octets of a sequence, by the first one; zero if none starts with it. -/
def lengthOf (first : Nat) : Nat :=
  if first < 0x80 then 1 else if first < 0xC2 then 0 else if first < 0xE0 then 2 else if first < 0xF0 then 3
  else if first < 0xF5 then 4 else 0

def isContinuation (b : Nat) : Bool := 0x80 ≤ b && b < 0xC0

/-- The second octet keeps a sequence from being longer than it need be and from naming too high a code point. -/
def isSecond (first b : Nat) : Bool :=
  isContinuation b &&
    (if first == 0xE0 then 0xA0 ≤ b
      else if first == 0xF0 then 0x90 ≤ b
      else if first == 0xF4 then b < 0x90
      else true)

/-- The second octet of half of a surrogate pair. -/
def isSurrogate (first b : Nat) : Bool := first == 0xED && 0xA0 ≤ b

def leadBits (first : Nat) : Nat :=
  if first < 0x80 then first else if first < 0xE0 then first - 0xC0 else if first < 0xF0 then first - 0xE0
  else first - 0xF0

/-- The code point of the sequence at the start of octets, with its length; or how long the malformed part is. -/
def next (first : Nat) (rest : List Nat) : Except (Nat × Reason) (Nat × Nat) :=
  let length := lengthOf first
  let tail := rest.take (length - 1)
  if length == 0 then .error (1, .invalidStart)
  else
    match tail with
    | [] => if length == 1 then .ok (first, 1) else .error (1, .endOfData)
    | second :: more =>
      let whole := more.length + 2 == length
      if !isSecond first second then .error (1, .invalidContinuation)
      else if isSurrogate first second && !(whole && more.all isContinuation) then .error (1, .invalidContinuation)
      else if !more.all isContinuation then .error ((more.takeWhile isContinuation).length + 2, .invalidContinuation)
      else if !whole then .error (rest.length + 1, .endOfData)
      else .ok (tail.foldl (fun n b => n * 0x40 + (b - 0x80)) (leadBits first), length)

/-- Decodes the octets from a place on; the first `skip` of them belong to a sequence already decoded. -/
def decodeFrom (place skip : Nat) : List Nat → Except Fault (List Nat)
  | [] => .ok []
  | b :: rest =>
    match skip with
    | k + 1 => decodeFrom (place + 1) k rest
    | 0 =>
      match next b rest with
      | .error (count, reason) => .error ⟨b, place, count, reason⟩
      | .ok (point, length) => (decodeFrom (place + 1) (length - 1) rest).map (point :: ·)

def decode (octets : List Nat) : Except Fault (List Nat) := decodeFrom 0 0 octets

end EvalSession.Text.Octets

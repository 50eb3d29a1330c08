import EvalSession.Value

/-!
# Decimal text of binary64 floats

A finite float is `m * 2 ^ e` with natural `m`. `ofDecimal` rounds a decimal to the nearest float, a tie to the
even mantissa; `shortest` gives the fewest decimal digits that round back, and of those the nearest. Both work in
exact natural arithmetic.
-/
namespace EvalSession.Binary64

/-- Sign, mantissa and exponent of a finite float; `none` for infinities and NaN. -/
def parts? (x : Binary64) : Option (Bool × Nat × Int) :=
  let n := x.bits.toNat
  let negative := n / Nat.pow 2 63 == 1
  let biased : Nat := n / Nat.pow 2 52 % Nat.pow 2 11
  let fraction := n % Nat.pow 2 52
  if biased == 2047 then none
  else if biased == 0 then some (negative, fraction, -1074)
  else some (negative, fraction + Nat.pow 2 52, (biased : Int) - 1075)

def isNegative (x : Binary64) : Bool := x.bits.toNat / Nat.pow 2 63 == 1

def isInfinite (x : Binary64) : Bool := x.bits.toNat % Nat.pow 2 63 == 2047 * Nat.pow 2 52

def isNaN (x : Binary64) : Bool := decide (2047 * Nat.pow 2 52 < x.bits.toNat % Nat.pow 2 63)

def signed (negative : Bool) (magnitude : Nat) : Binary64 :=
  ⟨UInt64.ofNat (if negative then Nat.pow 2 63 + magnitude else magnitude)⟩

def infinity (negative : Bool) : Binary64 := signed negative (2047 * Nat.pow 2 52)

def nan : Binary64 := signed false (2047 * Nat.pow 2 52 + Nat.pow 2 51)

def roundHalfEven (num den : Nat) : Nat :=
  let q := num / den
  let r := num % den
  if 2 * r < den then q
  else if 2 * r > den then q + 1
  else if q % 2 == 0 then q else q + 1

/-- `num / den / 2 ^ e`, rounded. -/
def scaledRound (num den : Nat) (e : Int) : Nat :=
  if 0 ≤ e then roundHalfEven num (den * Nat.pow 2 e.toNat) else roundHalfEven (num * Nat.pow 2 (-e).toNat) den

/-- The float nearest to `num / den`, for `den ≠ 0`. -/
def ofRatio (negative : Bool) (num den : Nat) : Binary64 :=
  if num == 0 then signed negative 0
  else
    let guess : Int := (num.log2 : Int) - den.log2 - 53
    let enough (e : Int) : Bool :=
      if 0 ≤ e then num < den * Nat.pow 2 (53 + e.toNat) else num * Nat.pow 2 (-e).toNat < den * Nat.pow 2 53
    let fit := if enough guess then guess else guess + 1
    let e := max fit (-1074)
    let q := scaledRound num den e
    if q < Nat.pow 2 52 then signed negative q
    else
      let magnitude := (e + 1075).toNat * Nat.pow 2 52 + (q - Nat.pow 2 52)
      signed negative (min magnitude (2047 * Nat.pow 2 52))

/-- The float nearest to `digits * 10 ^ exponent`. Exponents far outside the range of floats are cut short, which
leaves the result infinite or zero as it was. -/
def ofDecimal (negative : Bool) (digits : Nat) (exponent : Int) : Binary64 :=
  let size : Int := (Nat.toDigits 10 digits).length
  if digits == 0 then signed negative 0
  else if size + exponent > 400 then infinity negative
  else if size + exponent < -400 then signed negative 0
  else if 0 ≤ exponent then ofRatio negative (digits * Nat.pow 10 exponent.toNat) 1
  else ofRatio negative digits (Nat.pow 10 (-exponent).toNat)

/-- The integer that a float without a fraction stands for. -/
def toInt? (x : Binary64) : Option Int :=
  match x.parts? with
  | none => none
  | some (negative, m, e) =>
    let whole : Option Nat :=
      if 0 ≤ e then some (m * Nat.pow 2 e.toNat)
      else if m % Nat.pow 2 (-e).toNat == 0 then some (m / Nat.pow 2 (-e).toNat) else none
    whole.map fun n => if negative then -(n : Int) else n

/-- The positive decimals `digit * 10 ^ k` on both sides of `num / den`. -/
def gridNeighbours (num den : Nat) (k : Int) : Nat × Nat :=
  let below := if 0 ≤ k then num / (den * Nat.pow 10 k.toNat) else num * Nat.pow 10 (-k).toNat / den
  (below, below + 1)

def compareDecimal (c : Nat) (k : Int) (num den : Nat) : Ordering :=
  if 0 ≤ k then compare (c * Nat.pow 10 k.toNat * den) num else compare (c * den) (num * Nat.pow 10 (-k).toNat)

/-- Twice the distance of `c * 10 ^ k` from `num / den`, scaled by a factor that depends on `k` and `den` only. -/
def gridDistance (c : Nat) (k : Int) (num den : Nat) : Nat :=
  let (l, r) := if 0 ≤ k then (c * Nat.pow 10 k.toNat * den, num) else (c * den, num * Nat.pow 10 (-k).toNat)
  if l < r then r - l else l - r

/-- Digits `c` and exponent `k` of the shortest decimal `c * 10 ^ k` that rounds to `m * 2 ^ e`, searched among
`fuel` grids, coarsest first. -/
def shortestFrom (m : Nat) (e : Int) : Nat → Int → Nat × Int
  | 0, k => (m, k)
  | fuel + 1, k =>
    let scale (n : Nat) : Nat × Nat := if 0 ≤ e - 2 then (n * Nat.pow 2 (e - 2).toNat, 1) else (n, Nat.pow 2 (2 - e).toNat)
    let (num, den) := scale (4 * m)
    let (lowNum, _) := scale (if m == Nat.pow 2 52 && e > -1074 then 4 * m - 1 else 4 * m - 2)
    let (highNum, _) := scale (4 * m + 2)
    let inside (c : Nat) : Bool :=
      match compareDecimal c k lowNum den, compareDecimal c k highNum den with
      | .gt, .lt => true
      | .eq, _ => m % 2 == 0
      | _, .eq => m % 2 == 0
      | _, _ => false
    let (a, b) := gridNeighbours num den k
    let da := gridDistance a k num den
    let db := gridDistance b k num den
    match inside a, inside b with
    | true, false => (a, k)
    | false, true => (b, k)
    | true, true => if da < db then (a, k) else if db < da then (b, k) else if a % 2 == 0 then (a, k) else (b, k)
    | false, false => shortestFrom m e fuel (k - 1)

/-- The shortest decimal of `m * 2 ^ e`, for `m ≠ 0`, without trailing zeros. -/
def shortest (m : Nat) (e : Int) : Nat × Int :=
  let digits (n : Nat) : Int := (Nat.toDigits 10 n).length
  let top := if 0 ≤ e then digits (m * Nat.pow 2 e.toNat) else digits m - digits (Nat.pow 2 (-e).toNat) + 1
  shortestFrom m e 20 top

/-- Digits written as the decimal `0.d₁d₂… * 10 ^ point`. A point from -3 to 16 is written in place, with at least
one digit after it; any other exponent is written with a sign and at least two digits. -/
def layout (digits : List Char) (point : Int) : List Char :=
  if -3 ≤ point ∧ point ≤ 16 then
    if point ≤ 0 then '0' :: '.' :: (List.replicate (-point).toNat '0' ++ digits)
    else
      let n := point.toNat
      let whole := digits.take n ++ List.replicate (n - digits.length) '0'
      let fraction := digits.drop n
      whole ++ '.' :: (if fraction.isEmpty then ['0'] else fraction)
  else
    let lead := match digits with
      | [] => []
      | [d] => [d]
      | d :: rest => d :: '.' :: rest
    let x := point - 1
    let size := Nat.toDigits 10 x.natAbs
    let size := if size.length < 2 then '0' :: size else size
    lead ++ 'e' :: (if x < 0 then '-' else '+') :: size

/-- The text of a float: its shortest decimal, `inf`, `-inf` or `nan`. -/
def text (x : Binary64) : String :=
  if x.isNaN then "nan"
  else if x.isInfinite then (if x.isNegative then "-inf" else "inf")
  else
    match x.parts? with
    | none => "nan"
    | some (negative, m, e) =>
      let magnitude :=
        if m == 0 then ['0', '.', '0']
        else
          let (c, k) := shortest m e
          let digits := Nat.toDigits 10 c
          let kept := (digits.reverse.dropWhile (· == '0')).reverse
          layout kept (k + digits.length)
      String.ofList (if negative then '-' :: magnitude else magnitude)

end EvalSession.Binary64

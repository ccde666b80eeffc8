/-!
Finite floating-point numbers with 53 significant bits. A number is a sign and a magnitude, the
position of its absolute value in the increasing list of all finite ones; so the order of the
magnitudes is the order of the absolute values, and rounding goes to the nearer neighbour, to the
even one from the middle. Everything is exact arithmetic on `Nat`.
-/

namespace SensorTasks

/-- One more than the largest magnitude. -/
def Double.magnitudes : Nat := 2047 <<< 52

structure Double where
  negative : Bool
  magnitude : Nat
  finite : magnitude < Double.magnitudes
  deriving DecidableEq

namespace Double

/-- The significand `m` in `m * 2 ^ scale`. -/
def significand (x : Double) : Nat :=
  if x.magnitude < 1 <<< 52 then x.magnitude else 1 <<< 52 + x.magnitude % 1 <<< 52

/-- The power of two that the significand is multiplied with, plus 1074. -/
def scale (x : Double) : Nat :=
  x.magnitude >>> 52 - 1

/-- The absolute value as a quotient of natural numbers. -/
def ratio (x : Double) : Nat × Nat :=
  if 1074 ≤ x.scale then (x.significand <<< (x.scale - 1074), 1)
  else (x.significand, 1 <<< (1074 - x.scale))

def isZero (x : Double) : Bool :=
  x.magnitude == 0

def zero (negative : Bool) : Double := ⟨negative, 0, by decide⟩

/-! ### Rounding -/

/-- `num / den` rounded to the nearest integer, from the middle to the even one. -/
def divEven (num den : Nat) : Nat :=
  let q := num / den
  let r := num % den
  if 2 * r < den then q
  else if den < 2 * r then q + 1
  else if q % 2 == 0 then q else q + 1

/-- The scale at which the significand of `num / den` has 53 bits, or the least scale. -/
def scaleOf (num den : Nat) : Nat :=
  -- `num * 2 ^ 1074 / den` lies between `2 ^ (d - 1)` and `2 ^ (d + 1)`
  let d := num.log2 + 1074 - den.log2
  let s := d - 53
  if num <<< 1074 < den <<< (s + 53) then s else s + 1

/-- The magnitude of the number nearest to `num / den`; there is none beyond the largest one. -/
def nearest (num den : Nat) : Nat :=
  if num == 0 then 0
  else
    let s := scaleOf num den
    s <<< 52 + divEven (num <<< 1074) (den <<< s)

def ofRatio? (negative : Bool) (num den : Nat) : Option Double :=
  let m := nearest num den
  if h : m < magnitudes then some ⟨negative, m, h⟩ else none

/-- The product, rounded; nothing if it is too large. -/
def mul? (x y : Double) : Option Double :=
  ofRatio? (x.negative != y.negative) (x.ratio.1 * y.ratio.1) (x.ratio.2 * y.ratio.2)

/-- The quotient, rounded; nothing if it is too large or the divisor is zero. -/
def div? (x y : Double) : Option Double :=
  if y.isZero then none
  else ofRatio? (x.negative != y.negative) (x.ratio.1 * y.ratio.2) (x.ratio.2 * y.ratio.1)

def ofNat? (n : Nat) : Option Double :=
  ofRatio? false n 1

/-! ### Decimal notation

A decimal is read in two steps, as many readers do: the digits that fit into 64 bits become a
number, and that is multiplied with or divided by a power of ten. Each step rounds. -/

def powerOfTen (k : Nat) : Option Double :=
  ofNat? (Nat.pow 10 k)

def divByTen (x : Double) (k : Nat) : Option Double :=
  (powerOfTen k).bind x.div?

/-- The largest power of ten that is a number. -/
def largestPower : Nat := 308

/-- `x` divided by the largest power of ten, `times` over. -/
def shrink : Nat → Double → Option Double
  | 0, x => some x
  | times + 1, x => if x.isZero then some x else (x.divByTen largestPower).bind (shrink times)

/-- `x` times `10 ^ exponent`; nothing if that is too large. -/
def scaleByTen (x : Double) (exponent : Int) : Option Double :=
  let k := exponent.natAbs
  if exponent < 0 then
    let times := (k - 1) / largestPower
    (shrink times x).bind fun y =>
      if y.isZero then some y else y.divByTen (k - times * largestPower)
  else if k ≤ largestPower then (powerOfTen k).bind x.mul?
  else if x.isZero then some x
  else none

/-- The number written `digits * 10 ^ exponent`, digits below `2 ^ 64`. -/
def ofDecimal? (negative : Bool) (digits : Nat) (exponent : Int) : Option Double := do
  let x ← ofNat? digits
  let y ← scaleByTen x exponent
  pure { y with negative := negative }

end Double

end SensorTasks

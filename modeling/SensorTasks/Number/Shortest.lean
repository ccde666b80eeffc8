import SensorTasks.Number.Double

/-!
The shortest decimal that reads back as a given number, and of several of one length the nearest.
A decimal reads back when it lies in the interval of the reals that round to the number. For one,
two, … seventeen digits the two neighbours of the number on that decimal grid are tried; the first
grid with a hit wins.
-/

namespace SensorTasks.Double

/-- The reals that round to a number: between `low / den` and `high / den`, with the ends if
`closed`. -/
structure Interval where
  low : Nat
  high : Nat
  den : Nat
  closed : Bool

/-- The number and its interval over one denominator. -/
def interval (x : Double) : Nat × Interval :=
  let m := x.significand
  -- below a power of two the neighbours are half as far apart
  let atPower := m == 1 <<< 52 && x.scale != 0
  let (up, down) :=
    if 1076 ≤ x.scale then (1 <<< (x.scale - 1076), 1) else (1, 1 <<< (1076 - x.scale))
  (4 * m * up,
    { low := (if atPower then 4 * m - 1 else 4 * m - 2) * up
      high := (4 * m + 2) * up
      den := down
      closed := m % 2 == 0 })

def Interval.contains (i : Interval) (num den : Nat) : Bool :=
  let v := num * i.den
  if i.closed then i.low * den ≤ v && v ≤ i.high * den else i.low * den < v && v < i.high * den

/-- The exponent of the first digit of `num / den`. -/
def leadingExponent (num den : Nat) : Int :=
  if den ≤ num then ((Nat.toDigits 10 (num / den)).length : Int) - 1
  else
    let j := (Nat.toDigits 10 (den / num)).length
    if den ≤ num * Nat.pow 10 (j - 1) then 1 - (j : Int) else -(j : Int)

/-- The decimal `digits * 10 ^ exponent` of `count` digits that reads back, if there is one. -/
def withDigits (value : Nat) (i : Interval) (count : Nat) : Option (Nat × Int) :=
  let e := leadingExponent value i.den - count + 1
  let (up, down) := if 0 ≤ e then (Nat.pow 10 e.toNat, 1) else (1, Nat.pow 10 (-e).toNat)
  -- the number divided by the grid width `up / down`
  let num := value * down
  let den := i.den * up
  let q := num / den
  let r := num % den
  let hit n := i.contains (n * up) down
  match hit q, hit (q + 1) with
  | true, true => some (if 2 * r < den || (2 * r == den && q % 2 == 0) then (q, e) else (q + 1, e))
  | true, false => some (q, e)
  | false, true => some (q + 1, e)
  | false, false => none

/-- A decimal without zeros at its end. -/
def dropZeros : Nat → Nat × Int → Nat × Int
  | 0, d => d
  | fuel + 1, (digits, e) =>
    if digits % 10 == 0 && digits != 0 then dropZeros fuel (digits / 10, e + 1) else (digits, e)

/-- The digits of the shortest decimal of a number that is not zero, and the exponent of the
last digit. -/
def shortest (x : Double) : Nat × Int :=
  let (value, i) := x.interval
  match (List.range 17).findSome? fun n => withDigits value i (n + 1) with
  | some d => dropZeros 17 d
  | none => (value, 0)

/-! ### Written forms -/

/-- What a format decides: for which exponents of the first digit it writes no exponent, and
whether a whole number gets a point and a zero. -/
structure Style where
  positional : Int → Bool
  pointAlways : Bool

/-- The form in JSON and in messages: no exponent from `1e-5` up to `1e16`. -/
def jsonStyle : Style where
  positional e := -5 ≤ e && e < 16
  pointAlways := true

/-- The form without exponent. -/
def plainStyle : Style where
  positional _ := true
  pointAlways := false

def positionalChars (style : Style) (digits : List Char) (last : Int) : List Char :=
  if 0 ≤ last then
    digits ++ List.replicate last.toNat '0' ++ (if style.pointAlways then ['.', '0'] else [])
  else
    let places := (-last).toNat
    if places < digits.length then
      digits.take (digits.length - places) ++ '.' :: digits.drop (digits.length - places)
    else '0' :: '.' :: List.replicate (places - digits.length) '0' ++ digits

def exponentChars (digits : List Char) (first : Int) : List Char :=
  let e := Nat.toDigits 10 first.natAbs
  digits.take 1 ++ (if digits.length ≤ 1 then [] else '.' :: digits.drop 1) ++
    'e' :: (if first < 0 then '-' else '+') :: (if e.length < 2 then '0' :: e else e)

def chars (style : Style) (x : Double) : List Char :=
  (if x.negative then ['-'] else []) ++
    if x.isZero then (if style.pointAlways then ['0', '.', '0'] else ['0'])
    else
      let (n, last) := x.shortest
      let digits := Nat.toDigits 10 n
      let first := last + digits.length - 1
      if style.positional first then positionalChars style digits last
      else exponentChars digits first

def render (style : Style) (x : Double) : String :=
  String.ofList (x.chars style)

end SensorTasks.Double

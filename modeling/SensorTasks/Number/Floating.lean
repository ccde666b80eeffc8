import SensorTasks.Number.Shortest
import SensorTasks.Text.Blank

/-!
Floating-point numbers together with the two infinities and the value that is no number, read from
decimal numerals. A numeral stands for the number nearest to its exact value, and beyond the largest
number for an infinity.
-/

namespace SensorTasks

inductive Floating where
  | finite (x : Double)
  | infinite (negative : Bool)
  | undefined
  deriving DecidableEq

namespace Floating

/-- The number nearest to `digits * 10 ^ exponent`. -/
def ofDecimal (negative : Bool) (digits : Nat) (exponent : Int) : Floating :=
  -- the absolute value is below `10 ^ size`
  let size := ((Nat.toDigits 10 digits).length : Int) + exponent
  if digits == 0 || size < -330 then .finite (.zero negative)
  else if 310 < size then .infinite negative
  else
    let (num, den) :=
      if 0 ≤ exponent then (digits * Nat.pow 10 exponent.toNat, 1)
      else (digits, Nat.pow 10 (-exponent).toNat)
    match Double.ofRatio? negative num den with
    | some x => .finite x
    | none => .infinite negative

def ofInt (n : Int) : Floating := ofDecimal (n < 0) n.natAbs 0

/-! ### Numerals -/

/-- A sign and what follows it. -/
def takeSign : List Char → Bool × List Char
  | '-' :: cs => (true, cs)
  | '+' :: cs => (false, cs)
  | cs => (false, cs)

/-- The names of the values that have no digits. -/
def named? (negative : Bool) (name : String) : Option Floating :=
  if name = "inf" || name = "infinity" then some (.infinite negative)
  else if name = "nan" then some .undefined
  else none

/-- The exponent after the letter that announces it; zero if there is no such letter. -/
def exponent? : Option (List Char) → Option Int
  | none => some 0
  | some cs =>
    let (negative, ds) := takeSign cs
    if ds.isEmpty || !ds.all Char.isDigit then none
    else
      let n : Int := Nat.ofDigitChars 10 ds 0
      some (if negative then -n else n)

/-- A numeral without its sign: digits with a point before, among or after them, and an exponent. -/
def unsigned? (negative : Bool) (cs : List Char) : Option Floating :=
  let (mantissa, exponent) := match Text.cut (fun c => c == 'e' || c == 'E') cs with
    | some (m, e) => (m, some e)
    | none => (cs, none)
  let (whole, fraction) := (Text.cut (· == '.') mantissa).getD (mantissa, [])
  let digits := whole ++ fraction
  if digits.isEmpty || !digits.all Char.isDigit then none
  else
    (exponent? exponent).map fun e =>
      ofDecimal negative (Nat.ofDigitChars 10 digits 0) (e - fraction.length)

/-- The value of a numeral or a name, with or without a sign. -/
def parse? (cs : List Char) : Option Floating :=
  let (negative, rest) := takeSign cs
  match named? negative (String.ofList (rest.map Char.toLower)) with
  | some x => some x
  | none => unsigned? negative rest

/-! ### Use -/

def render : Floating → String
  | .finite x => x.render Double.plainStyle
  | .infinite false => "inf"
  | .infinite true => "-inf"
  | .undefined => "NaN"

/-- The nearest natural number of 64 bits, from the middle the larger one. -/
def toWord : Floating → Nat
  | .finite x =>
    let (num, den) := x.ratio
    if x.negative then 0 else min ((2 * num + den) / (2 * den)) (UInt64.size - 1)
  | .infinite negative => if negative then 0 else UInt64.size - 1
  | .undefined => 0

end Floating

end SensorTasks

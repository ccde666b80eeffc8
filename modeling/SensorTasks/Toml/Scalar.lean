import SensorTasks.Calendar
import SensorTasks.Settings.Basic
import SensorTasks.Toml.Text

/-!
Values that are written without quotes: truth values, integers in four bases, numbers with a
fraction or an exponent, dates and times. Between two digits of a number there may be an underscore.
Dates and times become texts in one form.
-/

namespace SensorTasks.Toml

/-! ### Numbers -/

/-- Digits with single underscores between them, without the underscores. -/
def digits? (isDigit : Char → Bool) (cs : List Char) : Option (List Char) :=
  let groups := Text.fields (· == '_') cs
  if groups.all fun g => !g.isEmpty && g.all isDigit then some groups.flatten else none

/-- Decimal digits without a zero that could be left out. -/
def whole? (cs : List Char) : Option (List Char) :=
  (digits? Char.isDigit cs).filter fun ds => ds.length == 1 || ds.head? != some '0'

/-- The number has 64 bits, one of them for the sign. -/
def fits (n : Int) : Bool :=
  let limit : Int := (UInt64.size / 2 : Nat)
  0 ≤ n + limit && n < limit

def inBase (base : Nat) (cs : List Char) : Option Int :=
  (digits? (fun c => (Text.hexValue c).any (· < base)) cs).map fun ds =>
    ((ds.filterMap Text.hexValue).foldl (fun n d => n * base + d) 0 : Nat)

def integer? (cs : List Char) : Option Int :=
  let value := match cs with
    | '0' :: 'x' :: ds => inBase 16 ds
    | '0' :: 'o' :: ds => inBase 8 ds
    | '0' :: 'b' :: ds => inBase 2 ds
    | cs =>
      let (negative, ds) := Floating.takeSign cs
      (whole? ds).map fun ds =>
        let n : Int := Nat.ofDigitChars 10 ds 0
        if negative then -n else n
  value.filter fits

def isExponentMark (c : Char) : Bool := c == 'e' || c == 'E'

/-- The digits of a number with a fraction or an exponent, as one numeral without underscores. -/
def floatDigits? (cs : List Char) : Option (List Char) := do
  let (mantissa, exponent) := match Text.cut isExponentMark cs with
    | some (m, e) => (m, some e)
    | none => (cs, none)
  let (whole, fraction) := match Text.cut (· == '.') mantissa with
    | some (w, f) => (w, some f)
    | none => (mantissa, none)
  if fraction.isNone && exponent.isNone then none
  let whole ← whole? whole
  let fraction ← match fraction with
    | some f => (digits? Char.isDigit f).map ('.' :: ·)
    | none => some []
  let exponent ← match exponent with
    | some e =>
      let (negative, ds) := Floating.takeSign e
      (digits? Char.isDigit ds).map fun ds => 'e' :: (if negative then '-' :: ds else ds)
    | none => some []
  pure (whole ++ fraction ++ exponent)

def float? (cs : List Char) : Option Floating :=
  let (negative, rest) := Floating.takeSign cs
  if rest = "inf".toList then some (.infinite negative)
  else if rest = "nan".toList then some .undefined
  else (floatDigits? rest).bind (Floating.unsigned? negative)

/-! ### Dates and times -/

def two? (a b : Char) : Option Nat :=
  if a.isDigit && b.isDigit then some (Nat.ofDigitChars 10 [a, b] 0) else none

/-- A date and what follows it. -/
def takeDate : List Char → Option (List Char × List Char)
  | a :: b :: c :: d :: '-' :: e :: f :: '-' :: g :: h :: cs => do
    let year := (← two? a b) * 100 + (← two? c d)
    let _ ← Date.ofParts? year (← two? e f) (← two? g h)
    pure ([a, b, c, d, '-', e, f, '-', g, h], cs)
  | _ => none

/-- The digits of a fraction as they are written: nine at most and no zeros at the end. -/
def fractionText (ds : List Char) : List Char :=
  let kept := ((ds.take 9).reverse.dropWhile (· == '0')).reverse
  if kept.isEmpty then [] else '.' :: kept

def takeFraction : List Char → Option (List Char × List Char)
  | '.' :: cs =>
    let ds := cs.takeWhile Char.isDigit
    if ds.isEmpty then none else some (fractionText ds, cs.drop ds.length)
  | cs => some ([], cs)

/-- A time of the day and what follows it. -/
def takeTime : List Char → Option (List Char × List Char)
  | a :: b :: ':' :: c :: d :: ':' :: e :: f :: cs => do
    let hour ← two? a b
    let minute ← two? c d
    let second ← two? e f
    if 23 < hour || 59 < minute || 60 < second then none
    let (fraction, rest) ← takeFraction cs
    pure ([a, b, ':', c, d, ':', e, f] ++ fraction, rest)
  | _ => none

/-- The distance from universal time at the end of a date and time, if it is given. -/
def offset? : List Char → Option (List Char)
  | [] => some []
  | ['Z'] | ['z'] => some ['Z']
  | [sign, a, b, ':', c, d] => do
    let hour ← two? a b
    let minute ← two? c d
    if 23 < hour || 59 < minute then none
    if sign == '+' || (sign == '-' && hour + minute == 0) then some ['+', a, b, ':', c, d]
    else if sign == '-' then some [sign, a, b, ':', c, d]
    else none
  | _ => none

def isDateSeparator (c : Char) : Bool := c == 'T' || c == 't' || c == ' '

/-- A date, a time, or both with the distance from universal time. -/
def dateTime? (cs : List Char) : Option String :=
  match takeDate cs with
  | some (date, []) => some (String.ofList date)
  | some (date, separator :: rest) => do
    if !isDateSeparator separator then none
    let (time, rest) ← takeTime rest
    let offset ← offset? rest
    pure (String.ofList (date ++ 'T' :: time ++ offset))
  | none =>
    match takeTime cs with
    | some (time, []) => some (String.ofList time)
    | _ => none

/-! ### Words -/

def isWordChar (c : Char) : Bool :=
  c.isAlphanum || "_+-.:".toList.contains c

/-- A run of word characters; a date and a time with a blank between them are one word. -/
def takeWord (cs : List Char) : List Char × List Char :=
  let word := cs.takeWhile isWordChar
  let rest := cs.drop word.length
  match takeDate word, rest with
  | some (_, []), ' ' :: c :: more =>
    if c.isDigit then
      let time := (c :: more).takeWhile isWordChar
      (word ++ ' ' :: time, (c :: more).drop time.length)
    else (word, rest)
  | _, _ => (word, rest)

def ofWord? (word : List Char) : Option Setting :=
  if word = "true".toList then some (.flag true)
  else if word = "false".toList then some (.flag false)
  else
    (integer? word).map .integer <|> (float? word).map .real <|> (dateTime? word).map .text

end SensorTasks.Toml

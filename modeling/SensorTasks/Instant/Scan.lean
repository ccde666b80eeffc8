import SensorTasks.Instant.Basic
import SensorTasks.Text.Blank

/-!
The pieces that dates are read from: numbers of some digits, fractions of a second, offsets. The
first thing that is wrong gives the error.
-/

namespace SensorTasks

inductive DateError where
  /-- A character that cannot stand there. -/
  | invalid
  /-- The text ends too early. -/
  | short
  /-- Something follows the date. -/
  | trailing
  /-- A number too large, or a date that does not exist. -/
  | range
  /-- A date whose offset takes it out of the calendar. -/
  | impossible
  deriving DecidableEq

def DateError.message : DateError → String
  | .invalid => "input contains invalid characters"
  | .short => "premature end of input"
  | .trailing => "trailing input"
  | .range => "input is out of range"
  | .impossible => "no possible date and time matching input"

namespace DateText

abbrev Scan (α : Type) := Except DateError (α × List Char)

/-- A character that has to be there. -/
def mark (c : Char) : List Char → Scan Unit
  | [] => .error .short
  | d :: cs => if c = d then .ok ((), cs) else .error .invalid

/-- A number of `least` to `most` digits; it has to fit into 63 bits. -/
def number (least most : Nat) (cs : List Char) : Scan Nat :=
  let ds := (cs.take most).takeWhile Char.isDigit
  if ds.length < least then .error (if ds.length = cs.length then .short else .invalid)
  else
    let n := Nat.ofDigitChars 10 ds 0
    if n < UInt64.size / 2 then .ok (n, cs.drop ds.length) else .error .range

/-- A number between two bounds. -/
def bounded (low high least most : Nat) (cs : List Char) : Scan Nat :=
  match number least most cs with
  | .ok (n, rest) => if low ≤ n && n ≤ high then .ok (n, rest) else .error .range
  | .error e => .error e

/-- The digits after the point as nanoseconds; those after the ninth are passed over. -/
def fraction (cs : List Char) : Scan Nat :=
  match cs with
  | '.' :: cs =>
    match number 1 9 cs with
    | .ok (n, rest) =>
      .ok (n * Nat.pow 10 (9 - (cs.length - rest.length)), rest.dropWhile Char.isDigit)
    | .error e => .error e
  | cs => .ok (0, cs)

/-- Two digits, the first of them at most `lead`. -/
def twoDigits (lead : Nat) : List Char → Scan Nat
  | a :: b :: cs =>
    if a.isDigit && b.isDigit then
      let t := a.toNat - 48
      if t ≤ lead then .ok (t * 10 + (b.toNat - 48), cs) else .error .range
    else .error .invalid
  | [a] => .error (if a.toNat < 128 then .short else .invalid)
  | [] => .error .short

/-- `Z`, or a sign, hours and minutes with `between` in the middle; in seconds. -/
def offset (between : List Char → Scan Unit) : List Char → Scan Int
  | [] => .error .short
  | c :: cs =>
    if c == 'Z' || c == 'z' then .ok (0, cs)
    else if c == '+' || c == '-' || c == Char.ofNat 0x2212 then
      match twoDigits 9 cs with
      | .error e => .error e
      | .ok (h, cs) =>
        match between cs with
        | .error e => .error e
        | .ok (_, cs) =>
          match twoDigits 5 cs with
          | .error e => .error e
          | .ok (m, cs) =>
            let total : Int := h * 3600 + m * 60
            .ok (if c == '+' then total else -total, cs)
    else .error .invalid

/-- The stamp of the numbers read, if there is one. -/
def stamp? (year : Int) (month day hour minute second nano : Nat) (offset : Int) : Option Stamp :=
  if offset.natAbs < 86400 then
    (Date.ofParts? year month day).bind fun d => Stamp.ofParts? d hour minute second nano offset
  else none

end DateText

end SensorTasks

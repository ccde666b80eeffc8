import SensorTasks.Calendar
import SensorTasks.Text.Quoted

/-!
Instants with nanoseconds, and stamps, which write them: a date, a time of day and an offset. A
leap second is the second half of the second before it: its nanoseconds count from `10 ^ 9` on, so
it lies after that second and before the next minute.
-/

namespace SensorTasks

/-- A date and a time of day at some offset, in seconds, from universal time. -/
structure Stamp where
  date : Date
  hour : Nat
  minute : Nat
  second : Nat
  nano : Nat
  offset : Int
  valid : (hour < 24 ∧ minute < 60 ∧ second ≤ 60 ∧ nano < 1000000000) ∧ offset % 60 = 0
  deriving DecidableEq

namespace Instant

/-- The first second that has an instant, and the last. -/
def firstSecond : Int := -8334601228800

def lastSecond : Int := 8210266876799

end Instant

structure Instant where
  /-- Seconds since the first of January 1970; a leap second is not counted. -/
  second : Int
  nano : Nat
  valid : (nano < 1000000000 ∨ nano < 2000000000 ∧ second % 60 = 59) ∧
    Instant.firstSecond ≤ second ∧ second ≤ Instant.lastSecond
  deriving DecidableEq

namespace Instant

theorem epoch_valid : ((0 : Nat) < 1000000000 ∨ (0 : Nat) < 2000000000 ∧ (0 : Int) % 60 = 59) ∧
    firstSecond ≤ 0 ∧ (0 : Int) ≤ lastSecond := by decide

/-- The beginning of the year 1970. -/
def epoch : Instant := ⟨0, 0, epoch_valid⟩

def ofSecond? (second : Int) (nano : Nat) : Option Instant :=
  if h : (nano < 1000000000 ∨ nano < 2000000000 ∧ second % 60 = 59) ∧
      firstSecond ≤ second ∧ second ≤ lastSecond then
    some ⟨second, nano, h⟩
  else none

/-- The second that a stamp names, or for a leap second the one before it. -/
def secondOf (s : Stamp) : Int :=
  s.date.toDay * 86400 + (s.hour * 3600 + s.minute * 60 + min s.second 59 : Nat) - s.offset

def nanoOf (s : Stamp) : Nat :=
  s.nano + if s.second = 60 then 1000000000 else 0

/-- The instant of a stamp; there is none too far from now. -/
def ofStamp? (s : Stamp) : Option Instant :=
  ofSecond? (secondOf s) (nanoOf s)

/-- The stamp in universal time. -/
def toStamp (t : Instant) : Stamp where
  date := Date.ofDay (t.second / 86400)
  hour := (t.second % 86400).toNat / 3600
  minute := (t.second % 86400).toNat / 60 % 60
  second := (t.second % 86400).toNat % 60 + t.nano / 1000000000
  nano := t.nano % 1000000000
  offset := 0
  valid := by
    have h := t.valid.1
    refine ⟨⟨by omega, by omega, by omega, Nat.mod_lt _ (by decide)⟩, rfl⟩

/-- The order of time. -/
def before (a b : Instant) : Bool :=
  a.second < b.second || (a.second == b.second && a.nano < b.nano)

protected def compare (a b : Instant) : Ordering :=
  if a.before b then .lt else if b.before a then .gt else .eq

/-- The instant with its last digits cut off after the milliseconds. -/
def toMillis (t : Instant) : Instant where
  second := t.second
  nano := t.nano / 1000000 * 1000000
  valid := by
    have h := t.valid
    omega

end Instant

/-! ### Written forms -/

/-- How many digits a second has after the point. -/
inductive Precision where
  | seconds
  | millis
  | micros
  | nanos
  deriving DecidableEq

namespace Precision

def all : List Precision := [.seconds, .millis, .micros, .nanos]

/-- The fewest digits that lose nothing. -/
def exact (nano : Nat) : Precision :=
  if nano == 0 then .seconds
  else if nano % 1000000 == 0 then .millis
  else if nano % 1000 == 0 then .micros
  else .nanos

end Precision

namespace Stamp

def padded (width n : Nat) : List Char :=
  Text.zeroPad width (Nat.toDigits 10 n)

/-- Four digits, and outside of the years 0 to 9999 a sign. -/
def yearChars (year : Int) : List Char :=
  if 0 ≤ year && year ≤ 9999 then padded 4 year.toNat
  else (if year < 0 then '-' else '+') :: padded 4 year.natAbs

def fractionChars (nano : Nat) : Precision → List Char
  | .seconds => []
  | .millis => '.' :: padded 3 (nano / 1000000)
  | .micros => '.' :: padded 6 (nano / 1000)
  | .nanos => '.' :: padded 9 nano

def offsetChars (zulu : Bool) (offset : Int) : List Char :=
  if zulu && offset == 0 then ['Z']
  else
    let m := offset.natAbs / 60
    (if offset < 0 then '-' else '+') :: padded 2 (m / 60) ++ ':' :: padded 2 (m % 60)

/-- The stamp in the given precision, with `Z` for no offset if `zulu`. -/
def chars (precision : Precision) (zulu : Bool) (s : Stamp) : List Char :=
  yearChars s.date.year ++ '-' :: padded 2 s.date.month ++ '-' :: padded 2 s.date.day ++
    'T' :: padded 2 s.hour ++ ':' :: padded 2 s.minute ++ ':' :: padded 2 s.second ++
    fractionChars s.nano precision ++ offsetChars zulu s.offset

def ofParts? (date : Date) (hour minute second nano : Nat) (offset : Int) : Option Stamp :=
  if h : (hour < 24 ∧ minute < 60 ∧ second ≤ 60 ∧ nano < 1000000000) ∧ offset % 60 = 0 then
    some ⟨date, hour, minute, second, nano, offset, h⟩
  else none

end Stamp

namespace Instant

def renderWith (precision : Precision) (t : Instant) : String :=
  String.ofList (t.toStamp.chars precision true)

/-- The form in documents: no digit more than needed. -/
def render (t : Instant) : String :=
  t.renderWith (.exact t.toStamp.nano)

end Instant

end SensorTasks

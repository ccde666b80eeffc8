import SensorTasks.Instant.Scan

/-!
Dates in documents, read with patience: blanks may stand before the numbers and the marks between
them, numbers may be short, a year may have a sign, and the offset may be given as `UTC`.
-/

namespace SensorTasks.DateText

def skipBlanks (cs : List Char) : List Char :=
  cs.dropWhile Text.isBlank

/-- A year: up to four digits, or any number of them after a sign. -/
def signedYear (cs : List Char) : Scan Int :=
  let checked (negative : Bool) (r : Scan Nat) : Scan Int :=
    match r with
    | .error e => .error e
    | .ok (n, rest) =>
      let y : Int := if negative then -n else n
      if -2147483648 ≤ y && y ≤ 2147483647 then .ok (y, rest) else .error .range
  match skipBlanks cs with
  | '-' :: cs => checked true (number 1 cs.length cs)
  | '+' :: cs => checked false (number 1 cs.length cs)
  | cs => checked false (number 1 4 cs)

/-- One or two digits after blanks. -/
def short (low high : Nat) (cs : List Char) : Scan Nat :=
  bounded low high 1 2 (skipBlanks cs)

def spacedMark (c : Char) (cs : List Char) : Scan Unit :=
  mark c (skipBlanks cs)

/-- What stands between the date and the time of day. -/
def separator : List Char → Scan Unit
  | [] => .error .short
  | c :: cs => if c == 'T' || c == 't' || c == ' ' then .ok ((), cs) else .error .invalid

def isUtc (cs : List Char) : Bool :=
  (cs.take 3).map Char.toUpper == ['U', 'T', 'C']

/-- `UTC`, `Z`, or hours and minutes with colons and blanks, or nothing, between them. -/
def namedOffset (cs : List Char) : Scan Int :=
  if isUtc cs then .ok (0, cs.drop 3)
  else offset (fun cs => .ok ((), cs.dropWhile fun c => c == ':' || Text.isBlank c)) cs

def documentDate (cs : List Char) : Except DateError Instant := do
  let (year, cs) ← signedYear cs
  let (_, cs) ← spacedMark '-' cs
  let (month, cs) ← short 1 12 cs
  let (_, cs) ← spacedMark '-' cs
  let (day, cs) ← short 1 31 cs
  let (_, cs) ← separator cs
  let (hour, cs) ← short 0 23 cs
  let (_, cs) ← spacedMark ':' cs
  let (minute, cs) ← short 0 59 cs
  let (_, cs) ← spacedMark ':' cs
  let (second, cs) ← short 0 60 cs
  let (nano, cs) ← fraction cs
  let (offset, cs) ← namedOffset (skipBlanks cs)
  if !(skipBlanks cs).isEmpty then .error .trailing
  else if year < -262143 || 262142 < year then .error .range
  else
    match stamp? year month day hour minute second nano offset with
    | none => .error .range
    | some s =>
      match Instant.ofStamp? s with
      | some t => .ok t
      | none => .error .impossible

end SensorTasks.DateText

namespace SensorTasks.Instant

/-- Reads a date of a document. -/
def parse (text : String) : Except DateError Instant :=
  DateText.documentDate text.toList

end SensorTasks.Instant

import SensorTasks.Instant.Scan

/-!
Dates in messages. A text is one only if the stamp read from it is written, in some precision and
with or without `Z`, as that very text; so every spelling that a reader would silently change is
refused. They are sent in universal time with milliseconds.
-/

namespace SensorTasks.DateText

/-- A stamp with all digits, `T` in either case or a blank, and an offset. -/
def strictStamp (cs : List Char) : Except DateError Stamp := do
  let (year, cs) ← number 4 4 cs
  let (_, cs) ← mark '-' cs
  let (month, cs) ← bounded 1 12 2 2 cs
  let (_, cs) ← mark '-' cs
  let (day, cs) ← bounded 1 31 2 2 cs
  let (_, cs) ← match cs with
    | [] => .error .short
    | c :: cs => if c == 'T' || c == 't' || c == ' ' then .ok ((), cs) else .error .invalid
  let (hour, cs) ← bounded 0 23 2 2 cs
  let (_, cs) ← mark ':' cs
  let (minute, cs) ← bounded 0 59 2 2 cs
  let (_, cs) ← mark ':' cs
  let (second, cs) ← bounded 0 60 2 2 cs
  let (nano, cs) ← fraction cs
  let (offset, cs) ← offset (mark ':') cs
  if !cs.isEmpty then .error .trailing
  else
    match stamp? year month day hour minute second nano offset with
    | some s => .ok s
    | none => .error .range

end SensorTasks.DateText

namespace SensorTasks.Stamp

/-- `cs` is one of the written forms of the stamp. -/
def isWritten (s : Stamp) (cs : List Char) : Bool :=
  Precision.all.any fun p => s.chars p true == cs || s.chars p false == cs

end SensorTasks.Stamp

namespace SensorTasks.Instant

/-- Reads a date of a message. -/
def ofWire? (text : String) : Option Instant :=
  match DateText.strictStamp text.toList with
  | .error _ => none
  | .ok s => if s.isWritten text.toList then ofStamp? s else none

/-- The form in messages. -/
def toWire (t : Instant) : String :=
  t.renderWith .millis

/-- What is said of a text that is no date of a message. -/
def wireError (text : String) : String :=
  "Invalid ISO-8601 date: " ++ text

end SensorTasks.Instant

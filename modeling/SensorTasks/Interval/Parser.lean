import SensorTasks.Interval.Basic
import SensorTasks.Text.Blank
import SensorTasks.Text.Case
import SensorTasks.Text.Numeral

/-!
Reading intervals: "5 minutes", "every two days", "2h 15m", "1 day, 2 hours". Case does not
matter, commas are blanks, "and" is skipped, and so is "every" at the front. A count is a numeral
or one of some number words; it is a word before its unit, or digits that the unit is written to.
-/

namespace SensorTasks

inductive IntervalError where
  /-- Nothing to read, or a count without a unit. -/
  | invalidFormat (text : String)
  /-- No count, or more than 64 bits of seconds. -/
  | invalidNumber (text : String)
  | invalidUnit (text : String)
  deriving DecidableEq

def IntervalError.message : IntervalError → String
  | .invalidFormat s => "Invalid interval format: " ++ s
  | .invalidNumber s => "Invalid number: " ++ s
  | .invalidUnit s => "Invalid unit: " ++ s

namespace Interval

def numberWords : List (String × Nat) :=
  [("a", 1), ("an", 1), ("one", 1), ("two", 2), ("three", 3), ("four", 4), ("five", 5),
   ("six", 6), ("seven", 7), ("eight", 8), ("nine", 9), ("ten", 10), ("eleven", 11),
   ("twelve", 12), ("fifteen", 15), ("twenty", 20), ("thirty", 30), ("forty", 40),
   ("fifty", 50), ("sixty", 60)]

def unitWords : List (String × Nat) :=
  [("s", 1), ("sec", 1), ("secs", 1), ("second", 1), ("seconds", 1),
   ("m", 60), ("min", 60), ("mins", 60), ("minute", 60), ("minutes", 60),
   ("h", 3600), ("hr", 3600), ("hrs", 3600), ("hour", 3600), ("hours", 3600),
   ("d", 86400), ("day", 86400), ("days", 86400),
   ("w", 604800), ("week", 604800), ("weeks", 604800)]

def readCount (word : List Char) : Except IntervalError Nat :=
  match Text.natural? (UInt64.size) word with
  | some n => .ok n
  | none =>
    match numberWords.lookup (String.ofList word) with
    | some n => .ok n
    | none => .error (.invalidNumber (String.ofList word))

/-- The length of a unit in seconds. -/
def readUnit (word : List Char) : Except IntervalError Nat :=
  match unitWords.lookup (String.ofList word) with
  | some n => .ok n
  | none => .error (.invalidUnit (String.ofList word))

/-- `total` and `count` units, if they fit into 64 bits. -/
def addUnits (text : String) (total count unit : Nat) : Except IntervalError Nat :=
  if count * unit < UInt64.size && total + count * unit < UInt64.size then
    .ok (total + count * unit)
  else .error (.invalidNumber text)

/-- The digits at the front of a word that goes on with something else. -/
def splitCount (word : List Char) : Option (List Char × List Char) :=
  let ds := word.takeWhile Char.isDigit
  let rest := word.dropWhile Char.isDigit
  if ds.isEmpty || rest.isEmpty then none else some (ds, rest)

/-- The seconds of all items of a list of words, after `total` seconds before them. -/
def sumItems (text : String) (total : Nat) : List (List Char) → Except IntervalError Nat
  | [] => .ok total
  | word :: rest =>
    match splitCount word with
    | some (ds, unit) => do
      let count ← readCount ds
      let unit ← readUnit unit
      let total ← addUnits text total count unit
      sumItems text total rest
    | none => do
      let count ← readCount word
      match rest with
      | [] => .error (.invalidFormat text)
      | unit :: rest => do
        let unit ← readUnit unit
        let total ← addUnits text total count unit
        sumItems text total rest

/-- The words of a text that count, in lower case. -/
def significantWords (text : String) : List (List Char) :=
  let lower := Text.toLower (Text.trimChars text.toList)
  let spaced := lower.map fun c => if c == ',' then ' ' else c
  (Text.words spaced).filter fun w => w != "and".toList

/-- The words after "every" at the front. -/
def afterEvery : List (List Char) → List (List Char)
  | [] => []
  | w :: ws => if w == "every".toList then ws else w :: ws

def parse (text : String) : Except IntervalError Interval :=
  match afterEvery (significantWords text) with
  | [] => .error (.invalidFormat text)
  | words =>
    match sumItems text 0 words with
    | .error e => .error e
    | .ok n => if h : n < UInt64.size then .ok ⟨n, h⟩ else .error (.invalidNumber text)

end Interval

end SensorTasks

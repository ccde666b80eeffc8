import SensorTasks.Interval.Parser

/-!
Cron patterns: five to seven fields for second, minute, hour, day of the month, month, day of the
week and year, of which the second and the year may be left out. A pattern is brought into a
standard spelling first, with names of days and months as numbers; that spelling is kept.

A field is `*` or a list of numbers, ranges and steps; days have some more forms, as the last day
of the month or the second Monday.
-/

namespace SensorTasks

inductive CronError where
  | fieldCount
  | illegalCharacter (c : Char) (field : String)
  | component (reason : String)
  deriving DecidableEq

def CronError.message : CronError → String
  | .fieldCount => "Invalid pattern: Pattern must have between 5 and 7 fields."
  | .illegalCharacter c field =>
    "Pattern contains illegal characters: CronPattern contains illegal character '" ++
      c.toString ++ "' in part '" ++ field ++ "'"
  | .component reason => "Component error: " ++ reason

/-- A pattern that has been read, in its standard spelling. -/
structure Cron where
  pattern : String
  deriving DecidableEq

namespace Cron

/-! ### The standard spelling -/

def nicknames : List (String × String) :=
  [("@YEARLY", "0 0 1 1 *"), ("@ANNUALLY", "0 0 1 1 *"), ("@MONTHLY", "0 0 1 * *"),
   ("@WEEKLY", "0 0 * * 0"), ("@DAILY", "0 0 * * *"), ("@HOURLY", "0 * * * *")]

/-- The names of days and months with their numbers, in the order in which they are replaced. A
Sunday that ends a range is the seventh day. -/
def names : List (String × String) :=
  [("-SUN", "-7"), ("SUN", "0"), ("MON", "1"), ("TUE", "2"), ("WED", "3"), ("THU", "4"),
   ("FRI", "5"), ("SAT", "6"), ("JAN", "1"), ("FEB", "2"), ("MAR", "3"), ("APR", "4"),
   ("MAY", "5"), ("JUN", "6"), ("JUL", "7"), ("AUG", "8"), ("SEP", "9"), ("OCT", "10"),
   ("NOV", "11"), ("DEC", "12")]

def standard (text : List Char) : List Char :=
  let upper := Text.trimChars (Text.toUpper text)
  let named := match nicknames.lookup (String.ofList upper) with
    | some p => p.toList
    | none => upper
  names.foldl (fun cs (name, number) => Text.replaceAll name.toList number.toList cs) named

/-! ### Fields -/

inductive FieldKind where
  | plain
  | dayOfMonth
  | dayOfWeek
  deriving DecidableEq

structure FieldRule where
  kind : FieldKind
  low : Nat
  high : Nat

def fieldRules : List FieldRule :=
  [⟨.plain, 0, 59⟩, ⟨.plain, 0, 59⟩, ⟨.plain, 0, 23⟩, ⟨.dayOfMonth, 1, 31⟩, ⟨.plain, 1, 12⟩,
   ⟨.dayOfWeek, 0, 7⟩, ⟨.plain, 1, 5000⟩]

def FieldKind.allows (kind : FieldKind) (c : Char) : Bool :=
  c.isDigit || ['*', '/', ',', '-'].contains c ||
    match kind with
    | .plain => false
    | .dayOfMonth => ['L', 'W', '?'].contains c
    | .dayOfWeek => ['#', 'L', '?'].contains c

/-- A question mark for a day leaves it open, and a plus before a day of the week is dropped. -/
def FieldKind.clean (kind : FieldKind) (field : List Char) : List Char :=
  let opened := field.map fun c => if c == '?' then '*' else c
  match kind with
  | .plain => field
  | .dayOfMonth => opened
  | .dayOfWeek => if opened.head? == some '+' then opened.drop 1 else opened

abbrev Check := Except CronError Unit

def fail {α : Type} (reason : String) : Except CronError α :=
  .error (.component reason)

def require (holds : Bool) (reason : String) : Check :=
  if holds then .ok () else fail reason

def number (reason : String) (cs : List Char) : Except CronError Nat :=
  match Text.natural? 65536 cs with
  | some n => .ok n
  | none => fail reason

/-- Which of the days of the week of a month is meant: `#2`, or at the end `L` for the last. -/
def checkNth (part : List Char) : Check :=
  if part.getLast? == some 'L' then .ok ()
  else
    match Text.cut (· == '#') part with
    | none => .ok ()
    | some (_, nth) =>
      match Text.natural? 256 nth with
      | none => fail "Invalid nth specifier."
      | some n => require (1 ≤ n && n ≤ 5) "Nth specifier out of bounds."

def beforeNth (part : List Char) : List Char :=
  part.takeWhile (· != '#')

/-- The first and last value of the range in front of a step. -/
def stepRange (rule : FieldRule) (range : List Char) : Except CronError (Nat × Nat) :=
  if range == ['*'] then .ok (rule.low, rule.high)
  else if range.contains '-' then
    match Text.fields (· == '-') range with
    | [a, b] => do
      let first ← number "Invalid range start." a
      let last ← number "Invalid range end." b
      .ok (first, last)
    | _ => fail "Invalid range syntax in stepping."
  else do
    let first ← number "Invalid start." range
    .ok (first, rule.high)

/-- Every `step`-th value of a range; the one after the last has to be below `2 ^ 16` too. -/
def checkStep (rule : FieldRule) (part : List Char) : Check := do
  checkNth part
  match Text.fields (· == '/') (beforeNth part) with
  | [range, step] =>
    let step ← number "Invalid step." step
    require (step != 0) "Step cannot be zero."
    let (first, last) ← stepRange rule range
    require (rule.low ≤ first && last ≤ rule.high && first ≤ last)
      "Range is out of bounds in stepping."
    require (first + ((last - first) / step + 1) * step < 65536)
      "Value exceeded max after stepping."
  | _ => fail "Invalid stepped range syntax."

def checkRange (rule : FieldRule) (part : List Char) : Check := do
  checkNth part
  match Text.fields (· == '-') (beforeNth part) with
  | [a, b] =>
    let first ← number "Invalid start of range." a
    let last ← number "Invalid end of range." b
    require (rule.low ≤ first && last ≤ rule.high && first ≤ last) "Range out of bounds."
  | _ => fail "Invalid range syntax."

/-- The weekday closest to a day of the month. -/
def checkClosest (rule : FieldRule) (part : List Char) : Check := do
  let day ← number "Invalid day for closest weekday." (part.takeWhile (· != 'W'))
  require (rule.low ≤ day && day ≤ rule.high) "Day for closest weekday out of bounds."

def checkNumber (rule : FieldRule) (part : List Char) : Check := do
  let hasMark := part.contains '#'
  let part := if part.getLast? == some 'L' && !hasMark then
      part.flatMap fun c => if c == 'L' then ['#', 'L'] else [c]
    else part
  let weekday := rule.kind == .dayOfWeek
  require (weekday || !part.contains '#') "Nth specifier # not allowed in the current field."
  require (weekday || !part.contains 'L') "L not allowed in the current field."
  checkNth part
  let n ← number "Invalid number." (beforeNth part)
  require (rule.low ≤ n && n ≤ rule.high) "Number out of bounds."

def checkPart (rule : FieldRule) (part : List Char) : Check :=
  if part.isEmpty then .ok ()
  else if part.contains '/' then checkStep rule part
  else if part.contains '-' then checkRange rule part
  else if part.contains 'W' then checkClosest rule part
  else if part == ['L'] then .ok ()
  else checkNumber rule part

def checkParts (rule : FieldRule) : List (List Char) → Check
  | [] => .ok ()
  | part :: parts => do
    checkPart rule part
    checkParts rule parts

def checkField (rule : FieldRule) (field : List Char) : Check :=
  if field == ['*'] then .ok () else checkParts rule (Text.fields (· == ',') field)

/-- The first character of a field that it does not allow. -/
def checkCharacters (rule : FieldRule) (field : List Char) : Check :=
  match field.find? fun c => !rule.kind.allows c with
  | some c => .error (.illegalCharacter c (String.ofList field))
  | none => .ok ()

def checkAll (check : FieldRule → List Char → Check) : List (FieldRule × List Char) → Check
  | [] => .ok ()
  | (rule, field) :: rest => do
    check rule field
    checkAll check rest

/-- The seven fields of five to seven words. -/
def sevenFields (words : List (List Char)) : Option (List (List Char)) :=
  match words.length with
  | 5 => some (['0'] :: words ++ [['*']])
  | 6 => some (words ++ [['*']])
  | 7 => some words
  | _ => none

def parse (text : String) : Except CronError Cron := do
  let pattern := standard text.toList
  match sevenFields (Text.words pattern) with
  | none => .error .fieldCount
  | some fields =>
    let ruled := fieldRules.zipWith (fun rule field => (rule, rule.kind.clean field)) fields
    checkAll checkCharacters ruled
    checkAll checkField ruled
    .ok ⟨String.ofList pattern⟩

end Cron

end SensorTasks

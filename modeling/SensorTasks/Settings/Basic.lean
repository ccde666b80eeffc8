import SensorTasks.Json.Basic
import SensorTasks.Number.Floating
import SensorTasks.Text.Case
import SensorTasks.Text.Numeral

/-!
Settings as they come from a file or from variables, before it is known what they are for. Where
one is used as a text or a number it is converted, so that `"3"`, `3` and `3.0` are the same number.
-/

namespace SensorTasks

inductive Setting where
  | absent
  | flag (b : Bool)
  | integer (n : Int)
  | real (x : Floating)
  | text (s : String)
  | list (items : List Setting)
  | table (entries : List (String × Setting))

namespace Setting

/-! ### Sources -/

mutual

/-- The setting that a JSON value stands for. Integers have 63 bits and a sign. -/
def ofJson : Json → Setting
  | .null => .absent
  | .bool b => .flag b
  | .number (.integer n) => if n < (UInt64.size / 2 : Nat) then .integer n else .real (.ofInt n)
  | .number (.real x) => .real (.finite x)
  | .string s => .text s
  | .array items => .list (ofItems items)
  | .object members => .table (ofMembers members)

def ofItems : List Json → List Setting
  | [] => []
  | j :: items => ofJson j :: ofItems items

def ofMembers : List (String × Json) → List (String × Setting)
  | [] => []
  | (name, j) :: members => (name, ofJson j) :: ofMembers members

end

/-- The setting that the text of a variable stands for. -/
def ofVariable (text : String) : Setting :=
  let lower := String.ofList (Text.toLower text.toList)
  if lower = "true" then .flag true
  else if lower = "false" then .flag false
  else
    match Text.integer? (UInt64.size / 2) text.toList, Floating.parse? text.toList with
    | some n, _ => .integer n
    | none, some x => .real x
    | none, none => .text text

/-! ### Parts -/

def entries : Setting → List (String × Setting)
  | .table entries => entries
  | _ => []

def items : Setting → List Setting
  | .list items => items
  | _ => []

/-- The part of a table under `name`, or of a list at `position`. -/
def part? (s : Setting) (position : Nat) (name : String) : Option Setting :=
  match s with
  | .table entries => entries.lookup name
  | .list items => items[position]?
  | _ => none

/-! ### Conversions -/

def toText? : Setting → Option String
  | .flag b => some (toString b)
  | .integer n => some (toString n)
  | .real x => some x.render
  | .text s => some s
  | _ => none

/-- A number that is written as a word. -/
def wordNumber? (lower : String) : Option Nat :=
  if ["true", "on", "yes"].contains lower then some 1
  else if ["false", "off", "no"].contains lower then some 0
  else none

/-- A natural number of 64 bits. -/
def toNatural? : Setting → Option Nat
  | .flag b => some b.toNat
  | .integer n => if n < 0 then none else some n.toNat
  | .real x => some x.toWord
  | .text s =>
    wordNumber? (String.ofList (Text.toLower s.toList)) <|> Text.natural? UInt64.size s.toList
  | _ => none

end Setting

end SensorTasks

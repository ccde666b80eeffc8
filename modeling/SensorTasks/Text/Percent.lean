import SensorTasks.Text.Utf8
import SensorTasks.Text.Hex
import SensorTasks.Text.Blank

/-!
Percent-encoding: a percent sign and two hexadecimal digits stand for a byte. A percent sign that is
followed by anything else stands for itself.
-/

namespace SensorTasks.Text

/-- The bytes that a text stands for. -/
def percentBytes : List Char → List UInt8
  | '%' :: a :: b :: rest =>
    match hexByte a b with
    | some byte => byte :: percentBytes rest
    | none => 37 :: percentBytes (a :: b :: rest)
  | c :: rest => (String.singleton c).toUTF8.toList ++ percentBytes rest
  | [] => []

/-- The text behind an encoded one, unless its bytes are not UTF-8. -/
def percentDecode? (cs : List Char) : Option String :=
  let bytes := percentBytes cs
  if Utf8.isValid bytes then some (Utf8.decode bytes) else none

/-- The text behind a part of a form, where a plus sign stands for a blank. -/
def formDecode (cs : List Char) : String :=
  Utf8.decode (percentBytes (cs.map fun c => if c = '+' then ' ' else c))

/-- The names and values of a form; empty parts are passed over. -/
def formPairs (cs : List Char) : List (String × String) :=
  ((fields (· == '&') cs).filter fun part => !part.isEmpty).map fun part =>
    match cut (· == '=') part with
    | some (name, value) => (formDecode name, formDecode value)
    | none => (formDecode part, "")

end SensorTasks.Text

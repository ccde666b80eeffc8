import SensorTasks.Text.DisplayTable
import SensorTasks.Text.Case
import SensorTasks.Text.Hex

/-!
A text in double quotes as error messages show it: a quote and a backslash get a backslash, tab,
line feed, carriage return and NUL have short names, and characters that would not be seen, or
would change the look of the one before them, are written by their code point.
-/

namespace SensorTasks.Text

/-- `digits` filled up with zeros on the left to `width`. -/
def zeroPad (width : Nat) (digits : List Char) : List Char :=
  List.replicate (width - digits.length) '0' ++ digits

def isShown (c : Char) : Bool :=
  if c.toNat < 128 then 0x20 ≤ c.toNat && c.toNat < 0x7F
  else !inSpans DisplayTable.extending c && !inSpans DisplayTable.invisible c

def quoteChar (c : Char) : List Char :=
  match c with
  | '\t' => ['\\', 't']
  | '\n' => ['\\', 'n']
  | '\r' => ['\\', 'r']
  | '"' => ['\\', '"']
  | '\\' => ['\\', '\\']
  | c =>
    if c.toNat == 0 then ['\\', '0']
    else if isShown c then [c]
    else ['\\', 'u', '\x7b'] ++ hexDigits c.toNat ++ ['\x7d']

def quote (s : String) : String :=
  String.ofList ('"' :: s.toList.flatMap quoteChar ++ ['"'])

end SensorTasks.Text

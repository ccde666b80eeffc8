import SensorTasks.Json.Basic
import SensorTasks.Number.Shortest
import SensorTasks.Text.Quoted

/-!
The compact text of a JSON value: no blanks, members in their order, characters as they are except
the quote, the backslash and the control characters below the space.
-/

namespace SensorTasks.Json

def escapeChar (c : Char) : List Char :=
  match c with
  | '"' => ['\\', '"']
  | '\\' => ['\\', '\\']
  | '\n' => ['\\', 'n']
  | '\r' => ['\\', 'r']
  | '\t' => ['\\', 't']
  | c =>
    if c.toNat == 8 then ['\\', 'b']
    else if c.toNat == 12 then ['\\', 'f']
    else if c.toNat < 0x20 then '\\' :: 'u' :: Text.zeroPad 4 (Text.hexDigits c.toNat)
    else [c]

def stringText (s : String) : String :=
  "\"" ++ String.ofList (s.toList.flatMap escapeChar) ++ "\""

def numberText : Number → String
  | .integer n => toString n
  | .real x => x.render Double.jsonStyle

mutual

def render : Json → String
  | .null => "null"
  | .bool true => "true"
  | .bool false => "false"
  | .number n => numberText n
  | .string s => stringText s
  | .array items => "[" ++ renderItems items ++ "]"
  | .object members => "\x7b" ++ renderMembers members ++ "\x7d"

def renderItems : List Json → String
  | [] => ""
  | [j] => j.render
  | j :: items => j.render ++ "," ++ renderItems items

def renderMembers : List (String × Json) → String
  | [] => ""
  | [(k, j)] => stringText k ++ ":" ++ j.render
  | (k, j) :: members => stringText k ++ ":" ++ j.render ++ "," ++ renderMembers members

end

end SensorTasks.Json

import SensorTasks.Text.Hex
import SensorTasks.Text.Quoted

/-!
Strings and numbers as TOML. A string is written between double quotes if it needs no escape there,
else between single quotes if it can be, else over several lines, and with escapes only if there is
no other way.
-/

namespace SensorTasks.Toml

/-- A control character that no string holds as it is, line ends apart. -/
def isControl (c : Char) : Bool :=
  (c.toNat < 0x20 && c != '\t' && c != '\n') || c.toNat == 0x7F

/-- The length of the longest run of `c`, when `run` of them come before the text. -/
def longestRun (c : Char) (run : Nat) : List Char → Nat
  | [] => run
  | d :: cs => if d = c then longestRun c (run + 1) cs else max run (longestRun c 0 cs)

def escapeOf (c : Char) : List Char :=
  match c with
  | '\t' => ['\\', 't']
  | '\n' => ['\\', 'n']
  | '\r' => ['\\', 'r']
  | '\\' => ['\\', '\\']
  | c =>
    if c.toNat == 8 then ['\\', 'b']
    else if c.toNat == 12 then ['\\', 'f']
    else ['\\', 'u'] ++ Text.zeroPad 4 ((Text.hexDigits c.toNat).map Char.toUpper)

/-- The inside of a string in double quotes. In a long string line ends stay as they are, and so do
up to two quotes in a row, `run` of them before the text. -/
def escapeText (long : Bool) (run : Nat) : List Char → List Char
  | [] => []
  | '"' :: cs =>
    if long && run < 2 then '"' :: escapeText long (run + 1) cs
    else '\\' :: '"' :: escapeText long 0 cs
  | c :: cs =>
    (if c == '\\' || c == '\t' || isControl c || (c == '\n' && !long) then escapeOf c else [c]) ++
      escapeText long 0 cs

def basic (cs : List Char) : List Char := '"' :: escapeText false 0 cs ++ ['"']

def literal (cs : List Char) : List Char := '\'' :: cs ++ ['\'']

/-- A string over several lines starts on a line of its own if it has a line end. -/
def long (quote : Char) (inside cs : List Char) : List Char :=
  let quotes := [quote, quote, quote]
  quotes ++ (if cs.contains '\n' then ['\n'] else []) ++ inside ++ quotes

def stringChars (cs : List Char) : List Char :=
  let control := cs.any isControl
  let newline := cs.contains '\n'
  let backslash := cs.contains '\\'
  let double := longestRun '"' 0 cs
  let single := longestRun '\'' 0 cs
  if !control && !backslash && !newline && double == 0 then basic cs
  else if !control && !newline && single == 0 then literal cs
  else if !control && !backslash && double ≤ 2 then long '"' (escapeText true 0 cs) cs
  else if !control && single ≤ 2 then long '\'' cs cs
  else if newline then long '"' (escapeText true 0 cs) cs
  else basic cs

def stringText (s : String) : String := String.ofList (stringChars s.toList)

/-- A number, if it is one that the format has. -/
def naturalText? (n : Nat) : Option String :=
  if n < UInt64.size / 2 then some (toString n) else none

end SensorTasks.Toml

import SensorTasks.Json.Tree
import SensorTasks.Text.Hex

/-!
JSON text. The reader never fails: where the text stops being JSON the document has a fault and
nothing after it. Some things are JSON and still have no value: numerals beyond the largest
number, halves of surrogate pairs, and containers nested deeper than `maxDepth`.
-/

namespace SensorTasks.Json

/-- Containers may be nested this deep and be read. -/
def maxDepth : Nat := 127

/-- A part of a document and the text after it; nothing is after a fault. -/
abbrev Reading := Tree × Option (List Char)

def isSpace (c : Char) : Bool :=
  c == ' ' || c == '\n' || c == '\t' || c == '\r'

def skipSpace (cs : List Char) : List Char :=
  cs.dropWhile isSpace

/-! ### Numerals -/

/-- The digits at the front of `cs` and what follows. -/
def takeDigits (cs : List Char) : List Char × List Char :=
  (cs.takeWhile Char.isDigit, cs.dropWhile Char.isDigit)

/-- The digits taken into a number below `2 ^ 64`, and how many were left out. -/
def fitDigits : Nat → List Char → Nat × Nat
  | acc, [] => (acc, 0)
  | acc, c :: cs =>
    let next := acc * 10 + (c.toNat - 48)
    if next < UInt64.size then fitDigits next cs else (acc, cs.length + 1)

/-- The largest exponent that a reader keeps. -/
def exponentLimit : Nat := UInt32.size / 2 - 1

/-- The number of a numeral by its parts: digits before and after the point, exponent. -/
def numeralValue (negative : Bool) (whole fraction : List Char)
    (exponent : Option (Bool × List Char)) : Option Number :=
  let (digits, dropped) := fitDigits 0 whole
  if fraction.isEmpty && exponent.isNone && dropped == 0 then
    if !negative then some (.integer digits)
    else if digits == 0 then some (.real (Double.zero true))
    else if digits ≤ UInt64.size / 2 then some (.integer (-(digits : Int)))
    else (Double.ofDecimal? true digits 0).map .real
  else
    -- digits of the fraction count as long as they fit
    let (digits, places) :=
      if dropped == 0 then
        let (d, left) := fitDigits digits fraction
        (d, fraction.length - left)
      else (digits, 0)
    let base : Int := dropped - places
    match exponent with
    | none => (Double.ofDecimal? negative digits base).map .real
    | some (down, ds) =>
      let e := Nat.ofDigitChars 10 ds 0
      if exponentLimit < e then
        if digits == 0 || down then some (.real (Double.zero negative)) else none
      else
        let sum : Int := if down then base - e else base + e
        (Double.ofDecimal? negative digits sum).map .real

/-- The exponent at the front of `cs`: none, or its sign and digits, or a fault. -/
def takeExponent (cs : List Char) : Option (Option (Bool × List Char) × List Char) :=
  match cs with
  | c :: rest =>
    if c == 'e' || c == 'E' then
      let (down, rest) :=
        match rest with
        | '+' :: r => (false, r)
        | '-' :: r => (true, r)
        | r => (false, r)
      let (ds, rest) := takeDigits rest
      if ds.isEmpty then none else some (some (down, ds), rest)
    else some (none, cs)
  | [] => some (none, cs)

/-- A numeral from its first digit on. -/
def takeNumeral (negative : Bool) (cs : List Char) : Reading :=
  let (whole, rest) := takeDigits cs
  if whole.isEmpty || (whole.length != 1 && whole.head? == some '0') then (.fault, none)
  else
    let parts : Option (List Char × List Char) :=
      match rest with
      | '.' :: r => let (ds, r) := takeDigits r; if ds.isEmpty then none else some (ds, r)
      | r => some ([], r)
    match parts with
    | none => (.fault, none)
    | some (fraction, rest) =>
      match takeExponent rest with
      | none => (.fault, none)
      | some (exponent, rest) =>
        match numeralValue negative whole fraction exponent with
        | some n => (.number n, some rest)
        | none => (.skipOnly .null, some rest)

/-! ### Strings -/

def hex4 (a b c d : Char) : Option Nat := do
  let high := (← Text.hexValue a) * 16 + (← Text.hexValue b)
  pure ((high * 16 + (← Text.hexValue c)) * 16 + (← Text.hexValue d))

def simpleEscape : Char → Option Char
  | '"' => some '"'
  | '\\' => some '\\'
  | '/' => some '/'
  | 'b' => some (Char.ofNat 8)
  | 'f' => some (Char.ofNat 12)
  | 'n' => some '\n'
  | 'r' => some '\r'
  | 't' => some '\t'
  | _ => none

/-- A string after its opening quote, in reverse; whether it has a value; the text after it. -/
def takeString (acc : List Char) (sound : Bool) : List Char → Option (List Char × Bool × List Char)
  | [] => none
  | '"' :: cs => some (acc, sound, cs)
  | '\\' :: 'u' :: a :: b :: c :: d :: '\\' :: 'u' :: e :: f :: g :: h :: cs =>
    match hex4 a b c d with
    | none => none
    | some hi =>
      if 0xD800 ≤ hi && hi < 0xDC00 then
        match hex4 e f g h with
        | none => none
        | some lo =>
          if 0xDC00 ≤ lo && lo < 0xE000 then
            takeString (Char.ofNat (0x10000 + (hi - 0xD800) * 1024 + (lo - 0xDC00)) :: acc) sound cs
          else takeString acc false ('\\' :: 'u' :: e :: f :: g :: h :: cs)
      else if 0xDC00 ≤ hi && hi < 0xE000 then
        takeString acc false ('\\' :: 'u' :: e :: f :: g :: h :: cs)
      else takeString (Char.ofNat hi :: acc) sound ('\\' :: 'u' :: e :: f :: g :: h :: cs)
  | '\\' :: 'u' :: a :: b :: c :: d :: cs =>
    match hex4 a b c d with
    | none => none
    | some n =>
      if 0xD800 ≤ n && n < 0xE000 then takeString acc false cs
      else takeString (Char.ofNat n :: acc) sound cs
  | '\\' :: c :: cs =>
    match simpleEscape c with
    | none => none
    | some d => takeString (d :: acc) sound cs
  | c :: cs => if c.toNat < 0x20 then none else takeString (c :: acc) sound cs
termination_by cs => cs.length

/-! ### Documents -/

/-- The text after `word`, if it stands at the front. -/
def takeWord (word : List Char) (t : Tree) (cs : List Char) : Reading :=
  if word.isPrefixOf cs then (t, some (cs.drop word.length)) else (.fault, none)

/-- A container at `depth`, which is read only if it is not too deep. -/
def atDepth (depth : Nat) (r : Reading) : Reading :=
  if depth ≤ maxDepth then r else (.skipOnly r.1, r.2)

mutual

/-- The value at the front of `cs`; `fuel` bounds the number of steps. -/
def takeValue (fuel depth : Nat) (cs : List Char) : Reading :=
  match fuel with
  | 0 => (.fault, none)
  | fuel + 1 =>
    match skipSpace cs with
    | [] => (.fault, none)
    | c :: cs =>
      if c == '"' then
        match takeString [] true cs with
        | none => (.fault, none)
        | some (s, true, rest) => (.string (String.ofList s.reverse), some rest)
        | some (_, false, rest) => (.skipOnly .null, some rest)
      else if c == '[' then
        match skipSpace cs with
        | ']' :: rest => atDepth (depth + 1) (.array [], some rest)
        | _ => atDepth (depth + 1) (takeItems fuel (depth + 1) [] cs)
      else if c == '\x7b' then
        match skipSpace cs with
        | '\x7d' :: rest => atDepth (depth + 1) (.object [], some rest)
        | _ => atDepth (depth + 1) (takeMembers fuel (depth + 1) [] cs)
      else if c == '-' then takeNumeral true cs
      else if c.isDigit then takeNumeral false (c :: cs)
      else if c == 't' then takeWord ['t', 'r', 'u', 'e'] (.bool true) (c :: cs)
      else if c == 'f' then takeWord ['f', 'a', 'l', 's', 'e'] (.bool false) (c :: cs)
      else if c == 'n' then takeWord ['n', 'u', 'l', 'l'] .null (c :: cs)
      else (.fault, none)

/-- The items of an array from the first one on; `acc` holds those before, in reverse. -/
def takeItems (fuel depth : Nat) (acc : List Tree) (cs : List Char) : Reading :=
  match fuel with
  | 0 => (.fault, none)
  | fuel + 1 =>
    match takeValue fuel depth cs with
    | (t, none) => (.array (t :: acc).reverse, none)
    | (t, some rest) =>
      match skipSpace rest with
      | ',' :: rest => takeItems fuel depth (t :: acc) rest
      | ']' :: rest => (.array (t :: acc).reverse, some rest)
      | _ => (.array (.fault :: t :: acc).reverse, none)

/-- The members of an object from the first one on. A fault between members is one without key. -/
def takeMembers (fuel depth : Nat) (acc : List (String × Tree)) (cs : List Char) : Reading :=
  let broken : Reading := (.object (("", .fault) :: acc).reverse, none)
  match fuel with
  | 0 => broken
  | fuel + 1 =>
    match skipSpace cs with
    | '"' :: rest =>
      match takeString [] true rest with
      | some (key, true, rest) =>
        match skipSpace rest with
        | ':' :: rest =>
          let key := String.ofList key.reverse
          match takeValue fuel depth rest with
          | (t, none) => (.object ((key, t) :: acc).reverse, none)
          | (t, some rest) =>
            match skipSpace rest with
            | ',' :: rest => takeMembers fuel depth ((key, t) :: acc) rest
            | '\x7d' :: rest => (.object ((key, t) :: acc).reverse, some rest)
            | _ => (.object (("", .fault) :: (key, t) :: acc).reverse, none)
        | _ => broken
      | _ => broken
    | _ => broken

end

/-- A text as a document, and whether nothing but blanks follows it. -/
structure Document where
  root : Tree
  complete : Bool

def Document.ofText (text : String) : Document :=
  let cs := text.toList
  match takeValue (2 * cs.length + 2) 0 cs with
  | (t, some rest) => ⟨t, (skipSpace rest).isEmpty⟩
  | (t, none) => ⟨t, false⟩

/-- The value of a text, objects sorted, the last of several members of one key kept. -/
def parse? (text : String) : Option Json :=
  let doc := Document.ofText text
  if doc.complete then doc.root.read?.map canonical else none

end SensorTasks.Json

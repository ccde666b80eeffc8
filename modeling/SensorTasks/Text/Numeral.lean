/-! Whole numbers written with decimal digits. -/

namespace SensorTasks.Text

/-- The numeral of a number below `limit`; a plus sign may stand before the digits. -/
def natural? (limit : Nat) (cs : List Char) : Option Nat :=
  let ds := match cs with
    | '+' :: ds => ds
    | ds => ds
  if ds.isEmpty || !ds.all Char.isDigit then none
  else
    let n := Nat.ofDigitChars 10 ds 0
    if n < limit then some n else none

/-- The numeral of a number from `-limit` up to `limit`, that one left out. -/
def integer? (limit : Nat) : List Char → Option Int
  | '-' :: '+' :: _ => none
  | '-' :: ds => (natural? (limit + 1) ds).map fun n => -(n : Int)
  | cs => (natural? limit cs).map fun n => (n : Int)

end SensorTasks.Text

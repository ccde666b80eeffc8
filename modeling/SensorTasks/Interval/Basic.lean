/-!
Intervals of whole seconds and their written form, "1 hour and 30 minutes": the counts of weeks,
days, hours, minutes and seconds, each as large as possible, without those that are zero.
-/

namespace SensorTasks

/-- A number of seconds of 64 bits. -/
structure Interval where
  seconds : Nat
  inRange : seconds < UInt64.size := by decide
  deriving DecidableEq

namespace Interval

/-- The units of the written form, the largest first, with their length in seconds. -/
def units : List (String × Nat) :=
  [("week", 604800), ("day", 86400), ("hour", 3600), ("minute", 60), ("second", 1)]

def part (count : Nat) (unit : String) : String :=
  toString count ++ " " ++ unit ++ (if count == 1 then "" else "s")

/-- The counts of the units in `seconds`, without those that are zero. -/
def parts : List (String × Nat) → Nat → List String
  | [], _ => []
  | (unit, length) :: units, seconds =>
    if seconds / length > 0 then
      part (seconds / length) unit :: parts units (seconds % length)
    else parts units seconds

def render (i : Interval) : String :=
  if i.seconds == 0 then "0 seconds"
  else " and ".intercalate (parts units i.seconds)

end Interval

end SensorTasks

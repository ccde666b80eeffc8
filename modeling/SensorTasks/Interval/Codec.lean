import SensorTasks.Interval.Parser
import SensorTasks.Json.Codec

/-! Intervals as JSON: read from a text or a number of seconds, written as a number. -/

namespace SensorTasks.Interval

open Json

def toJson (i : Interval) : Json := .ofNat i.seconds

def expected : String :=
  "an interval as string (e.g., \"5 minutes\", \"1 hour and 30 minutes\") or seconds"

def decoder : Decoder Interval
  | _, .number (.integer n) =>
    if h : 0 ≤ n ∧ n.toNat < UInt64.size then .ok ⟨n.toNat, h.2⟩
    else .error (mismatch expected (.number (.integer n)))
  | origin, t =>
    Decoder.parsed expected (fun s =>
      match Interval.parse s with
      | .ok i => .ok i
      | .error e => .error e.message) origin t

instance : Codec Interval := ⟨decoder, toJson⟩

end SensorTasks.Interval

import SensorTasks.Ledger.Basic
import SensorTasks.Bus.Basic

/-!
The world that programs act on: the ledger, the bus, the counters, the clock and the supply of new
ids. Ids are made from a number that only grows, so no id is given out twice.
-/

namespace SensorTasks

/-- How often something has happened. The counters are exact: counters of 64 bits, which start again
at zero after `2 ^ 64` counts, agree with them up to that point. -/
structure Metrics where
  tasksCreated : Nat
  messagesPublished : Nat
  messagesConsumed : Nat
  messagesRejected : Nat
  deriving DecidableEq

inductive Counter where
  | tasksCreated
  | messagesPublished
  | messagesConsumed
  | messagesRejected
  deriving DecidableEq

namespace Metrics

def zero : Metrics := ⟨0, 0, 0, 0⟩

def count (m : Metrics) : Counter → Metrics
  | .tasksCreated => { m with tasksCreated := m.tasksCreated + 1 }
  | .messagesPublished => { m with messagesPublished := m.messagesPublished + 1 }
  | .messagesConsumed => { m with messagesConsumed := m.messagesConsumed + 1 }
  | .messagesRejected => { m with messagesRejected := m.messagesRejected + 1 }

def toJson (m : Metrics) : Json :=
  .ofMembers [("tasksCreated", .ofNat m.tasksCreated),
    ("messagesPublished", .ofNat m.messagesPublished),
    ("messagesConsumed", .ofNat m.messagesConsumed),
    ("messagesRejected", .ofNat m.messagesRejected)]

end Metrics

def Ledger.Stats.toJson (s : Ledger.Stats) : Json :=
  .ofMembers [("taskCount", .ofNat s.tasks), ("fileCount", .ofNat s.files),
    ("sensorCount", .ofNat s.sensors), ("groupCount", .ofNat s.groups)]

/-! ### New ids -/

namespace FreshId

/-- The id of a number, in the form of a UUID. Later ids come later in the order of texts. -/
def text (n : Nat) : String :=
  "01970000-0000-7000-8000-" ++ String.ofList (Text.zeroPad 12 (Text.hexDigits n))

/-- Eight hexadecimal digits. -/
def code (n : Nat) : String :=
  String.ofList (Text.zeroPad 8 (Text.hexDigits (n % UInt32.size)))

end FreshId

structure World where
  ledger : Ledger
  bus : Bus
  metrics : Metrics
  clock : Instant
  /-- The number of the next new id. -/
  nextNumber : Nat

def World.new (capacity : Nat) (clock : Instant) : World where
  ledger := .empty
  bus := .new capacity
  metrics := .zero
  clock := clock
  nextNumber := 1

end SensorTasks

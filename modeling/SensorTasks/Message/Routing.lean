import SensorTasks.Task.Basic
import SensorTasks.Json.Codec

/-!
Routing keys: the addresses that messages are sent to, each with one dotted name.
-/

namespace SensorTasks

inductive RoutingKey where
  | taskScheduledDataFetch
  | taskScheduledDataUpload
  | taskScheduledObjectSync
  | taskStatus
  | taskStatusFailed
  | taskStatusDataFetchResult
  | taskStatusObjectSync
  | taskStatusObjectSyncResult
  | taskMode
  | taskModeChanged
  | userUser
  | fileStatusDeletion
  | fileStatusVisibilityState
  | fileResultVisibilityState
  deriving DecidableEq

namespace RoutingKey

/-- All keys in their order. -/
def all : List RoutingKey :=
  [.taskScheduledDataFetch, .taskScheduledDataUpload, .taskScheduledObjectSync, .taskStatus,
   .taskStatusFailed, .taskStatusDataFetchResult, .taskStatusObjectSync,
   .taskStatusObjectSyncResult, .taskMode, .taskModeChanged, .userUser, .fileStatusDeletion,
   .fileStatusVisibilityState, .fileResultVisibilityState]

theorem mem_all (key : RoutingKey) : key ∈ all := by
  cases key <;> decide

def name : RoutingKey → String
  | .taskScheduledDataFetch => "task.scheduled.data_fetch"
  | .taskScheduledDataUpload => "task.scheduled.data_upload"
  | .taskScheduledObjectSync => "task.scheduled.object_sync"
  | .taskStatus => "task.status"
  | .taskStatusFailed => "task.status.failed"
  | .taskStatusDataFetchResult => "task.status.data_fetch.result"
  | .taskStatusObjectSync => "task.status.object_sync"
  | .taskStatusObjectSyncResult => "task.status.object_sync.result"
  | .taskMode => "task.mode"
  | .taskModeChanged => "task.mode.changed"
  | .userUser => "user.user"
  | .fileStatusDeletion => "file.status.deletion"
  | .fileStatusVisibilityState => "file.status.visibility.state"
  | .fileResultVisibilityState => "file.result.visibility.state"

def ofName? (name : String) : Option RoutingKey :=
  all.find? fun key => key.name = name

theorem ofName?_name (key : RoutingKey) : ofName? key.name = some key := by
  cases key <;> decide

theorem name_injective {a b : RoutingKey} (h : a.name = b.name) : a = b := by
  have ha := ofName?_name a
  rw [h, ofName?_name b] at ha
  exact (Option.some.inj ha).symm

/-- The position in the order of all keys. -/
def index (key : RoutingKey) : Nat :=
  all.idxOf key

def unknown (name : String) : String :=
  "Unknown routing key: " ++ name

def toJson (key : RoutingKey) : Json := .string key.name

def decoder : Json.Decoder RoutingKey :=
  Json.Decoder.parsed "a string" fun s =>
    match ofName? s with
    | some key => .ok key
    | none => .error (unknown s)

instance : Json.Codec RoutingKey := ⟨decoder, toJson⟩

end RoutingKey

/-- The key that a new task of a kind is scheduled on. -/
def TaskType.scheduledKey : TaskType → RoutingKey
  | .dataFetch => .taskScheduledDataFetch
  | .dataUpload => .taskScheduledDataUpload
  | .objectSync => .taskScheduledObjectSync

end SensorTasks

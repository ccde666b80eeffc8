import SensorTasks.Message.File
import SensorTasks.Message.Routing
import SensorTasks.Message.Scheduled
import SensorTasks.Message.Status

/-!
The registry of message schemas. Every routing key has a list of alternatives, each of which
decodes a payload and checks the message; a payload is accepted if one of them accepts it.
-/

namespace SensorTasks.Message

open Json

inductive SchemaError where
  | unknownKey (key : String)
  | invalid (key : RoutingKey) (reason : String)
  | noAlternative (key : RoutingKey) (reasons : List String)
  | invalidDate (text : String)
  deriving DecidableEq

def SchemaError.message : SchemaError → String
  | .unknownKey key => "No schema registered for routing key: " ++ key
  | .invalid key reason => "Invalid " ++ key.name ++ " message: " ++ reason
  | .noAlternative key reasons =>
    key.name ++ " message matches none of [" ++ "; ".intercalate reasons ++ "]"
  | .invalidDate text => Instant.wireError text

structure Alternative where
  name : String
  check : Json → Check

/-- The alternatives for the payloads of one key. -/
abbrev Schema := List Alternative

/-- The schemas of the keys that have one. -/
structure Registry where
  schema? : RoutingKey → Option Schema

/-! ### Checking a payload -/

/-- The reasons of the alternatives that refuse `payload`, if all do. -/
def refusals (payload : Json) : Schema → Option (List String)
  | [] => some []
  | a :: rest =>
    match a.check payload with
    | .ok () => none
    | .error reason => (refusals payload rest).map ((a.name ++ ": " ++ reason) :: ·)

def Schema.check (schema : Schema) (key : RoutingKey) (payload : Json) : Except SchemaError Unit :=
  match refusals payload schema with
  | none => .ok ()
  | some [reason] => .error (.invalid key reason)
  | some reasons => .error (.noAlternative key reasons)

namespace Registry

def empty : Registry := ⟨fun _ => none⟩

def contains (r : Registry) (key : RoutingKey) : Bool :=
  (r.schema? key).isSome

def validate (r : Registry) (key : RoutingKey) (payload : Json) : Except SchemaError Unit :=
  match r.schema? key with
  | none => .error (.unknownKey key.name)
  | some schema => schema.check key payload

/-- Validates for a key given by its name. -/
def validateName (r : Registry) (name : String) (payload : Json) : Except SchemaError Unit :=
  match RoutingKey.ofName? name with
  | none => .error (.unknownKey name)
  | some key => r.validate key payload

/-- The message of a payload that is valid and of the wanted type. -/
def decode {α : Type} (r : Registry) (key : RoutingKey) (d : Decoder α) (payload : Json) :
    Except SchemaError α :=
  match r.validate key payload with
  | .error e => .error e
  | .ok () =>
    match d.fromValue payload with
    | .ok a => .ok a
    | .error e => .error (.invalid key e.message)

end Registry

/-! ### The alternatives -/

/-- The message of a payload, decoded and checked. -/
def shape {α : Type} (d : Decoder α) (check : α → Check) (payload : Json) : Except String α :=
  match d.fromValue payload with
  | .error e => .error e.message
  | .ok a =>
    match check a with
    | .error e => .error e
    | .ok () => .ok a

def typed {α : Type} (d : Decoder α) (check : α → Check) (payload : Json) : Check :=
  (shape d check payload).map fun _ => ()

def noCheck {α : Type} (_ : α) : Check := .ok ()

def requireType (actual wanted : TaskType) : Check :=
  require (actual = wanted) ("taskType must be " ++ wanted.name ++ ", got " ++ actual.name)

def scheduled {α : Type} (d : Decoder α) (check : α → Check) (type : TaskType) (payload : Json) :
    Check :=
  match shape (Scheduled.decoder d) (Scheduled.check check) payload with
  | .error e => .error e
  | .ok m => requireType m.taskType type

/-- A report of one kind of task that has more to say, or else `missing` is the reason. -/
def reportWith {α : Type} (d : Decoder α) (check : α → Check) (type : TaskType)
    (missing : String) (payload : Json) : Check :=
  match shape (StatusReport.decoder d) (StatusReport.check check) payload with
  | .error e => .error e
  | .ok m =>
    match requireType m.taskType type with
    | .error e => .error e
    | .ok () => require m.payload.isSome missing

def uploadDone (payload : Json) : Check :=
  match shape (StatusReport.decoder .json) (StatusReport.check noCheck) payload with
  | .error e => .error e
  | .ok m =>
    match requireType m.taskType .dataUpload with
    | .error e => .error e
    | .ok () => require (m.status = .done) "status must be DONE"

/-- A report with nothing but the status, which every kind of task may send. -/
def plainReport (payload : Json) : Check :=
  match shape (StatusReport.decoder .json) (StatusReport.check noCheck) payload with
  | .error e => .error e
  | .ok m => require m.payload.isNone "unexpected payload"

def fetchResults : Alternative where
  name := "DataFetchResult"
  check := reportWith FetchResult.listDecoder checkFetchResults .dataFetch "payload is required"

def syncObjects : Alternative where
  name := "ObjectSyncStatus"
  check := reportWith ManagedObject.listDecoder noCheck .objectSync "payload.objects is required"

def syncResult : Alternative where
  name := "ObjectSyncResult"
  check := reportWith objectAmountDecoder noCheck .objectSync "payload.objectAmount is required"

/-- The schema of every key. -/
def standardSchema : RoutingKey → Schema
  | .taskScheduledDataFetch =>
    [⟨"DataFetchScheduled", scheduled ScheduledFetch.decoder ScheduledFetch.check .dataFetch⟩]
  | .taskScheduledDataUpload =>
    [⟨"DataUploadScheduled", scheduled ScheduledUpload.decoder ScheduledUpload.check .dataUpload⟩]
  | .taskScheduledObjectSync =>
    [⟨"ObjectSyncScheduled", scheduled ScheduledWork.syncDecoder noCheck .objectSync⟩]
  | .taskStatus =>
    [fetchResults, ⟨"DataUploadResult", uploadDone⟩, syncObjects, syncResult,
     ⟨"TaskStatus", plainReport⟩]
  | .taskStatusFailed => [⟨"TaskFailed", typed Failure.decoder noCheck⟩]
  | .taskStatusDataFetchResult => [fetchResults]
  | .taskStatusObjectSync => [syncObjects]
  | .taskStatusObjectSyncResult => [syncResult]
  | .taskMode => [⟨"TaskMode", typed ModeChange.decoder ModeChange.check⟩]
  | .taskModeChanged => [⟨"TaskModeChanged", typed ModeChange.decoder ModeChange.check⟩]
  | .userUser => [⟨"User", typed userDecoder checkUser⟩]
  | .fileStatusDeletion => [⟨"FileDeletion", typed FileDeletion.decoder FileDeletion.check⟩]
  | .fileStatusVisibilityState =>
    [⟨"FileVisibilityState", typed VisibilityRequest.decoder noCheck⟩]
  | .fileResultVisibilityState =>
    [⟨"FileVisibilityStateResult", typed VisibilityResult.decoder VisibilityResult.check⟩]

def Registry.standard : Registry := ⟨fun key => some (standardSchema key)⟩

end SensorTasks.Message

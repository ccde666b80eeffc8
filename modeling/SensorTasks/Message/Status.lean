import SensorTasks.Message.Check
import SensorTasks.Task.Codec

/-!
Reports about tasks: their status, the files that a fetch brought, the managed objects that a sync
found, failures and changes of the mode.
-/

namespace SensorTasks.Message

open Json

/-- A report on the status of a task, with more of type `α` if there is more to say. -/
structure StatusReport (α : Type) where
  taskId : TaskId
  taskType : TaskType
  status : TaskStatus
  mode : Option TaskMode
  nextRunAt : Option Instant
  lastCompletedAt : Option Instant
  payload : Option α

/-- A file that a fetch brought. -/
structure FetchResult where
  sensorId : SensorId
  dataId : Option String
  fileName : String
  bucket : String
  filePath : String
  fileUrl : Option String
  dateFrom : Option Instant
  dateTo : Option Instant
  deriving DecidableEq

structure SensorObject where
  managedObjectId : String
  managedObjectName : String
  valueFragmentType : Option String
  valueFragmentDisplayName : Option String
  deriving DecidableEq

inductive GroupObject where
  | mk (managedObjectId managedObjectName : String) (sensors : List SensorObject)
      (groups : List GroupObject)

inductive ManagedObject where
  | sensor (s : SensorObject)
  | group (g : GroupObject)

structure Failure where
  taskId : TaskId
  taskType : Option TaskType
  reason : String
  failedAt : Option Instant
  deriving DecidableEq

/-- A request for a mode, or the news that it has changed. -/
structure ModeChange where
  taskIds : List TaskId
  mode : TaskMode
  deriving DecidableEq

/-! ### Checks -/

def FetchResult.check (r : FetchResult) : Check :=
  match require (!r.fileName.isEmpty) "fileName must not be empty" with
  | .error e => .error e
  | .ok () => require (!r.bucket.isEmpty) "bucket must not be empty"

def checkFetchResults (rs : List FetchResult) : Check :=
  checkEach FetchResult.check rs

def StatusReport.check {α : Type} (checkPayload : α → Check) (m : StatusReport α) : Check :=
  match m.payload with
  | some payload => checkPayload payload
  | none => .ok ()

def ModeChange.check (m : ModeChange) : Check :=
  require (!m.taskIds.isEmpty) "taskIds must not be empty"

/-! ### As JSON -/

namespace StatusReport

variable {α : Type}

def toJson (encode : α → Json) (m : StatusReport α) : Json :=
  .ofMembers ([("taskId", .string m.taskId), ("taskType", m.taskType.toJson),
      ("status", m.status.toJson)] ++
    optional "mode" TaskMode.toJson m.mode ++
    optional "nextRunAt" Instant.toWireJson m.nextRunAt ++
    optional "lastCompletedAt" Instant.toWireJson m.lastCompletedAt ++
    optional "payload" encode m.payload)

def fields (payload : Decoder α) : Fields (StatusReport α) :=
  StatusReport.mk <$> .required "taskId" .string
    <*> .required "taskType" TaskType.decoder
    <*> .required "status" TaskStatus.decoder
    <*> .optional "mode" TaskMode.decoder
    <*> .optional "nextRunAt" Instant.wireDecoder
    <*> .optional "lastCompletedAt" Instant.wireDecoder
    <*> .optional "payload" payload

def decoder (payload : Decoder α) : Decoder (StatusReport α) :=
  (fields payload).decode "struct TaskStatusMessage"

instance [Codec α] : Codec (StatusReport α) := ⟨decoder Codec.decoder, toJson Codec.encode⟩

end StatusReport

namespace FetchResult

def toJson (r : FetchResult) : Json :=
  .ofMembers ([("sensorId", .string r.sensorId)] ++
    optional "dataId" .string r.dataId ++
    [("fileName", .string r.fileName), ("bucket", .string r.bucket),
      ("filePath", .string r.filePath)] ++
    optional "fileURL" .string r.fileUrl ++
    optional "dateFrom" Instant.toWireJson r.dateFrom ++
    optional "dateTo" Instant.toWireJson r.dateTo)

def fields : Fields FetchResult :=
  FetchResult.mk <$> .required "sensorId" .string
    <*> .optional "dataId" .string
    <*> .required "fileName" .string
    <*> .required "bucket" .string
    <*> .required "filePath" .string
    <*> .optional "fileURL" .string
    <*> .optional "dateFrom" Instant.wireDecoder
    <*> .optional "dateTo" Instant.wireDecoder

def decoder : Decoder FetchResult := fields.decode "struct DataFetchResultEntry"

/-- The results of a fetch stand in an object of their own. -/
def listToJson (rs : List FetchResult) : Json :=
  .ofMembers [("data", ofList toJson rs)]

def listDecoder : Decoder (List FetchResult) :=
  (Fields.required "data" (.list decoder)).decode "struct DataFetchResultPayload"

instance : Codec FetchResult := ⟨decoder, toJson⟩

end FetchResult

namespace SensorObject

def members (s : SensorObject) : List (String × Json) :=
  [("managedObjectId", .string s.managedObjectId),
    ("managedObjectName", .string s.managedObjectName)] ++
    optional "valueFragmentType" .string s.valueFragmentType ++
    optional "valueFragmentDisplayName" .string s.valueFragmentDisplayName

def toJson (s : SensorObject) : Json := .ofMembers s.members

def fields : Fields SensorObject :=
  SensorObject.mk <$> .required "managedObjectId" .string
    <*> .required "managedObjectName" .string
    <*> .optional "valueFragmentType" .string
    <*> .optional "valueFragmentDisplayName" .string

def decoder : Decoder SensorObject := fields.decode "struct SensorObject"

instance : Codec SensorObject := ⟨decoder, toJson⟩

end SensorObject

namespace GroupObject

mutual

def members : GroupObject → List (String × Json)
  | .mk id name sensors groups =>
    [("managedObjectId", .string id), ("managedObjectName", .string name),
      ("sensors", ofList SensorObject.toJson sensors), ("groups", .array (listToJson groups))]

def listToJson : List GroupObject → List Json
  | [] => []
  | g :: gs => .ofMembers g.members :: listToJson gs

end

def toJson (g : GroupObject) : Json := .ofMembers g.members

/-- Decodes a group with at most `depth` groups inside each other. -/
def decoderTo : (depth : Nat) → Decoder GroupObject
  | 0, _, t => .error (mismatch "struct GroupObject" t)
  | depth + 1, origin, t =>
    Fields.decode "struct GroupObject"
      (GroupObject.mk <$> .required "managedObjectId" .string
        <*> .required "managedObjectName" .string
        <*> .withDefault "sensors" (.list SensorObject.decoder) []
        <*> .withDefault "groups" (.list (decoderTo depth)) [])
      origin t

def decoder : Decoder GroupObject := fun origin t => decoderTo (t.depth + 1) origin t

instance : Codec GroupObject := ⟨decoder, toJson⟩

end GroupObject

namespace ManagedObject

def toJson : ManagedObject → Json
  | .sensor s => .ofMembers (("type", .string "SENSOR") :: s.members)
  | .group g => .ofMembers (("type", .string "GROUP") :: g.members)

def variants : List (String × Decoder ManagedObject) :=
  [("SENSOR", SensorObject.decoder.map .sensor), ("GROUP", GroupObject.decoder.map .group)]

def decoder : Decoder ManagedObject :=
  .tagged "type" "internally tagged enum ManagedObject" variants

def listToJson (os : List ManagedObject) : Json :=
  .ofMembers [("objects", ofList toJson os)]

def listDecoder : Decoder (List ManagedObject) :=
  (Fields.required "objects" (.list decoder)).decode "struct ObjectSyncPayload"

instance : Codec ManagedObject := ⟨decoder, toJson⟩

end ManagedObject

/-- The number of objects of a sync, as its result tells. -/
def objectAmountToJson (n : Nat) : Json :=
  .ofMembers [("objectAmount", .ofNat n)]

def objectAmountDecoder : Decoder Nat :=
  (Fields.required "objectAmount" .natural).decode "struct ObjectSyncResultPayload"

namespace Failure

def toJson (f : Failure) : Json :=
  .ofMembers ([("taskId", .string f.taskId)] ++
    optional "taskType" TaskType.toJson f.taskType ++
    [("reason", .string f.reason)] ++
    optional "failedAt" Instant.toWireJson f.failedAt)

def fields : Fields Failure :=
  Failure.mk <$> .required "taskId" .string
    <*> .optional "taskType" TaskType.decoder
    <*> .requiredAs "reason" "errorMessage" .string
    <*> .optional "failedAt" Instant.wireDecoder

def decoder : Decoder Failure := fields.decode "struct TaskFailedMessage"

instance : Codec Failure := ⟨decoder, toJson⟩

end Failure

namespace ModeChange

def toJson (m : ModeChange) : Json :=
  .ofMembers [("taskIds", ofList .string m.taskIds), ("mode", m.mode.toJson)]

def fields : Fields ModeChange :=
  ModeChange.mk <$> .required "taskIds" (.list .string) <*> .required "mode" TaskMode.decoder

def decoder : Decoder ModeChange := fields.decode "struct TaskModeMessage"

instance : Codec ModeChange := ⟨decoder, toJson⟩

end ModeChange

end SensorTasks.Message

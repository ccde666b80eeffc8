import SensorTasks.Message.Check
import SensorTasks.Task.Codec
import SensorTasks.Text.Blank

/-!
The messages that schedule a task. They carry what the worker needs: for a fetch the sensors by
their outside names, for an upload the files with their descriptions.
-/

namespace SensorTasks.Message

open Json

structure SensorRef where
  id : SensorId
  managedObjectId : String
  fragmentType : String
  deriving DecidableEq

structure ScheduledEntry where
  sensor : SensorRef
  fileName : String
  dataId : String
  deriving DecidableEq

structure ScheduledFetch where
  data : List ScheduledEntry
  dateFrom : Instant
  dateTo : Option Instant
  deriving DecidableEq

structure ScheduledUploadFile where
  fileId : FileId
  fileName : String
  storage : Storage
  metadata : UploadMetadata
  attributes : Attributes

structure ScheduledUpload where
  files : List ScheduledUploadFile
  platform : Platform

inductive ScheduledWork where
  | fetch (w : ScheduledFetch)
  | upload (w : ScheduledUpload)
  | sync

/-- The message that schedules a task, with work of type `α`. -/
structure Scheduled (α : Type) where
  taskId : TaskId
  taskName : String
  initiatedByUser : UserId
  firstRunAt : Instant
  recurrence : Option Recurrence
  attributes : Attributes
  taskType : TaskType
  payload : α

/-! ### Checks -/

def ScheduledEntry.check (e : ScheduledEntry) : Check :=
  match require (!e.dataId.isEmpty) "dataId must not be empty" with
  | .error e => .error e
  | .ok () => require (!e.fileName.isEmpty) "fileName must not be empty"

def ScheduledFetch.check (w : ScheduledFetch) : Check :=
  let ordered := match w.dateTo with
    | some stop => !stop.before w.dateFrom
    | none => true
  match require ordered "dateTo must not precede dateFrom" with
  | .error e => .error e
  | .ok () => checkEach ScheduledEntry.check w.data

def ScheduledUploadFile.check (f : ScheduledUploadFile) : Check :=
  require (!Text.isBlankText f.metadata.valueFragmentDescription)
    "valueFragmentDescription must not be empty"

def ScheduledUpload.check (w : ScheduledUpload) : Check :=
  match require (!w.platform.identifier.isEmpty)
      "platform.platformIdentifier must not be empty" with
  | .error e => .error e
  | .ok () => checkEach ScheduledUploadFile.check w.files

def ScheduledWork.check : ScheduledWork → Check
  | .fetch w => w.check
  | .upload w => w.check
  | .sync => .ok ()

def Scheduled.check {α : Type} (checkPayload : α → Check) (m : Scheduled α) : Check :=
  let pattern := match m.recurrence with
    | some r => !Text.isBlankText r.pattern
    | none => true
  match require (!Text.isBlankText m.taskName) "taskName must not be empty" with
  | .error e => .error e
  | .ok () =>
    match require pattern "periodicData.pattern must not be empty" with
    | .error e => .error e
    | .ok () => checkPayload m.payload

/-! ### As JSON -/

namespace SensorRef

def toJson (s : SensorRef) : Json :=
  .ofMembers [("id", .string s.id), ("managedObjectId", .string s.managedObjectId),
    ("fragmentType", .string s.fragmentType)]

def fields : Fields SensorRef :=
  SensorRef.mk <$> .required "id" .string <*> .required "managedObjectId" .string
    <*> .required "fragmentType" .string

def decoder : Decoder SensorRef := fields.decode "struct ScheduledSensorRef"

instance : Codec SensorRef := ⟨decoder, toJson⟩

end SensorRef

namespace ScheduledEntry

def toJson (e : ScheduledEntry) : Json :=
  .ofMembers [("sensor", e.sensor.toJson), ("fileName", .string e.fileName),
    ("dataId", .string e.dataId)]

def fields : Fields ScheduledEntry :=
  ScheduledEntry.mk <$> .required "sensor" SensorRef.decoder <*> .required "fileName" .string
    <*> .required "dataId" .string

def decoder : Decoder ScheduledEntry := fields.decode "struct ScheduledSensorData"

instance : Codec ScheduledEntry := ⟨decoder, toJson⟩

end ScheduledEntry

namespace ScheduledFetch

def toJson (w : ScheduledFetch) : Json :=
  .ofMembers ([("data", ofList ScheduledEntry.toJson w.data),
      ("dateFrom", w.dateFrom.toWireJson)] ++
    optional "dateTo" Instant.toWireJson w.dateTo)

def fields : Fields ScheduledFetch :=
  ScheduledFetch.mk <$> .required "data" (.list ScheduledEntry.decoder)
    <*> .required "dateFrom" Instant.wireDecoder
    <*> .optional "dateTo" Instant.wireDecoder

def decoder : Decoder ScheduledFetch := fields.decode "struct DataFetchScheduledPayload"

instance : Codec ScheduledFetch := ⟨decoder, toJson⟩

end ScheduledFetch

/-- The metadata of an upload in a message, where dates have the form of messages. -/
def uploadMetadataJson (m : UploadMetadata) : Json :=
  .ofMembers ([("dateFrom", m.dateFrom.toWireJson), ("dateTo", m.dateTo.toWireJson),
      ("managedObjectId", .string m.managedObjectId)] ++
    optional "managedObjectName" .string m.managedObjectName ++
    [("valueFragmentType", .string m.valueFragmentType),
      ("valueFragmentDescription", .string m.valueFragmentDescription)] ++
    optional "sensorDescription" .string m.sensorDescription ++
    optional "fileDescription" .string m.fileDescription)

def uploadMetadataFields : Fields UploadMetadata :=
  UploadMetadata.mk <$> .required "dateFrom" Instant.wireDecoder
    <*> .required "dateTo" Instant.wireDecoder
    <*> .required "managedObjectId" .string
    <*> .optional "managedObjectName" .string
    <*> .required "valueFragmentType" .string
    <*> .required "valueFragmentDescription" .string
    <*> .optional "sensorDescription" .string
    <*> .optional "fileDescription" .string

def uploadMetadataDecoder : Decoder UploadMetadata :=
  uploadMetadataFields.decode "struct ScheduledUploadMetadata"

namespace ScheduledUploadFile

def toJson (f : ScheduledUploadFile) : Json :=
  .ofMembers [("fileId", .string f.fileId), ("fileName", .string f.fileName),
    ("storage", f.storage.toJson), ("metadata", uploadMetadataJson f.metadata),
    ("customAttributes", f.attributes.toJson)]

def fields : Fields ScheduledUploadFile :=
  ScheduledUploadFile.mk <$> .required "fileId" .string
    <*> .required "fileName" .string
    <*> .required "storage" Storage.decoder
    <*> .required "metadata" uploadMetadataDecoder
    <*> .withDefault "customAttributes" .attributes .empty

def decoder : Decoder ScheduledUploadFile := fields.decode "struct ScheduledUploadFile"

instance : Codec ScheduledUploadFile := ⟨decoder, toJson⟩

end ScheduledUploadFile

namespace ScheduledUpload

def toJson (w : ScheduledUpload) : Json :=
  .ofMembers [("files", ofList ScheduledUploadFile.toJson w.files),
    ("platform", w.platform.toJson)]

def fields : Fields ScheduledUpload :=
  ScheduledUpload.mk <$> .required "files" (.list ScheduledUploadFile.decoder)
    <*> .required "platform" Platform.decoder

def decoder : Decoder ScheduledUpload := fields.decode "struct DataUploadScheduledPayload"

instance : Codec ScheduledUpload := ⟨decoder, toJson⟩

end ScheduledUpload

namespace ScheduledWork

def toJson : ScheduledWork → Json
  | .fetch w => w.toJson
  | .upload w => w.toJson
  | .sync => .object []

def syncDecoder : Decoder Unit :=
  (pure () : Fields Unit).decode "struct ObjectSyncScheduledPayload"

/-- Work without its kind is the first that fits. -/
def decoder : Decoder ScheduledWork :=
  .untagged "ScheduledPayload"
    [ScheduledFetch.decoder.map .fetch, ScheduledUpload.decoder.map .upload,
     syncDecoder.map fun _ => .sync]

instance : Codec ScheduledWork := ⟨decoder, toJson⟩

end ScheduledWork

namespace Scheduled

variable {α : Type}

def toJson (encode : α → Json) (m : Scheduled α) : Json :=
  .ofMembers ([("taskId", .string m.taskId), ("taskName", .string m.taskName),
      ("initiatedByUser", .string m.initiatedByUser),
      ("firstRunAt", m.firstRunAt.toWireJson)] ++
    optional "periodicData" Recurrence.toJson m.recurrence ++
    [("customAttributes", m.attributes.toJson), ("taskType", m.taskType.toJson),
      ("payload", encode m.payload)])

def fields (payload : Decoder α) : Fields (Scheduled α) :=
  Scheduled.mk <$> .required "taskId" .string
    <*> .required "taskName" .string
    <*> .required "initiatedByUser" .string
    <*> .required "firstRunAt" Instant.wireDecoder
    <*> .optional "periodicData" Recurrence.decoder
    <*> .withDefault "customAttributes" .attributes .empty
    <*> .required "taskType" TaskType.decoder
    <*> .required "payload" payload

def decoder (payload : Decoder α) : Decoder (Scheduled α) :=
  (fields payload).decode "struct TaskScheduledMessage"

instance [Codec α] : Codec (Scheduled α) := ⟨decoder Codec.decoder, toJson Codec.encode⟩

end Scheduled

end SensorTasks.Message

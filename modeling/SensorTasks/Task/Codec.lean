import SensorTasks.Task.Basic
import SensorTasks.Json.Decode.Choice

/-!
Tasks as JSON. The kind of work stands as `taskType` among the fields of the task, and its content,
if it has one, as `payload` beside it.
-/

namespace SensorTasks

open Json

namespace TaskType

def toJson (t : TaskType) : Json := .string t.name

def variants : List (String × TaskType) := all.map fun t => (t.name, t)

def decoder : Decoder TaskType := .choice variants

instance : Codec TaskType := ⟨decoder, toJson⟩

end TaskType

namespace TaskStatus

def toJson (s : TaskStatus) : Json := .string s.name

def variants : List (String × TaskStatus) := all.map fun s => (s.name, s)

def decoder : Decoder TaskStatus := .choice variants

instance : Codec TaskStatus := ⟨decoder, toJson⟩

end TaskStatus

namespace TaskMode

def toJson (m : TaskMode) : Json := .string m.name

def variants : List (String × TaskMode) := all.map fun m => (m.name, m)

def decoder : Decoder TaskMode := .choice variants

instance : Codec TaskMode := ⟨decoder, toJson⟩

end TaskMode

namespace Recurrence

def toJson (r : Recurrence) : Json :=
  .ofMembers (("pattern", .string r.pattern) ::
    optional "windowDurationSeconds" .ofNat r.windowSeconds)

def fields : Fields Recurrence :=
  Recurrence.mk <$> .required "pattern" .string <*> .optional "windowDurationSeconds" .natural

def decoder : Decoder Recurrence := fields.decode "struct PeriodicData"

instance : Codec Recurrence := ⟨decoder, toJson⟩

end Recurrence

namespace TaskMetadata

def toJson (m : TaskMetadata) : Json :=
  .ofMembers ([("firstRunAt", m.firstRunAt.toJson)] ++
    optional "periodicData" Recurrence.toJson m.recurrence ++
    optional "lastRanAt" Instant.toJson m.lastRanAt ++
    optional "lastCompletedAt" Instant.toJson m.lastCompletedAt ++
    optional "lastFailedAt" Instant.toJson m.lastFailedAt ++
    optional "lastFailReason" .string m.lastFailReason ++
    optional "nextRunAt" Instant.toJson m.nextRunAt)

def fields : Fields TaskMetadata :=
  TaskMetadata.mk <$> .required "firstRunAt" Instant.decoder
    <*> .optional "periodicData" Recurrence.decoder
    <*> .optional "lastRanAt" Instant.decoder
    <*> .optional "lastCompletedAt" Instant.decoder
    <*> .optional "lastFailedAt" Instant.decoder
    <*> .optional "lastFailReason" .string
    <*> .optional "nextRunAt" Instant.decoder

def decoder : Decoder TaskMetadata := fields.decode "struct TaskMetadata"

instance : Codec TaskMetadata := ⟨decoder, toJson⟩

end TaskMetadata

namespace FetchEntry

def toJson (e : FetchEntry) : Json :=
  .ofMembers ([("sensor", .string e.sensor), ("dataId", .string e.dataId)] ++
    optional "fileId" .string e.fileId ++
    optional "fileName" .string e.fileName ++
    optional "bucket" .string e.bucket ++
    optional "filePath" .string e.filePath ++
    optional "fileURL" .string e.fileUrl)

def fields : Fields FetchEntry :=
  FetchEntry.mk <$> .required "sensor" .string
    <*> .required "dataId" .string
    <*> .optional "fileId" .string
    <*> .optional "fileName" .string
    <*> .optional "bucket" .string
    <*> .optional "filePath" .string
    <*> .optional "fileURL" .string

def decoder : Decoder FetchEntry := fields.decode "struct SensorData"

instance : Codec FetchEntry := ⟨decoder, toJson⟩

end FetchEntry

namespace FetchWork

def toJson (w : FetchWork) : Json :=
  .ofMembers ([("data", ofList FetchEntry.toJson w.data)] ++
    optional "dateFrom" Instant.toJson w.dateFrom ++
    optional "dateTo" Instant.toJson w.dateTo ++
    optional "group" .string w.group)

def fields : Fields FetchWork :=
  FetchWork.mk <$> .withDefault "data" (.list FetchEntry.decoder) []
    <*> .optional "dateFrom" Instant.decoder
    <*> .optional "dateTo" Instant.decoder
    <*> .optional "group" .string

def decoder : Decoder FetchWork := fields.decode "struct DataFetchPayload"

instance : Codec FetchWork := ⟨decoder, toJson⟩

end FetchWork

namespace UploadMetadata

def toJson (m : UploadMetadata) : Json :=
  .ofMembers ([("dateFrom", m.dateFrom.toJson), ("dateTo", m.dateTo.toJson),
      ("managedObjectId", .string m.managedObjectId)] ++
    optional "managedObjectName" .string m.managedObjectName ++
    [("valueFragmentType", .string m.valueFragmentType),
      ("valueFragmentDescription", .string m.valueFragmentDescription)] ++
    optional "sensorDescription" .string m.sensorDescription ++
    optional "fileDescription" .string m.fileDescription)

def fields : Fields UploadMetadata :=
  UploadMetadata.mk <$> .required "dateFrom" Instant.decoder
    <*> .required "dateTo" Instant.decoder
    <*> .required "managedObjectId" .string
    <*> .optional "managedObjectName" .string
    <*> .required "valueFragmentType" .string
    <*> .required "valueFragmentDescription" .string
    <*> .optional "sensorDescription" .string
    <*> .optional "fileDescription" .string

def decoder : Decoder UploadMetadata := fields.decode "struct UploadFileMetadata"

instance : Codec UploadMetadata := ⟨decoder, toJson⟩

end UploadMetadata

namespace UploadFile

def toJson (f : UploadFile) : Json :=
  .ofMembers [("fileId", .string f.fileId), ("fileName", .string f.fileName),
    ("storage", f.storage.toJson), ("metadata", f.metadata.toJson),
    ("customAttributes", f.attributes.toJson)]

def fields : Fields UploadFile :=
  UploadFile.mk <$> .required "fileId" .string
    <*> .required "fileName" .string
    <*> .required "storage" Storage.decoder
    <*> .required "metadata" UploadMetadata.decoder
    <*> .withDefault "customAttributes" .attributes .empty

def decoder : Decoder UploadFile := fields.decode "struct UploadFile"

instance : Codec UploadFile := ⟨decoder, toJson⟩

end UploadFile

namespace UploadWork

def toJson (w : UploadWork) : Json :=
  .ofMembers [("files", ofList UploadFile.toJson w.files), ("platform", w.platform.toJson)]

def fields : Fields UploadWork :=
  UploadWork.mk <$> .withDefault "files" (.list UploadFile.decoder) []
    <*> .required "platform" Platform.decoder

def decoder : Decoder UploadWork := fields.decode "struct DataUploadPayload"

instance : Codec UploadWork := ⟨decoder, toJson⟩

end UploadWork

namespace Work

/-- The members of a task that tell its work. -/
def members : Work → List (String × Json)
  | .fetch w => [("taskType", .string "DATA_FETCH"), ("payload", w.toJson)]
  | .upload w => [("taskType", .string "DATA_UPLOAD"), ("payload", w.toJson)]
  | .sync => [("taskType", .string "OBJECT_SYNC")]

def toJson (w : Work) : Json := .ofMembers w.members

def variants : List (String × Decoder Work) :=
  [("DATA_FETCH", (Fields.required "payload" FetchWork.decoder).decode
      "struct variant TaskVariant::DataFetch" |>.map .fetch),
   ("DATA_UPLOAD", (Fields.required "payload" UploadWork.decoder).decode
      "struct variant TaskVariant::DataUpload" |>.map .upload),
   ("OBJECT_SYNC", .noContent .sync)]

def decoder : Decoder Work := .tagged "taskType" "internally tagged enum TaskVariant" variants

instance : Codec Work := ⟨decoder, toJson⟩

end Work

namespace Task

def toJson (t : Task) : Json :=
  .ofMembers ([("id", .string t.id), ("name", .string t.name), ("status", t.status.toJson),
      ("mode", t.mode.toJson), ("initiatedByUser", .string t.initiatedByUser),
      ("metadata", t.metadata.toJson)] ++
    t.work.members ++
    [("customAttributes", t.attributes.toJson), ("createdAt", t.createdAt.toJson),
      ("updatedAt", t.updatedAt.toJson)])

/-- All fields but those of the work. -/
def fields : Fields (Work → Task) :=
  (fun id name status mode user metadata attributes createdAt updatedAt work =>
      Task.mk id name status mode user metadata work attributes createdAt updatedAt)
    <$> .required "id" .string
    <*> .required "name" .string
    <*> .required "status" TaskStatus.decoder
    <*> .required "mode" TaskMode.decoder
    <*> .required "initiatedByUser" .string
    <*> .required "metadata" TaskMetadata.decoder
    <*> .withDefault "customAttributes" .attributes .empty
    <*> .required "createdAt" Instant.decoder
    <*> .required "updatedAt" Instant.decoder

def decoder : Decoder Task :=
  fields.decodeWith "struct Task" (Decoder.taggedMembers "taskType" Work.variants .buffered)

instance : Codec Task := ⟨decoder, toJson⟩

end Task

namespace TaskPatch

def fields : Fields TaskPatch :=
  TaskPatch.mk <$> .optional "status" TaskStatus.decoder
    <*> .optional "mode" TaskMode.decoder
    <*> .optional "lastRanAt" Instant.decoder
    <*> .optional "lastCompletedAt" Instant.decoder
    <*> .optional "lastFailedAt" Instant.decoder
    <*> .optional "lastFailReason" .string
    <*> .optional "nextRunAt" Instant.decoder
    <*> .optional "dataFetchEntries" (.list FetchEntry.decoder)

def decoder : Decoder TaskPatch := fields.decode "struct TaskPatch"

end TaskPatch

end SensorTasks

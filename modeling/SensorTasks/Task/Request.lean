import SensorTasks.Task.Codec
import SensorTasks.Text.Blank

/-!
Requests for a new task. They say what is to be done by ids of sensors, groups and files; a name
and the time of the first run may be left to the service.
-/

namespace SensorTasks

open Json

/-- Whether a fetch is asked for by sensors or by a group of them. -/
inductive EntityType where
  | group
  | sensor
  deriving DecidableEq

structure FetchEntity where
  id : String
  fileName : String
  deriving DecidableEq

structure FetchRequest where
  entityType : EntityType
  entities : List FetchEntity
  dateFrom : Instant
  dateTo : Option Instant
  deriving DecidableEq

structure UploadRequest where
  fileIds : List FileId
  platform : Platform
  deriving DecidableEq

inductive RequestedWork where
  | fetch (r : FetchRequest)
  | upload (r : UploadRequest)
  | sync
  deriving DecidableEq

def RequestedWork.type : RequestedWork → TaskType
  | .fetch _ => .dataFetch
  | .upload _ => .dataUpload
  | .sync => .objectSync

structure TaskRequest where
  name : Option String
  firstRunAt : Option Instant
  recurrence : Option Recurrence
  attributes : Attributes
  work : RequestedWork

namespace TaskRequest

def type (r : TaskRequest) : TaskType := r.work.type

/-- The name asked for, without blanks at its ends, unless nothing is left of it. -/
def givenName (r : TaskRequest) : Option String :=
  match r.name with
  | none => none
  | some name => if (Text.trim name).isEmpty then none else some (Text.trim name)

/-- The name of a task that was not given one; `code` keeps it apart from others. -/
def defaultName (type : TaskType) (firstRunAt : Instant) (code : String) : String :=
  type.name ++ "-" ++ firstRunAt.renderWith .seconds ++ "-" ++ code

end TaskRequest

/-! ### As JSON -/

namespace EntityType

def name : EntityType → String
  | .group => "GROUP"
  | .sensor => "SENSOR"

def toJson (t : EntityType) : Json := .string t.name

def variants : List (String × EntityType) :=
  [EntityType.group, EntityType.sensor].map fun t => (t.name, t)

def decoder : Decoder EntityType := .choice variants

instance : Codec EntityType := ⟨decoder, toJson⟩

end EntityType

namespace FetchEntity

def toJson (e : FetchEntity) : Json :=
  .ofMembers [("id", .string e.id), ("fileName", .string e.fileName)]

def fields : Fields FetchEntity :=
  FetchEntity.mk <$> .required "id" .string <*> .required "fileName" .string

def decoder : Decoder FetchEntity := fields.decode "struct DataFetchEntity"

instance : Codec FetchEntity := ⟨decoder, toJson⟩

end FetchEntity

namespace FetchRequest

def toJson (r : FetchRequest) : Json :=
  .ofMembers ([("entityType", r.entityType.toJson),
      ("entities", ofList FetchEntity.toJson r.entities), ("dateFrom", r.dateFrom.toJson)] ++
    optional "dateTo" Instant.toJson r.dateTo)

def fields : Fields FetchRequest :=
  FetchRequest.mk <$> .required "entityType" EntityType.decoder
    <*> .required "entities" (.list FetchEntity.decoder)
    <*> .required "dateFrom" Instant.decoder
    <*> .optional "dateTo" Instant.decoder

def decoder : Decoder FetchRequest := fields.decode "struct DataFetchRequest"

instance : Codec FetchRequest := ⟨decoder, toJson⟩

end FetchRequest

namespace UploadRequest

def toJson (r : UploadRequest) : Json :=
  .ofMembers [("fileIds", ofList .string r.fileIds), ("platform", r.platform.toJson)]

def fields : Fields UploadRequest :=
  UploadRequest.mk <$> .required "fileIds" (.list .string)
    <*> .required "platform" Platform.decoder

def decoder : Decoder UploadRequest := fields.decode "struct DataUploadRequest"

instance : Codec UploadRequest := ⟨decoder, toJson⟩

end UploadRequest

namespace RequestedWork

def members : RequestedWork → List (String × Json)
  | .fetch r => [("taskType", .string "DATA_FETCH"), ("payload", r.toJson)]
  | .upload r => [("taskType", .string "DATA_UPLOAD"), ("payload", r.toJson)]
  | .sync => [("taskType", .string "OBJECT_SYNC")]

def toJson (w : RequestedWork) : Json := .ofMembers w.members

def variants : List (String × Decoder RequestedWork) :=
  [("DATA_FETCH", (Fields.required "payload" FetchRequest.decoder).decode
      "struct variant CreateTaskDetails::DataFetch" |>.map .fetch),
   ("DATA_UPLOAD", (Fields.required "payload" UploadRequest.decoder).decode
      "struct variant CreateTaskDetails::DataUpload" |>.map .upload),
   ("OBJECT_SYNC", .noContent .sync)]

def decoder : Decoder RequestedWork :=
  .tagged "taskType" "internally tagged enum CreateTaskDetails" variants

instance : Codec RequestedWork := ⟨decoder, toJson⟩

end RequestedWork

namespace TaskRequest

def toJson (r : TaskRequest) : Json :=
  .ofMembers (optional "name" .string r.name ++
    optional "firstRunAt" Instant.toJson r.firstRunAt ++
    optional "periodicData" Recurrence.toJson r.recurrence ++
    [("customAttributes", r.attributes.toJson)] ++ r.work.members)

/-- All fields but those of the work. -/
def fields : Fields (RequestedWork → TaskRequest) :=
  TaskRequest.mk <$> .optional "name" .string
    <*> .optional "firstRunAt" Instant.decoder
    <*> .optional "periodicData" Recurrence.decoder
    <*> .withDefault "customAttributes" .attributes .empty

def decoder : Decoder TaskRequest :=
  fields.decodeWith "struct CreateTaskRequest"
    (Decoder.taggedMembers "taskType" RequestedWork.variants .buffered)

instance : Codec TaskRequest := ⟨decoder, toJson⟩

end TaskRequest

end SensorTasks

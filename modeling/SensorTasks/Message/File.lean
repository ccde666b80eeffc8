import SensorTasks.Message.Check
import SensorTasks.Document.Sensor

/-!
Messages about files and users: deletions, requests for another visibility and their outcome, and
the news about a user.
-/

namespace SensorTasks.Message

open Json

structure FileLocation where
  fileId : FileId
  bucket : String
  path : String
  deriving DecidableEq

structure FileDeletion where
  files : List FileLocation
  deriving DecidableEq

/-- A request to the storage side. -/
structure VisibilityRequest where
  fileId : FileId
  published : Bool
  exposedTo : List Platform
  storage : Storage
  deriving DecidableEq

structure VisibilityUpdate where
  published : Bool
  exposedTo : Option (List Platform)
  deriving DecidableEq

structure VisibilityResult where
  fileId : FileId
  visibility : Option VisibilityUpdate
  storage : Option Storage
  error : Option String
  deriving DecidableEq

/-! ### Checks -/

def FileDeletion.check (m : FileDeletion) : Check :=
  require (!m.files.isEmpty) "files must not be empty"

def VisibilityResult.check (m : VisibilityResult) : Check :=
  require (m.error.isSome || m.visibility.isSome) "either error or visibilityState is required"

def checkUser (u : User) : Check :=
  require (!u.username.isEmpty) "username must not be empty"

/-! ### As JSON -/

namespace FileLocation

def of (f : File) : FileLocation := ⟨f.id, f.storage.bucket, f.storage.path⟩

def toJson (l : FileLocation) : Json :=
  .ofMembers [("fileId", .string l.fileId), ("bucket", .string l.bucket), ("path", .string l.path)]

def fields : Fields FileLocation :=
  FileLocation.mk <$> .required "fileId" .string <*> .required "bucket" .string
    <*> .required "path" .string

def decoder : Decoder FileLocation := fields.decode "struct FileLocation"

instance : Codec FileLocation := ⟨decoder, toJson⟩

end FileLocation

namespace FileDeletion

def toJson (m : FileDeletion) : Json :=
  .ofMembers [("files", ofList FileLocation.toJson m.files)]

def fields : Fields FileDeletion :=
  FileDeletion.mk <$> .required "files" (.list FileLocation.decoder)

def decoder : Decoder FileDeletion := fields.decode "struct FileDeletionMessage"

instance : Codec FileDeletion := ⟨decoder, toJson⟩

end FileDeletion

namespace VisibilityRequest

def toJson (m : VisibilityRequest) : Json :=
  .ofMembers [("fileId", .string m.fileId), ("published", .bool m.published),
    ("exposedToPlatforms", ofList Platform.toJson m.exposedTo), ("storage", m.storage.toJson)]

def fields : Fields VisibilityRequest :=
  VisibilityRequest.mk <$> .required "fileId" .string
    <*> .required "published" .boolean
    <*> .withDefault "exposedToPlatforms" (.list Platform.decoder) []
    <*> .required "storage" Storage.decoder

def decoder : Decoder VisibilityRequest := fields.decode "struct FileVisibilityStateMessage"

instance : Codec VisibilityRequest := ⟨decoder, toJson⟩

end VisibilityRequest

namespace VisibilityUpdate

def toJson (u : VisibilityUpdate) : Json :=
  .ofMembers ([("published", .bool u.published)] ++
    optional "exposedToPlatforms" (ofList Platform.toJson) u.exposedTo)

def fields : Fields VisibilityUpdate :=
  VisibilityUpdate.mk <$> .required "published" .boolean
    <*> .optional "exposedToPlatforms" (.list Platform.decoder)

def decoder : Decoder VisibilityUpdate := fields.decode "struct VisibilityStateUpdate"

instance : Codec VisibilityUpdate := ⟨decoder, toJson⟩

end VisibilityUpdate

namespace VisibilityResult

def toJson (m : VisibilityResult) : Json :=
  .ofMembers ([("fileId", .string m.fileId)] ++
    optional "visibilityState" VisibilityUpdate.toJson m.visibility ++
    optional "storage" Storage.toJson m.storage ++
    optional "error" .string m.error)

def fields : Fields VisibilityResult :=
  VisibilityResult.mk <$> .required "fileId" .string
    <*> .optional "visibilityState" VisibilityUpdate.decoder
    <*> .optional "storage" Storage.decoder
    <*> .optional "error" .string

def decoder : Decoder VisibilityResult :=
  fields.decode "struct FileVisibilityStateResultMessage"

instance : Codec VisibilityResult := ⟨decoder, toJson⟩

end VisibilityResult

/-- A user is announced in the form of the document. -/
def userDecoder : Decoder User := User.fields.decode "struct UserMessage"

end SensorTasks.Message

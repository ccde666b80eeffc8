import SensorTasks.Instant.Codec
import SensorTasks.Json.Decode.Record
import SensorTasks.Json.Encode

/-!
Files: where they are stored, what they were measured from, and who may see them. A change of the
visibility is asked for first and answered later; in between it is marked as changing.
-/

namespace SensorTasks

open Json

abbrev TaskId := String
abbrev FileId := String
abbrev SensorId := String
abbrev GroupId := String
abbrev UserId := String

/-- An external platform that files can be exposed to. -/
structure Platform where
  identifier : String
  deriving DecidableEq

structure Storage where
  bucket : String
  path : String
  deriving DecidableEq

structure ValueFragment where
  type : String
  description : Option String
  deriving DecidableEq

structure FileMetadata where
  sensors : List SensorId
  dateFrom : Option Instant
  dateTo : Option Instant
  managedObjectId : Option String
  managedObjectName : Option String
  valueFragments : List ValueFragment
  deriving DecidableEq

structure Visibility where
  published : Bool
  stateChanging : Bool
  exposedTo : List Platform
  errorMessage : Option String
  deriving DecidableEq

/-- Everything of a file that its creator decides. -/
structure NewFile where
  name : String
  storage : Storage
  metadata : FileMetadata
  createdByTask : Option TaskId
  description : Option String
  url : Option String
  attributes : Attributes

structure File where
  id : FileId
  name : String
  description : Option String
  createdByTask : Option TaskId
  storage : Storage
  metadata : FileMetadata
  visibility : Visibility
  attributes : Attributes
  url : Option String
  createdAt : Instant
  updatedAt : Instant

/-! ### Visibility -/

namespace Visibility

/-- The state of a new file. -/
def hidden : Visibility := ⟨false, false, [], none⟩

def isExposedTo (v : Visibility) (p : Platform) : Bool :=
  v.exposedTo.contains p

/-- The platform is added if it is not there. -/
def exposeTo (v : Visibility) (p : Platform) : Visibility :=
  if v.isExposedTo p then v else { v with exposedTo := v.exposedTo ++ [p] }

theorem mem_exposeTo {v : Visibility} {p q : Platform} :
    q ∈ (v.exposeTo p).exposedTo ↔ q ∈ v.exposedTo ∨ q = p := by
  unfold exposeTo
  split
  · rename_i h
    simp only [isExposedTo, List.contains_eq_mem, decide_eq_true_eq] at h
    constructor
    · exact Or.inl
    · rintro (hq | rfl)
      · exact hq
      · exact h
  · simp

end Visibility

/-! ### Creation and change -/

def File.ofNew (new : NewFile) (id : FileId) (now : Instant) : File where
  id := id
  name := new.name
  description := new.description
  createdByTask := new.createdByTask
  storage := new.storage
  metadata := new.metadata
  visibility := .hidden
  attributes := new.attributes
  url := new.url
  createdAt := now
  updatedAt := now

/-- What is to be changed of a file; nothing leaves a field as it is. -/
structure FilePatch where
  storage : Option Storage := none
  url : Option String := none
  published : Option Bool := none
  stateChanging : Option Bool := none
  exposedTo : Option (List Platform) := none
  /-- The new error, which may be that there is none. -/
  errorMessage : Option (Option String) := none

def FilePatch.apply (p : FilePatch) (now : Instant) (f : File) : File :=
  { f with
    storage := p.storage.getD f.storage
    url := p.url.or f.url
    visibility :=
      { published := p.published.getD f.visibility.published
        stateChanging := p.stateChanging.getD f.visibility.stateChanging
        exposedTo := p.exposedTo.getD f.visibility.exposedTo
        errorMessage := p.errorMessage.getD f.visibility.errorMessage }
    updatedAt := now }

/-! ### As JSON -/

namespace Platform

def toJson (p : Platform) : Json :=
  .ofMembers [("platformIdentifier", .string p.identifier)]

def fields : Fields Platform :=
  Platform.mk <$> .required "platformIdentifier" .string

def decoder : Decoder Platform := fields.decode "struct Platform"

instance : Codec Platform := ⟨decoder, toJson⟩

end Platform

namespace Storage

def toJson (s : Storage) : Json :=
  .ofMembers [("bucket", .string s.bucket), ("path", .string s.path)]

def fields : Fields Storage :=
  Storage.mk <$> .required "bucket" .string <*> .required "path" .string

def decoder : Decoder Storage := fields.decode "struct FileStorage"

instance : Codec Storage := ⟨decoder, toJson⟩

end Storage

namespace ValueFragment

def toJson (v : ValueFragment) : Json :=
  .ofMembers (("type", .string v.type) :: optional "description" .string v.description)

def fields : Fields ValueFragment :=
  ValueFragment.mk <$> .required "type" .string <*> .optional "description" .string

def decoder : Decoder ValueFragment := fields.decode "struct ValueFragment"

instance : Codec ValueFragment := ⟨decoder, toJson⟩

end ValueFragment

namespace FileMetadata

def toJson (m : FileMetadata) : Json :=
  .ofMembers ([("sensors", ofList .string m.sensors)] ++
    optional "dateFrom" Instant.toJson m.dateFrom ++
    optional "dateTo" Instant.toJson m.dateTo ++
    optional "managedObjectId" .string m.managedObjectId ++
    optional "managedObjectName" .string m.managedObjectName ++
    [("valueFragments", ofList ValueFragment.toJson m.valueFragments)])

def fields : Fields FileMetadata :=
  FileMetadata.mk <$> .withDefault "sensors" (.list .string) []
    <*> .optional "dateFrom" Instant.decoder
    <*> .optional "dateTo" Instant.decoder
    <*> .optional "managedObjectId" .string
    <*> .optional "managedObjectName" .string
    <*> .withDefault "valueFragments" (.list ValueFragment.decoder) []

def decoder : Decoder FileMetadata := fields.decode "struct FileMetadata"

instance : Codec FileMetadata := ⟨decoder, toJson⟩

end FileMetadata

namespace Visibility

def toJson (v : Visibility) : Json :=
  .ofMembers ([("published", .bool v.published), ("stateChanging", .bool v.stateChanging),
      ("exposedToPlatforms", ofList Platform.toJson v.exposedTo)] ++
    optional "errorMessage" .string v.errorMessage)

def fields : Fields Visibility :=
  Visibility.mk <$> .required "published" .boolean
    <*> .required "stateChanging" .boolean
    <*> .withDefault "exposedToPlatforms" (.list Platform.decoder) []
    <*> .optional "errorMessage" .string

def decoder : Decoder Visibility := fields.decode "struct VisibilityState"

instance : Codec Visibility := ⟨decoder, toJson⟩

end Visibility

namespace NewFile

def fields : Fields NewFile :=
  NewFile.mk <$> .required "name" .string
    <*> .required "storage" Storage.decoder
    <*> .required "metadata" FileMetadata.decoder
    <*> .optional "createdByTask" .string
    <*> .optional "description" .string
    <*> .optional "url" .string
    <*> .withDefault "customAttributes" .attributes .empty

def decoder : Decoder NewFile := fields.decode "struct NewFile"

end NewFile

namespace FilePatch

/-- What becomes of the error: it is cleared, or replaced, or stays. -/
def errorChange (error : Option String) (clear : Option Bool) : Option (Option String) :=
  if clear = some true then some none else error.map some

def fields : Fields FilePatch :=
  (fun storage url published stateChanging exposedTo error clear =>
      FilePatch.mk storage url published stateChanging exposedTo (errorChange error clear))
    <$> .optional "storage" Storage.decoder
    <*> .optional "url" .string
    <*> .optional "published" .boolean
    <*> .optional "stateChanging" .boolean
    <*> .optional "exposedToPlatforms" (.list Platform.decoder)
    <*> .optional "errorMessage" .string
    <*> .optional "clearErrorMessage" .boolean

def decoder : Decoder FilePatch := fields.decode "struct FilePatch"

end FilePatch

namespace File

def toJson (f : File) : Json :=
  .ofMembers ([("id", .string f.id), ("name", .string f.name)] ++
    optional "description" .string f.description ++
    optional "createdByTask" .string f.createdByTask ++
    [("storage", f.storage.toJson), ("metadata", f.metadata.toJson),
      ("visibilityState", f.visibility.toJson), ("customAttributes", f.attributes.toJson)] ++
    optional "url" .string f.url ++
    [("createdAt", f.createdAt.toJson), ("updatedAt", f.updatedAt.toJson)])

def fields : Fields File :=
  File.mk <$> .required "id" .string
    <*> .required "name" .string
    <*> .optional "description" .string
    <*> .optional "createdByTask" .string
    <*> .required "storage" Storage.decoder
    <*> .required "metadata" FileMetadata.decoder
    <*> .withDefault "visibilityState" Visibility.decoder .hidden
    <*> .withDefault "customAttributes" .attributes .empty
    <*> .optional "url" .string
    <*> .required "createdAt" Instant.decoder
    <*> .required "updatedAt" Instant.decoder

def decoder : Decoder File := fields.decode "struct File"

instance : Codec File := ⟨decoder, toJson⟩

end File

end SensorTasks

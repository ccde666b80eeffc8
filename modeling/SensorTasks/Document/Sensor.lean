import SensorTasks.Document.File
import SensorTasks.Text.Blank

/-!
Sensors, the measurement series of managed objects, and groups of them. Both come from outside and
are known there by other names than their ids.
-/

namespace SensorTasks

open Json

structure Sensor where
  id : SensorId
  name : String
  description : Option String
  managedObjectId : String
  managedObjectName : String
  valueFragmentType : String
  valueFragmentDisplayName : Option String
  attributes : Attributes

structure Group where
  id : GroupId
  name : String
  description : Option String
  managedObjectId : Option String
  managedObjectName : Option String
  sensors : List SensorId
  subGroups : List GroupId
  attributes : Attributes

/-- A user, as other services are told of one. -/
structure User where
  id : UserId
  username : String
  deleted : Bool
  deriving DecidableEq

/-- The description of the measured values, if there is one that can be shown. -/
def Sensor.valueDescription (s : Sensor) : Option String :=
  match s.valueFragmentDisplayName with
  | none => none
  | some name => if (Text.trim name).isEmpty then none else some (Text.trim name)

/-- `new` at the end of `old`, without what is there already. -/
def addNew (old : List String) : List String → List String
  | [] => old
  | a :: new => if old.contains a then addNew old new else addNew (old ++ [a]) new

theorem mem_addNew {old new : List String} {a : String} :
    a ∈ addNew old new ↔ a ∈ old ∨ a ∈ new := by
  induction new generalizing old with
  | nil => simp [addNew]
  | cons b new ih =>
    simp only [addNew]
    split
    · rename_i h
      simp only [List.contains_eq_mem, decide_eq_true_eq] at h
      rw [ih]
      constructor
      · rintro (h' | h')
        · exact Or.inl h'
        · exact Or.inr (by simp [h'])
      · rintro (h' | h')
        · exact Or.inl h'
        · rcases List.mem_cons.1 h' with rfl | h'
          · exact Or.inl h
          · exact Or.inr h'
    · rw [ih]
      simp [or_assoc]

namespace Group

/-- Members are added once, and a group never to itself. -/
def addMembers (g : Group) (sensors : List SensorId) (groups : List GroupId) : Group :=
  { g with
    sensors := addNew g.sensors sensors
    subGroups := addNew g.subGroups (groups.filter (· != g.id)) }

/-- The group has other members than before. -/
def hasGrown (g g' : Group) : Bool :=
  g.sensors.length != g'.sensors.length || g.subGroups.length != g'.subGroups.length

end Group

/-! ### As JSON -/

namespace Sensor

def toJson (s : Sensor) : Json :=
  .ofMembers ([("id", .string s.id), ("name", .string s.name)] ++
    optional "description" .string s.description ++
    [("managedObjectId", .string s.managedObjectId),
      ("managedObjectName", .string s.managedObjectName),
      ("valueFragmentType", .string s.valueFragmentType)] ++
    optional "valueFragmentDisplayName" .string s.valueFragmentDisplayName ++
    [("customAttributes", s.attributes.toJson)])

def fields : Fields Sensor :=
  Sensor.mk <$> .required "id" .string
    <*> .required "name" .string
    <*> .optional "description" .string
    <*> .required "managedObjectId" .string
    <*> .required "managedObjectName" .string
    <*> .required "valueFragmentType" .string
    <*> .optional "valueFragmentDisplayName" .string
    <*> .withDefault "customAttributes" .attributes .empty

def decoder : Decoder Sensor := fields.decode "struct Sensor"

instance : Codec Sensor := ⟨decoder, toJson⟩

end Sensor

namespace Group

def toJson (g : Group) : Json :=
  .ofMembers ([("id", .string g.id), ("name", .string g.name)] ++
    optional "description" .string g.description ++
    optional "managedObjectId" .string g.managedObjectId ++
    optional "managedObjectName" .string g.managedObjectName ++
    [("sensors", ofList .string g.sensors), ("subGroups", ofList .string g.subGroups),
      ("customAttributes", g.attributes.toJson)])

def fields : Fields Group :=
  Group.mk <$> .required "id" .string
    <*> .required "name" .string
    <*> .optional "description" .string
    <*> .optional "managedObjectId" .string
    <*> .optional "managedObjectName" .string
    <*> .withDefault "sensors" (.list .string) []
    <*> .withDefault "subGroups" (.list .string) []
    <*> .withDefault "customAttributes" .attributes .empty

def decoder : Decoder Group := fields.decode "struct Group"

instance : Codec Group := ⟨decoder, toJson⟩

end Group

namespace User

def toJson (u : User) : Json :=
  .ofMembers [("id", .string u.id), ("username", .string u.username), ("deleted", .bool u.deleted)]

def fields : Fields User :=
  User.mk <$> .required "id" .string <*> .required "username" .string
    <*> .withDefault "deleted" .boolean false

def decoder : Decoder User := fields.decode "struct User"

instance : Codec User := ⟨decoder, toJson⟩

end User

end SensorTasks

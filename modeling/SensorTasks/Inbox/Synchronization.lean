import SensorTasks.Inbox.Error
import SensorTasks.Message.Status

/-!
Taking over the managed objects of a platform. A sensor or a group that is known is looked up and
never created twice, also when another run creates it in between; the members of a group are taken
over before the group itself.
-/

namespace SensorTasks.Inbox.Synchronization

open Ledger Message

/-- What a run has changed. -/
structure Summary where
  sensorsCreated : Nat
  sensorsSkipped : Nat
  groupsCreated : Nat
  groupsUpdated : Nat
  deriving DecidableEq

namespace Summary

def zero : Summary := ⟨0, 0, 0, 0⟩

def toJson (s : Summary) : Json :=
  .ofMembers [("sensorsCreated", .ofNat s.sensorsCreated),
    ("sensorsSkipped", .ofNat s.sensorsSkipped), ("groupsCreated", .ofNat s.groupsCreated),
    ("groupsUpdated", .ofNat s.groupsUpdated)]

def addSensor (s : Summary) : Summary := { s with sensorsCreated := s.sensorsCreated + 1 }

def skipSensor (s : Summary) : Summary := { s with sensorsSkipped := s.sensorsSkipped + 1 }

def addGroup (s : Summary) : Summary := { s with groupsCreated := s.groupsCreated + 1 }

def growGroup (s : Summary) : Summary := { s with groupsUpdated := s.groupsUpdated + 1 }

end Summary

/-- The new sensor of an object. -/
def newSensor (id : SensorId) (s : SensorObject) (fragmentType : String) : Sensor where
  id := id
  name := s.valueFragmentDisplayName.getD fragmentType
  description := none
  managedObjectId := s.managedObjectId
  managedObjectName := s.managedObjectName
  valueFragmentType := fragmentType
  valueFragmentDisplayName := s.valueFragmentDisplayName
  attributes := .empty

/-- The new group of an object with its members. -/
def newGroup (id : GroupId) (managedObjectId name : String) (sensors : List SensorId)
    (groups : List GroupId) : Group :=
  Group.addMembers ⟨id, name, none, some managedObjectId, some name, [], [], .empty⟩ sensors groups

/-- The id of the sensor of an object, which is created if it is not known. An object that does not
say what it measures has none. -/
def syncSensor (sum : Summary) (s : SensorObject) :
    Action HandlerError (Option SensorId × Summary) :=
  match s.valueFragmentType with
  | none => return (none, sum.skipSensor)
  | some fragmentType => do
    let lookup := Command.findSensorOf s.managedObjectId s.managedObjectName fragmentType
    let known ← Action.perform lookup
    match known with
    | some sensor => return (some sensor.id, sum)
    | none =>
      let id ← Action.freshId
      let created ← Action.perform (.createSensor (newSensor id s fragmentType))
      match created with
      | .ok () => return (some id, sum.addSensor)
      | .error (.duplicateKey ..) =>
        let other ← Action.perform lookup
        return (other.map (·.id), sum)
      | .error e => throw (.ledger e)

/-- The ids of the sensors that have one. -/
def syncSensors (sum : Summary) : List SensorObject → Action HandlerError (List SensorId × Summary)
  | [] => return ([], sum)
  | s :: rest => do
    let (id, sum) ← syncSensor sum s
    let (ids, sum) ← syncSensors sum rest
    return (id.toList ++ ids, sum)

/-- Adds members to a group that is known. -/
def joinGroup (sum : Summary) (known : Group) (sensors : List SensorId) (groups : List GroupId) :
    Action HandlerError (GroupId × Summary) := do
  let grown ← (Action.addMembers known.id sensors groups).mapError .ledger
  return (known.id, if known.hasGrown grown then sum.growGroup else sum)

/-- Adds members to a group that another run has created meanwhile. -/
def joinOther (sum : Summary) (managedObjectId : String) (sensors : List SensorId)
    (groups : List GroupId) : Action HandlerError (GroupId × Summary) := do
  let other ← Action.perform (.findGroupOf managedObjectId)
  let known ← Action.orFail (.ledger (.notFound .group managedObjectId)) other
  let _ ← (Action.addMembers known.id sensors groups).mapError .ledger
  return (known.id, sum)

/-- The id of a group whose members are known, after they have joined it. -/
def settleGroup (sum : Summary) (managedObjectId name : String) (sensors : List SensorId)
    (groups : List GroupId) : Action HandlerError (GroupId × Summary) := do
  let known ← Action.perform (.findGroupOf managedObjectId)
  match known with
  | some group => joinGroup sum group sensors groups
  | none =>
    let id ← Action.freshId
    let created ← Action.perform (.createGroup (newGroup id managedObjectId name sensors groups))
    match created with
    | .ok () => return (id, sum.addGroup)
    | .error (.duplicateKey ..) => joinOther sum managedObjectId sensors groups
    | .error e => throw (.ledger e)

mutual

/-- The id of the group of an object, after everything inside it. -/
def syncGroup (sum : Summary) : GroupObject → Action HandlerError (GroupId × Summary)
  | .mk managedObjectId name sensors groups => do
    let (sensorIds, sum) ← syncSensors sum sensors
    let (groupIds, sum) ← syncGroups sum groups
    settleGroup sum managedObjectId name sensorIds groupIds

def syncGroups (sum : Summary) : List GroupObject → Action HandlerError (List GroupId × Summary)
  | [] => return ([], sum)
  | g :: rest => do
    let (id, sum) ← syncGroup sum g
    let (ids, sum) ← syncGroups sum rest
    return (id :: ids, sum)

end

def syncObject (sum : Summary) : ManagedObject → Action HandlerError Summary
  | .sensor s => do
    let (_, sum) ← syncSensor sum s
    return sum
  | .group g => do
    let (_, sum) ← syncGroup sum g
    return sum

def syncFrom (sum : Summary) : List ManagedObject → Action HandlerError Summary
  | [] => return sum
  | o :: rest => do
    let sum ← syncObject sum o
    syncFrom sum rest

/-- Takes over a list of objects. -/
def sync (objects : List ManagedObject) : Action HandlerError Summary :=
  syncFrom .zero objects

end SensorTasks.Inbox.Synchronization

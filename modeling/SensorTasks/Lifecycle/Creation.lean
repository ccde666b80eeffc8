import SensorTasks.Lifecycle.Error
import SensorTasks.Task.Request

/-!
Building a task from a request. All that the request refers to is looked up and taken over, and the
first thing that is wrong refuses it as a whole; nothing is stored.
-/

namespace SensorTasks.Creation

/-! ### Fetching -/

/-- A new entry for every sensor and file name, with the new ids from number `first` on. -/
def entries (first : Nat) : List (SensorId × String) → List FetchEntry
  | [] => []
  | (sensor, fileName) :: rest =>
    ⟨sensor, FreshId.text first, none, some fileName, none, none, none⟩ ::
      entries (first + 1) rest

def newEntries (wanted : List (SensorId × String)) : Action TaskError (List FetchEntry) := do
  let first ← Action.perform (.reserve wanted.length)
  return entries first wanted

/-- What is wrong with a request for a fetch by itself. -/
def fetchFault? (r : FetchRequest) : Option RequestFault :=
  if r.dateTo.any fun stop => stop.before r.dateFrom then some .datesReversed
  else
    match r.entities.find? fun e => Text.isBlankText e.fileName with
    | some e => some (.blankFileName e.id)
    | none =>
      match r.entityType, r.entities with
      | .group, [_] => none
      | .group, es => some (.notOneGroup es.length)
      | .sensor, [] => some .noSensors
      | .sensor, _ => none

/-- One entry for each sensor that is a direct member of a group. -/
def fetchGroup (r : FetchRequest) (e : FetchEntity) : Action TaskError Work := do
  let found ← Action.perform (.findGroup e.id)
  let group ← Action.orFail (.notFound .group e.id) found
  let data ← newEntries (group.sensors.map fun sensor => (sensor, e.fileName))
  return .fetch ⟨data, some r.dateFrom, r.dateTo, some group.id⟩

/-- One entry for each entity, all of which are known sensors. -/
def fetchSensors (r : FetchRequest) : Action TaskError Work := do
  let found ← Action.perform (.findSensors (r.entities.map (·.id)))
  match r.entities.find? fun e => !found.any fun s => s.id == e.id with
  | some missing => throw (.notFound .sensor missing.id)
  | none =>
    let data ← newEntries (r.entities.map fun e => (e.id, e.fileName))
    return .fetch ⟨data, some r.dateFrom, r.dateTo, none⟩

def fetchWork (r : FetchRequest) : Action TaskError Work :=
  match fetchFault? r with
  | some fault => throw (.invalidRequest fault)
  | none =>
    match r.entityType, r.entities with
    | .group, e :: _ => fetchGroup r e
    | _, _ => fetchSensors r

/-! ### Uploading -/

/-- The attributes of a file over those of its sensors, of which later ones win. -/
def uploadAttributes (f : File) (sensors : List Sensor) : Attributes :=
  (sensors.foldl (fun acc s => Attributes.extend acc s.attributes) Attributes.empty).extend
    f.attributes

/-- What is uploaded of a file whose known sensors are given. -/
def uploadFile (f : File) (sensors : List Sensor) : Except FileFault UploadFile :=
  match f.metadata.sensors with
  | [] => .error .noSensor
  | first :: _ =>
    match sensors.find? fun s => s.id == first with
    | none => .error (.unknownSensor first)
    | some primary =>
      match primary.valueDescription, f.metadata.dateFrom, f.metadata.dateTo with
      | none, _, _ => .error (.unnamedFragment primary.id)
      | some description, some dateFrom, some dateTo =>
        .ok
          { fileId := f.id
            fileName := f.name
            storage := f.storage
            metadata :=
              { dateFrom := dateFrom
                dateTo := dateTo
                managedObjectId := f.metadata.managedObjectId.getD primary.managedObjectId
                managedObjectName := f.metadata.managedObjectName.or primary.managedObjectName
                valueFragmentType := primary.valueFragmentType
                valueFragmentDescription := description
                sensorDescription := primary.description
                fileDescription := f.description }
            attributes := uploadAttributes f sensors }
      | some _, _, _ => .error .noDates

/-- The known sensors of a file; for a file without sensors nothing is looked up. -/
def sensorsOf (f : File) : Action TaskError (List Sensor) :=
  if f.metadata.sensors.isEmpty then return [] else Action.perform (.findSensors f.metadata.sensors)

def findUploadFile (id : FileId) : Action TaskError UploadFile := do
  let found ← Action.perform (.findFile id)
  let f ← Action.orFail (.notFound .file id) found
  let sensors ← sensorsOf f
  (Action.ofExcept (uploadFile f sensors)).mapError (.unusableFile id)

def findUploadFiles : List FileId → Action TaskError (List UploadFile)
  | [] => return []
  | id :: ids => do
    let f ← findUploadFile id
    return f :: (← findUploadFiles ids)

def uploadWork (r : UploadRequest) : Action TaskError Work :=
  if r.fileIds.isEmpty then throw (.invalidRequest .noFiles)
  else if Text.isBlankText r.platform.identifier then throw (.invalidRequest .blankPlatform)
  else do
    let files ← findUploadFiles r.fileIds
    return .upload ⟨files, r.platform⟩

/-! ### Tasks -/

def work : RequestedWork → Action TaskError Work
  | .fetch r => fetchWork r
  | .upload r => uploadWork r
  | .sync => return .sync

/-- The name that a request resolves to: the one that it gives or else the default one. -/
def resolveName {ε : Type} (r : TaskRequest) (firstRunAt : Instant) : Action ε String :=
  match r.givenName with
  | some name => return name
  | none => do
    let n ← Action.perform (.reserve 1)
    return TaskRequest.defaultName r.type firstRunAt (FreshId.code n)

def firstRun (r : TaskRequest) : Action TaskError Instant :=
  match r.firstRunAt with
  | some t => return t
  | none => Action.perform .now

def checkRecurrence (r : TaskRequest) : Action TaskError Unit :=
  match r.recurrence.map Recurrence.schedule with
  | some (.error fault) => throw (.invalidSchedule fault)
  | _ => return ()

/-- The task that a user asks for. -/
def build (user : UserId) (r : TaskRequest) : Action TaskError Task := do
  checkRecurrence r
  let firstRunAt ← firstRun r
  let name ← resolveName r firstRunAt
  let w ← work r.work
  let now ← Action.perform .now
  let id ← Action.freshId
  return Task.new id now name user (.new firstRunAt r.recurrence) w r.attributes

/-- An error of the ledger on storing a new task. -/
def storeError : Ledger.LedgerError → TaskError
  | .duplicateKey _ name => .duplicateName name
  | e => .ledger e

def store (t : Task) : Action TaskError Unit :=
  (Action.createTask t).mapError storeError

/-- Builds a task and stores it, without telling anyone. -/
def create (user : UserId) (r : TaskRequest) : Action TaskError Task := do
  let t ← build user r
  store t
  return t

end SensorTasks.Creation

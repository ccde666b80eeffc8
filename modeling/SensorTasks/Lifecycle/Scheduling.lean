import SensorTasks.Lifecycle.Creation

/-!
Scheduling: the message that tells a worker of a task, and the operations on tasks that send
messages. A message is checked before its task is stored, so a task that is stored can be announced.
-/

namespace SensorTasks.Scheduling

open Message

/-! ### The message of a task -/

/-- The entry of a message for an entry of a task, if its sensor is among the known ones. -/
def scheduledEntry (sensors : List Sensor) (e : FetchEntry) : Option ScheduledEntry :=
  match sensors.find? fun s => s.id == e.sensor with
  | none => none
  | some s =>
    some ⟨⟨s.id, s.managedObjectId, s.valueFragmentType⟩, e.fileName.getD "", e.dataId⟩

def scheduledFetch (task : TaskId) (w : FetchWork) : Action MappingError ScheduledFetch := do
  let dateFrom ← Action.orFail (.missingDateFrom task) w.dateFrom
  let sensors ← Action.perform (.findSensors (w.data.map (·.sensor)))
  return ⟨w.data.filterMap (scheduledEntry sensors), dateFrom, w.dateTo⟩

/-- The entry of a message for a file, unless nobody could tell what it holds. -/
def scheduledFile (f : UploadFile) : Option ScheduledUploadFile :=
  if Text.isBlankText f.metadata.valueFragmentDescription then none
  else some ⟨f.fileId, f.fileName, f.storage, f.metadata, f.attributes⟩

def scheduledUpload (w : UploadWork) : ScheduledUpload :=
  ⟨w.files.filterMap scheduledFile, w.platform⟩

def scheduledWork (t : Task) : Action MappingError ScheduledWork :=
  match t.work with
  | .fetch w => return .fetch (← scheduledFetch t.id w)
  | .upload w => return .upload (scheduledUpload w)
  | .sync => return .sync

/-- The message that schedules a task. -/
def message (t : Task) : Action MappingError (Scheduled ScheduledWork) := do
  let payload ← scheduledWork t
  return ⟨t.id, t.name, t.initiatedByUser, t.metadata.firstRunAt, t.metadata.recurrence,
    t.attributes, t.type, payload⟩

/-! ### Operations -/

/-- A name that is taken refuses a request before anything else is looked at. -/
def checkName (r : TaskRequest) : Action TaskError Unit :=
  match r.name with
  | none => return ()
  | some name => do
    let found ← Action.perform (.findTaskNamed (Text.trim name))
    match found with
    | some _ => throw (.duplicateName (Text.trim name))
    | none => return ()

/-- Creates a task and publishes its message. -/
def createAndSchedule (o : Outbox) (user : UserId) (r : TaskRequest) : Action TaskError Task := do
  checkName r
  let t ← Creation.build user r
  let m ← (message t).mapError .mapping
  let j := m.toJson ScheduledWork.toJson
  match o.registry.validate t.type.scheduledKey j with
  | .error e => throw (.messaging (.schema e))
  | .ok () =>
    Creation.store t
    Action.perform (.count .tasksCreated)
    publish o.exchange t.type.scheduledKey j
    return t

def find (id : TaskId) : Action TaskError Task := do
  let found ← Action.perform (.findTask id)
  Action.orFail (.notFound .task id) found

/-- Asks the scheduler for another mode; the tasks change when it answers. -/
def requestMode (o : Outbox) (ids : List TaskId) (mode : TaskMode) : Action TaskError Unit :=
  if ids.isEmpty then throw (.invalidRequest .noTasks)
  else do
    let found ← Action.perform (.findTasks ids)
    match ids.find? fun id => !found.any fun t => t.id == id with
    | some missing => throw (.notFound .task missing)
    | none => (o.send .taskMode (ModeChange.mk ids mode).toJson).mapError .messaging

end SensorTasks.Scheduling

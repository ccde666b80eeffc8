import SensorTasks.Ledger.Table
import SensorTasks.Ledger.Key
import SensorTasks.Ledger.Error
import SensorTasks.Task.Search

/-!
The ledger: tasks, files, sensors and groups, and the indexes that find them by other names than
their ids. The names of tasks, the objects behind sensors and the objects behind groups are unique,
and creating a second document under one of them fails. Every operation is one atomic change.
-/

namespace SensorTasks

open Ledger

structure Ledger where
  tasks : Table Task := .empty
  /-- The ids of the tasks by their names. -/
  taskNames : Table TaskId := .empty
  files : Table File := .empty
  /-- The ids of the files that tasks created by task, sensor and name. -/
  fileIndex : Table FileId := .empty
  sensors : Table Sensor := .empty
  sensorIndex : Table SensorId := .empty
  groups : Table Group := .empty
  groupIndex : Table GroupId := .empty

namespace Ledger

/-- How many documents there are of each kind. -/
structure Stats where
  tasks : Nat
  files : Nat
  sensors : Nat
  groups : Nat
  deriving DecidableEq

def empty : Ledger := {}

def stats (l : Ledger) : Stats :=
  ⟨l.tasks.size, l.files.size, l.sensors.size, l.groups.size⟩

/-! ### Tasks -/

def task? (l : Ledger) (id : TaskId) : Option Task := l.tasks.get? (Key.task id)

def putTask (l : Ledger) (t : Task) : Ledger :=
  { l with tasks := l.tasks.insert (Key.task t.id) t }

def taskNamed? (l : Ledger) (name : String) : Option Task :=
  (l.taskNames.get? (Key.taskName name)).bind l.task?

/-- The tasks there are among the ids, in their order and as often as they are listed. -/
def tasksOf (l : Ledger) (ids : List TaskId) : List Task := ids.filterMap l.task?

/-- Fails if there is a task of that name. -/
def createTask (l : Ledger) (t : Task) : Except LedgerError Ledger :=
  if l.taskNames.contains (Key.taskName t.name) then .error (.duplicateKey .task t.name)
  else
    .ok { l.putTask t with taskNames := l.taskNames.insert (Key.taskName t.name) t.id }

def updateTask (l : Ledger) (id : TaskId) (p : TaskPatch) (now : Instant) :
    Except LedgerError (Task × Ledger) :=
  match l.task? id with
  | none => .error (.notFound .task id)
  | some t => .ok (p.apply now t, l.putTask (p.apply now t))

theorem createTask_eq_ok {l l' : Ledger} {t : Task} (h : l.createTask t = .ok l') :
    l.taskNames.contains (Key.taskName t.name) = false ∧
      l' = { l.putTask t with taskNames := l.taskNames.insert (Key.taskName t.name) t.id } := by
  unfold createTask at h
  split at h <;> cases h
  rename_i hnew
  exact ⟨Bool.eq_false_iff.2 hnew, rfl⟩

theorem updateTask_eq_ok {l l' : Ledger} {id : TaskId} {p : TaskPatch} {now : Instant} {t : Task}
    (h : l.updateTask id p now = .ok (t, l')) :
    ∃ old, l.task? id = some old ∧ t = p.apply now old ∧ l' = l.putTask t := by
  unfold updateTask at h
  split at h <;> cases h
  rename_i hold
  exact ⟨_, hold, rfl, rfl⟩

/-- Sets the mode of all listed tasks that have another one, and counts them as often as they are
listed. -/
def setModes (l : Ledger) (ids : List TaskId) (mode : TaskMode) (now : Instant) : Nat × Ledger :=
  let changed := (l.tasksOf ids).filter fun t => t.mode ≠ mode
  let patch : TaskPatch := { mode := some mode }
  (changed.length, changed.foldl (fun l t => l.putTask (patch.apply now t)) l)

def search (l : Ledger) (f : TaskFilter) (p : Paging) : Page Task :=
  Page.ofSorted (p.sort (l.tasks.values.filter f.accepts)) p

/-! ### Files -/

def file? (l : Ledger) (id : FileId) : Option File := l.files.get? (Key.file id)

def putFile (l : Ledger) (f : File) : Ledger :=
  { l with files := l.files.insert (Key.file f.id) f }

def filesOf (l : Ledger) (ids : List FileId) : List File := ids.filterMap l.file?

/-- The keys under which a file is found by its task; an uploaded file has none. -/
def indexKeys (f : File) : List String :=
  match f.createdByTask with
  | none => []
  | some task => f.metadata.sensors.map fun sensor => Key.fileOf task sensor f.name

/-- The file that a task has created for a sensor under a name. -/
def fileOf? (l : Ledger) (task : TaskId) (sensor : SensorId) (name : String) : Option File :=
  (l.fileIndex.get? (Key.fileOf task sensor name)).bind l.file?

/-- The index leads to the file that was created last. -/
def createFile (l : Ledger) (f : File) : Ledger :=
  { l.putFile f with
    fileIndex := (indexKeys f).foldl (fun index key => index.insert key f.id) l.fileIndex }

def updateFile (l : Ledger) (id : FileId) (p : FilePatch) (now : Instant) :
    Except LedgerError (File × Ledger) :=
  match l.file? id with
  | none => .error (.notFound .file id)
  | some f => .ok (p.apply now f, l.putFile (p.apply now f))

theorem updateFile_eq_ok {l l' : Ledger} {id : FileId} {p : FilePatch} {now : Instant} {f : File}
    (h : l.updateFile id p now = .ok (f, l')) :
    ∃ old, l.file? id = some old ∧ f = p.apply now old ∧ l' = l.putFile f := by
  unfold updateFile at h
  split at h <;> cases h
  rename_i hold
  exact ⟨_, hold, rfl, rfl⟩

/-- Exposes all listed files that are not exposed to the platform, and counts them as often as they
are listed. -/
def exposeFiles (l : Ledger) (ids : List FileId) (p : Platform) (now : Instant) : Nat × Ledger :=
  let changed := (l.filesOf ids).filter fun f => !f.visibility.isExposedTo p
  (changed.length,
    changed.foldl
      (fun l f => l.putFile { f with visibility := f.visibility.exposeTo p, updatedAt := now }) l)

/-- Removes a file and its index keys; tells whether it was there. -/
def deleteFile (l : Ledger) (id : FileId) : Bool × Ledger :=
  match l.file? id with
  | none => (false, l)
  | some f =>
    (true,
      { l with
        files := l.files.erase (Key.file id)
        fileIndex := (indexKeys f).foldl Table.erase l.fileIndex })

/-! ### Sensors -/

def sensor? (l : Ledger) (id : SensorId) : Option Sensor := l.sensors.get? (Key.sensor id)

def sensorsOf (l : Ledger) (ids : List SensorId) : List Sensor := ids.filterMap l.sensor?

/-- The key of the series that a sensor measures. -/
def sensorKey (s : Sensor) : String :=
  Key.sensorOf s.managedObjectId s.managedObjectName s.valueFragmentType

def sensorOf? (l : Ledger) (managedObjectId managedObjectName fragmentType : String) :
    Option Sensor :=
  (l.sensorIndex.get? (Key.sensorOf managedObjectId managedObjectName fragmentType)).bind l.sensor?

/-- Fails if there is a sensor for the same series. -/
def createSensor (l : Ledger) (s : Sensor) : Except LedgerError Ledger :=
  if l.sensorIndex.contains (sensorKey s) then
    .error (.duplicateKey .sensor
      ("/".intercalate [s.managedObjectId, s.managedObjectName, s.valueFragmentType]))
  else
    .ok { l with
      sensors := l.sensors.insert (Key.sensor s.id) s
      sensorIndex := l.sensorIndex.insert (sensorKey s) s.id }

theorem createSensor_eq_ok {l l' : Ledger} {s : Sensor} (h : l.createSensor s = .ok l') :
    l.sensorIndex.contains (sensorKey s) = false ∧
      l' = { l with
        sensors := l.sensors.insert (Key.sensor s.id) s
        sensorIndex := l.sensorIndex.insert (sensorKey s) s.id } := by
  unfold createSensor at h
  split at h <;> cases h
  rename_i hnew
  exact ⟨Bool.eq_false_iff.2 hnew, rfl⟩

/-! ### Groups -/

def group? (l : Ledger) (id : GroupId) : Option Group := l.groups.get? (Key.group id)

def putGroup (l : Ledger) (g : Group) : Ledger :=
  { l with groups := l.groups.insert (Key.group g.id) g }

def groupOf? (l : Ledger) (managedObjectId : String) : Option Group :=
  (l.groupIndex.get? (Key.groupOf managedObjectId)).bind l.group?

/-- Fails if there is a group for the same managed object. -/
def createGroup (l : Ledger) (g : Group) : Except LedgerError Ledger :=
  match g.managedObjectId with
  | none => .ok (l.putGroup g)
  | some object =>
    if l.groupIndex.contains (Key.groupOf object) then .error (.duplicateKey .group object)
    else
      .ok { l.putGroup g with groupIndex := l.groupIndex.insert (Key.groupOf object) g.id }

def addMembers (l : Ledger) (id : GroupId) (sensors : List SensorId) (groups : List GroupId) :
    Except LedgerError (Group × Ledger) :=
  match l.group? id with
  | none => .error (.notFound .group id)
  | some g => .ok (g.addMembers sensors groups, l.putGroup (g.addMembers sensors groups))

theorem createGroup_eq_ok {l l' : Ledger} {g : Group} (h : l.createGroup g = .ok l') :
    g.managedObjectId = none ∧ l' = l.putGroup g ∨
      ∃ object, g.managedObjectId = some object ∧
        l.groupIndex.contains (Key.groupOf object) = false ∧
        l' = { l.putGroup g with
          groupIndex := l.groupIndex.insert (Key.groupOf object) g.id } := by
  unfold createGroup at h
  split at h
  · rename_i hobject
    cases h
    exact Or.inl ⟨hobject, rfl⟩
  · split at h <;> cases h
    rename_i hobject hnew
    exact Or.inr ⟨_, hobject, Bool.eq_false_iff.2 hnew, rfl⟩

theorem addMembers_eq_ok {l l' : Ledger} {id : GroupId} {sensors : List SensorId}
    {groups : List GroupId} {g : Group} (h : l.addMembers id sensors groups = .ok (g, l')) :
    ∃ old, l.group? id = some old ∧ g = old.addMembers sensors groups ∧ l' = l.putGroup g := by
  unfold addMembers at h
  split at h <;> cases h
  rename_i hold
  exact ⟨_, hold, rfl, rfl⟩

end Ledger

end SensorTasks

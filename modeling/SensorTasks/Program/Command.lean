import SensorTasks.Program.World

/-!
The commands that programs consist of. Each is one atomic step: nothing else happens to the world
while it is carried out.
-/

namespace SensorTasks

open Ledger

inductive Command where
  | now
  /-- Reserves the numbers of some new ids. -/
  | reserve (count : Nat)
  | count (counter : Counter)
  | stats
  | metrics
  | busHealth
  | publish (exchange : String) (key : RoutingKey) (payload : Payload)
  | createTask (t : Task)
  | findTask (id : TaskId)
  | findTaskNamed (name : String)
  | findTasks (ids : List TaskId)
  | updateTask (id : TaskId) (patch : TaskPatch)
  | setModes (ids : List TaskId) (mode : TaskMode)
  | searchTasks (filter : TaskFilter) (paging : Paging)
  | createFile (new : NewFile)
  | findFile (id : FileId)
  | findFiles (ids : List FileId)
  | findFileOf (task : TaskId) (sensor : SensorId) (name : String)
  | updateFile (id : FileId) (patch : FilePatch)
  | exposeFiles (ids : List FileId) (platform : Platform)
  | deleteFile (id : FileId)
  | createSensor (s : Sensor)
  | findSensor (id : SensorId)
  | findSensors (ids : List SensorId)
  | findSensorOf (managedObjectId managedObjectName fragmentType : String)
  | createGroup (g : Group)
  | findGroup (id : GroupId)
  | findGroupOf (managedObjectId : String)
  | addMembers (id : GroupId) (sensors : List SensorId) (groups : List GroupId)

namespace Command

/-- What a command answers. -/
abbrev Answer : Command → Type
  | now => Instant
  | reserve _ => Nat
  | count _ => Unit
  | stats => Stats
  | metrics => Metrics
  | busHealth => Bool
  | publish .. => Unit
  | createTask _ => Except LedgerError Unit
  | findTask _ => Option Task
  | findTaskNamed _ => Option Task
  | findTasks _ => List Task
  | updateTask .. => Except LedgerError Task
  | setModes .. => Nat
  | searchTasks .. => Page Task
  | createFile _ => File
  | findFile _ => Option File
  | findFiles _ => List File
  | findFileOf .. => Option File
  | updateFile .. => Except LedgerError File
  | exposeFiles .. => Nat
  | deleteFile _ => Bool
  | createSensor _ => Except LedgerError Unit
  | findSensor _ => Option Sensor
  | findSensors _ => List Sensor
  | findSensorOf .. => Option Sensor
  | createGroup _ => Except LedgerError Unit
  | findGroup _ => Option Group
  | findGroupOf _ => Option Group
  | addMembers .. => Except LedgerError Group

end Command

namespace World

/-- The world with the outcome of a change of the ledger that may fail. -/
def commit {α : Type} (w : World) : Except LedgerError (α × Ledger) → Except LedgerError α × World
  | .ok (a, l) => (.ok a, { w with ledger := l })
  | .error e => (.error e, w)

def commitUnit (w : World) : Except LedgerError Ledger → Except LedgerError Unit × World
  | .ok l => (.ok (), { w with ledger := l })
  | .error e => (.error e, w)

/-- What holds without a change of the ledger and with one that succeeds holds in any case. -/
theorem commit_induction {motive : World → Prop} {α : Type} {w : World}
    {r : Except LedgerError (α × Ledger)} (same : motive w)
    (changed : ∀ a l, r = .ok (a, l) → motive { w with ledger := l }) : motive (w.commit r).2 := by
  cases r with
  | ok p => exact changed p.1 p.2 rfl
  | error e => exact same

theorem commitUnit_induction {motive : World → Prop} {w : World} {r : Except LedgerError Ledger}
    (same : motive w) (changed : ∀ l, r = .ok l → motive { w with ledger := l }) :
    motive (w.commitUnit r).2 := by
  cases r with
  | ok l => exact changed l rfl
  | error e => exact same

/-- The message that is delivered for what is published now. -/
def stamp (w : World) (exchange : String) (key : RoutingKey) (payload : Payload) : Delivery where
  payload := payload
  id := FreshId.text w.nextNumber
  exchange := exchange
  key := key
  timestamp := w.clock

end World

/-- The effect of a command. -/
def Command.run : (c : Command) → World → c.Answer × World
  | .now, w => (w.clock, w)
  | .reserve n, w => (w.nextNumber, { w with nextNumber := w.nextNumber + n })
  | .count c, w => ((), { w with metrics := w.metrics.count c })
  | .stats, w => (w.ledger.stats, w)
  | .metrics, w => (w.metrics, w)
  | .busHealth, w => (w.bus.isHealthy, w)
  | .publish exchange key payload, w =>
    ((), { w with
      bus := w.bus.publish (w.stamp exchange key payload)
      nextNumber := w.nextNumber + 1 })
  | .createTask t, w => w.commitUnit (w.ledger.createTask t)
  | .findTask id, w => (w.ledger.task? id, w)
  | .findTaskNamed name, w => (w.ledger.taskNamed? name, w)
  | .findTasks ids, w => (w.ledger.tasksOf ids, w)
  | .updateTask id p, w => w.commit (w.ledger.updateTask id p w.clock)
  | .setModes ids mode, w =>
    let (n, l) := w.ledger.setModes ids mode w.clock
    (n, { w with ledger := l })
  | .searchTasks f p, w => (w.ledger.search f p, w)
  | .createFile new, w =>
    let f := File.ofNew new (FreshId.text w.nextNumber) w.clock
    (f, { w with ledger := w.ledger.createFile f, nextNumber := w.nextNumber + 1 })
  | .findFile id, w => (w.ledger.file? id, w)
  | .findFiles ids, w => (w.ledger.filesOf ids, w)
  | .findFileOf task sensor name, w => (w.ledger.fileOf? task sensor name, w)
  | .updateFile id p, w => w.commit (w.ledger.updateFile id p w.clock)
  | .exposeFiles ids p, w =>
    let (n, l) := w.ledger.exposeFiles ids p w.clock
    (n, { w with ledger := l })
  | .deleteFile id, w =>
    let (found, l) := w.ledger.deleteFile id
    (found, { w with ledger := l })
  | .createSensor s, w => w.commitUnit (w.ledger.createSensor s)
  | .findSensor id, w => (w.ledger.sensor? id, w)
  | .findSensors ids, w => (w.ledger.sensorsOf ids, w)
  | .findSensorOf a b c, w => (w.ledger.sensorOf? a b c, w)
  | .createGroup g, w => w.commitUnit (w.ledger.createGroup g)
  | .findGroup id, w => (w.ledger.group? id, w)
  | .findGroupOf object, w => (w.ledger.groupOf? object, w)
  | .addMembers id sensors groups, w => w.commit (w.ledger.addMembers id sensors groups)

namespace Command

variable {w : World}

/-- A task that is there is changed. -/
theorem run_updateTask {id : TaskId} {t : Task} (h : w.ledger.task? id = some t) (p : TaskPatch) :
    (updateTask id p).run w =
      (.ok (p.apply w.clock t), { w with ledger := w.ledger.putTask (p.apply w.clock t) }) := by
  simp only [run, Ledger.updateTask, h, World.commit]

/-- A file that is there is changed. -/
theorem run_updateFile {id : FileId} {f : File} (h : w.ledger.file? id = some f) (p : FilePatch) :
    (updateFile id p).run w =
      (.ok (p.apply w.clock f), { w with ledger := w.ledger.putFile (p.apply w.clock f) }) := by
  simp only [run, Ledger.updateFile, h, World.commit]

end Command

end SensorTasks

import SensorTasks.Document.Sensor

/-!
The keys of the tables. A document stands under its id, and an index entry under the names that
lead to it, with a separator between several of them.
-/

namespace SensorTasks.Ledger.Key

/-- The unit separator, which stands between the names of an index key. -/
def separator : String := String.singleton (Char.ofNat 0x1F)

def joined (names : List String) : String := separator.intercalate names

def task (id : TaskId) : String := "task:" ++ id

def taskName (name : String) : String := "task_name:" ++ name

def file (id : FileId) : String := "file:" ++ id

/-- For a file that a task created: one key for each of its sensors. -/
def fileOf (task : TaskId) (sensor : SensorId) (name : String) : String :=
  "file_task:" ++ joined [task, sensor, name]

def sensor (id : SensorId) : String := "sensor:" ++ id

def sensorOf (managedObjectId managedObjectName fragmentType : String) : String :=
  "sensor_mo:" ++ joined [managedObjectId, managedObjectName, fragmentType]

def group (id : GroupId) : String := "group:" ++ id

def groupOf (managedObjectId : String) : String := "group_mo:" ++ managedObjectId

end SensorTasks.Ledger.Key

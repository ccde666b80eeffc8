import SensorTasks.Message.Outbox
import SensorTasks.Schedule.Pattern

/-!
Why a task is not created, scheduled or found. Some of it is the fault of the request, which is told
apart from what went wrong inside.
-/

namespace SensorTasks

open Ledger Message

/-- What a task is created from or looked up by. -/
inductive RequestFault where
  | datesReversed
  | blankFileName (entity : String)
  /-- A fetch for a group names that group and nothing else. -/
  | notOneGroup (count : Nat)
  | noSensors
  | noFiles
  | blankPlatform
  | noTasks
  | other (reason : String)
  deriving DecidableEq

def RequestFault.message : RequestFault → String
  | .datesReversed => "dateTo must not precede dateFrom"
  | .blankFileName entity => "fileName must not be empty (entity " ++ entity ++ ")"
  | .notOneGroup count => "GROUP requests take exactly one entity, got " ++ toString count
  | .noSensors => "SENSOR requests need at least one entity"
  | .noFiles => "DATA_UPLOAD requests need at least one file"
  | .blankPlatform => "platform.platformIdentifier must not be empty"
  | .noTasks => "taskIds must not be empty"
  | .other reason => reason

/-- Why a file cannot be uploaded. -/
inductive FileFault where
  | noSensor
  | unknownSensor (id : SensorId)
  | unnamedFragment (sensor : SensorId)
  | noDates
  | other (reason : String)
  deriving DecidableEq

def FileFault.message : FileFault → String
  | .noSensor => "it references no sensor"
  | .unknownSensor id => "sensor " ++ id ++ " does not exist"
  | .unnamedFragment sensor => "sensor " ++ sensor ++ " has no valueFragmentDisplayName"
  | .noDates => "it has no dateFrom/dateTo range"
  | .other reason => reason

inductive ScheduleFault where
  | emptyWindow
  | pattern (e : PatternError)
  | other (reason : String)
  deriving DecidableEq

def ScheduleFault.message : ScheduleFault → String
  | .emptyWindow => "windowDurationSeconds must be greater than zero"
  | .pattern e => e.message
  | .other reason => reason

/-- Why a task has no scheduled message. -/
inductive MappingError where
  | missingDateFrom (task : TaskId)
  | ledger (e : LedgerError)
  deriving DecidableEq

def MappingError.message : MappingError → String
  | .missingDateFrom task => "task " ++ task ++ " has no dateFrom in its DataFetch payload"
  | .ledger e => e.message

inductive TaskError where
  | duplicateName (name : String)
  | notFound (collection : Collection) (id : String)
  | invalidRequest (fault : RequestFault)
  | unusableFile (file : FileId) (fault : FileFault)
  | invalidSchedule (fault : ScheduleFault)
  | mapping (e : MappingError)
  | ledger (e : LedgerError)
  | messaging (e : MessagingError)
  deriving DecidableEq

namespace TaskError

def message : TaskError → String
  | duplicateName name => "a task named '" ++ name ++ "' already exists"
  | notFound collection id => collection.name ++ " not found: " ++ id
  | invalidRequest fault => "invalid request: " ++ fault.message
  | unusableFile file fault => "file " ++ file ++ " cannot be uploaded: " ++ fault.message
  | invalidSchedule fault => "invalid periodic schedule: " ++ fault.message
  | mapping e => "mapping failed: " ++ e.message
  | ledger e => "storage error: " ++ e.message
  | messaging e => "messaging error: " ++ e.message

/-- The request is to blame. -/
def isDomain : TaskError → Bool
  | duplicateName _ | notFound .. | invalidRequest _ | unusableFile .. | invalidSchedule _ => true
  | mapping _ | ledger _ | messaging _ => false

end TaskError

/-! ### Schedules -/

/-- What a recurrence means: its pattern, and a window that is not empty. -/
def Recurrence.schedule (r : Recurrence) : Except ScheduleFault SchedulePattern :=
  if r.windowSeconds = some 0 then .error .emptyWindow
  else
    match SchedulePattern.parse r.pattern with
    | .ok p => .ok p
    | .error e => .error (.pattern e)

end SensorTasks

import SensorTasks.Document.File

/-!
Tasks: what is to be done, when, and how far it is. There are three kinds of work: fetching sensor
data into files, uploading files to a platform, and taking over the managed objects of a platform.
-/

namespace SensorTasks

inductive TaskType where
  | dataFetch
  | dataUpload
  | objectSync
  deriving DecidableEq

inductive TaskStatus where
  | notStarted
  | inQueue
  | waitingNextCycle
  | processing
  | done
  | failed
  | disabled
  deriving DecidableEq

inductive TaskMode where
  | enabled
  | disabled
  deriving DecidableEq

/-- When a task runs again: a cron pattern or an interval, as it was written. -/
structure Recurrence where
  pattern : String
  windowSeconds : Option Nat
  deriving DecidableEq

structure TaskMetadata where
  firstRunAt : Instant
  recurrence : Option Recurrence
  lastRanAt : Option Instant
  lastCompletedAt : Option Instant
  lastFailedAt : Option Instant
  lastFailReason : Option String
  nextRunAt : Option Instant
  deriving DecidableEq

/-- An entry of a fetch: the sensor whose data is fetched, and the file that came of it. The
`dataId` names the entry in the reports about it. -/
structure FetchEntry where
  sensor : SensorId
  dataId : String
  fileId : Option FileId
  fileName : Option String
  bucket : Option String
  filePath : Option String
  fileUrl : Option String
  deriving DecidableEq

structure FetchWork where
  data : List FetchEntry
  /-- Every task is created with one; a document without it can still be read. -/
  dateFrom : Option Instant
  dateTo : Option Instant
  group : Option GroupId
  deriving DecidableEq

structure UploadMetadata where
  dateFrom : Instant
  dateTo : Instant
  managedObjectId : String
  managedObjectName : Option String
  valueFragmentType : String
  valueFragmentDescription : String
  sensorDescription : Option String
  fileDescription : Option String
  deriving DecidableEq

structure UploadFile where
  fileId : FileId
  fileName : String
  storage : Storage
  metadata : UploadMetadata
  attributes : Attributes

structure UploadWork where
  files : List UploadFile
  platform : Platform

inductive Work where
  | fetch (w : FetchWork)
  | upload (w : UploadWork)
  | sync

def Work.type : Work → TaskType
  | .fetch _ => .dataFetch
  | .upload _ => .dataUpload
  | .sync => .objectSync

structure Task where
  id : TaskId
  name : String
  status : TaskStatus
  mode : TaskMode
  initiatedByUser : UserId
  metadata : TaskMetadata
  work : Work
  attributes : Attributes
  createdAt : Instant
  updatedAt : Instant

/-! ### Names -/

namespace TaskType

def all : List TaskType := [.dataFetch, .dataUpload, .objectSync]

def name : TaskType → String
  | .dataFetch => "DATA_FETCH"
  | .dataUpload => "DATA_UPLOAD"
  | .objectSync => "OBJECT_SYNC"

end TaskType

namespace TaskStatus

def all : List TaskStatus :=
  [.notStarted, .inQueue, .waitingNextCycle, .processing, .done, .failed, .disabled]

def name : TaskStatus → String
  | .notStarted => "NOT_STARTED"
  | .inQueue => "IN_QUEUE"
  | .waitingNextCycle => "WAITING_NEXT_CYCLE"
  | .processing => "PROCESSING"
  | .done => "DONE"
  | .failed => "FAILED"
  | .disabled => "DISABLED"

def isTerminal : TaskStatus → Bool
  | .done | .failed | .disabled => true
  | _ => false

end TaskStatus

namespace TaskMode

def all : List TaskMode := [.enabled, .disabled]

def name : TaskMode → String
  | .enabled => "ENABLED"
  | .disabled => "DISABLED"

end TaskMode

/-! ### Tasks -/

namespace TaskMetadata

/-- The metadata of a task that has not run yet. -/
def new (firstRunAt : Instant) (recurrence : Option Recurrence) : TaskMetadata :=
  ⟨firstRunAt, recurrence, none, none, none, none, none⟩

end TaskMetadata

namespace Task

def type (t : Task) : TaskType := t.work.type

def fetch? (t : Task) : Option FetchWork :=
  match t.work with
  | .fetch w => some w
  | _ => none

def upload? (t : Task) : Option UploadWork :=
  match t.work with
  | .upload w => some w
  | _ => none

/-- A task that has not started yet. -/
def new (id : TaskId) (now : Instant) (name : String) (user : UserId) (metadata : TaskMetadata)
    (work : Work) (attributes : Attributes) : Task where
  id := id
  name := name
  status := .notStarted
  mode := .enabled
  initiatedByUser := user
  metadata := metadata
  work := work
  attributes := attributes
  createdAt := now
  updatedAt := now

end Task

/-- What is to be changed of a task; nothing leaves a field as it is. -/
structure TaskPatch where
  status : Option TaskStatus := none
  mode : Option TaskMode := none
  lastRanAt : Option Instant := none
  lastCompletedAt : Option Instant := none
  lastFailedAt : Option Instant := none
  lastFailReason : Option String := none
  nextRunAt : Option Instant := none
  /-- New entries of a fetch; other work has none. -/
  fetchEntries : Option (List FetchEntry) := none

def Work.withEntries (entries : Option (List FetchEntry)) : Work → Work
  | .fetch w => .fetch { w with data := entries.getD w.data }
  | w => w

def TaskPatch.apply (p : TaskPatch) (now : Instant) (t : Task) : Task :=
  { t with
    status := p.status.getD t.status
    mode := p.mode.getD t.mode
    metadata :=
      { t.metadata with
        lastRanAt := p.lastRanAt.or t.metadata.lastRanAt
        lastCompletedAt := p.lastCompletedAt.or t.metadata.lastCompletedAt
        lastFailedAt := p.lastFailedAt.or t.metadata.lastFailedAt
        lastFailReason := p.lastFailReason.or t.metadata.lastFailReason
        nextRunAt := p.nextRunAt.or t.metadata.nextRunAt }
    work := t.work.withEntries p.fetchEntries
    updatedAt := now }

end SensorTasks

import SensorTasks.Inbox.Synchronization
import SensorTasks.Task.Merge

/-!
Applying the reports about tasks. What a report carries is taken into account by the kind of the
task and the reported status; a report that fits nothing known is dropped, so that it can come again
without harm.
-/

namespace SensorTasks.Inbox.Report

open Json Ledger Message

/-! ### The results of a fetch -/

/-- The file that a result of a task stands for. -/
def newFile (t : Task) (s : Sensor) (r : FetchResult) : NewFile where
  name := r.fileName
  storage := ⟨r.bucket, r.filePath⟩
  metadata :=
    { sensors := [s.id]
      dateFrom := r.dateFrom.or (t.fetch?.bind (·.dateFrom))
      dateTo := r.dateTo.or (t.fetch?.bind (·.dateTo))
      managedObjectId := s.managedObjectId
      managedObjectName := s.managedObjectName
      valueFragments := [⟨s.valueFragmentType, s.valueFragmentDisplayName⟩] }
  createdByTask := t.id
  description := none
  url := r.fileUrl
  attributes := s.attributes

/-- The file that the task has created for the result before, or a new one. -/
def fileFor (t : Task) (s : Sensor) (r : FetchResult) : Action HandlerError File := do
  let known ← Action.perform (.findFileOf t.id s.id r.fileName)
  match known with
  | some f => return f
  | none => Action.perform (.createFile (newFile t s r))

def resolved (r : FetchResult) (file : Option FileId) : ResolvedResult :=
  ⟨r.sensorId, r.dataId, file, r.fileName, r.bucket, r.filePath, r.fileUrl⟩

/-- A result with its file; there is none for an unknown sensor. -/
def resolve (t : Task) (r : FetchResult) : Action HandlerError ResolvedResult := do
  let sensor ← Action.perform (.findSensor r.sensorId)
  match sensor with
  | none => return resolved r none
  | some s =>
    let f ← fileFor t s r
    return resolved r (some f.id)

def resolveAll (t : Task) : List FetchResult → Action HandlerError (List ResolvedResult)
  | [] => return []
  | r :: rs => do
    let a ← resolve t r
    return a :: (← resolveAll t rs)

/-- The entries of a task with the results merged in, or nothing if that changes nothing. -/
def reconcile (t : Task) (results : List FetchResult) :
    Action HandlerError (Option (List FetchEntry)) := do
  let rs ← resolveAll t results
  let first ← Action.perform (.reserve rs.length)
  let known := match t.fetch? with
    | some w => w.data
    | none => []
  let m := mergeResults known (fun i => FreshId.text (first + i)) rs
  return if m.changed then some m.entries else none

/-! ### Status -/

/-- What every report changes. -/
def basePatch (m : StatusReport Json) (now : Instant) : TaskPatch where
  status := some m.status
  mode := m.mode
  lastRanAt := if m.status = .processing then some now else none
  lastCompletedAt := m.lastCompletedAt
  nextRunAt := m.nextRunAt

/-- What a report brings besides the status. -/
inductive Content where
  | results (j : Json)
  | uploaded
  | objects (j : Json)
  | objectAmount (j : Json)
  | nothing
  | unknown

def content (m : StatusReport Json) : Content :=
  match m.taskType, m.status, m.payload with
  | .dataFetch, .done, some j => .results j
  | .dataUpload, .done, _ => .uploaded
  | .objectSync, .processing, some j => if (j.get? "objects").isSome then .objects j else .unknown
  | .objectSync, .done, some j =>
    if (j.get? "objectAmount").isSome then .objectAmount j else .unknown
  | _, _, none => .nothing
  | _, _, some _ => .unknown

/-- Exposes the files of an upload to its platform. -/
def exposeUploaded (t : Task) : Action HandlerError Unit :=
  match t.upload? with
  | none => return ()
  | some w => do
    let _ ← Action.perform (.exposeFiles (w.files.map (·.fileId)) w.platform)
    return ()

/-- Takes the content of a report into account; nothing for one that is dropped. -/
def applyContent (t : Task) (p : TaskPatch) : Content → Action HandlerError (Option TaskPatch)
  | .results j => do
    let results ← decode FetchResult.listDecoder .taskStatus j
    if results.isEmpty then return some p
    else
      let entries ← reconcile t results
      return some { p with fetchEntries := entries }
  | .uploaded => do
    exposeUploaded t
    return some p
  | .objects j => do
    let objects ← decode ManagedObject.listDecoder .taskStatus j
    let _ ← Synchronization.sync objects
    return some p
  | .objectAmount j => do
    let _ ← decode objectAmountDecoder .taskStatus j
    return some p
  | .nothing => return some p
  | .unknown => return none

/-- Applies a report to its task; nothing if the report is dropped. -/
def status (m : StatusReport Json) : Action HandlerError (Option Task) := do
  let found ← Action.perform (.findTask m.taskId)
  match found with
  | none => return none
  | some t =>
    if t.type ≠ m.taskType then return none
    else
      let now ← Action.perform .now
      let patch ← applyContent t (basePatch m now) (content m)
      match patch with
      | none => return none
      | some p => some <$> (Action.updateTask t.id p).mapError .ledger

/-! ### Failures and modes -/

def failurePatch (f : Failure) (now : Instant) : TaskPatch where
  status := some .failed
  lastFailedAt := some (f.failedAt.getD now)
  lastFailReason := some f.reason

/-- Nothing in place of a document that is not there. -/
def unlessMissing {α : Type} (a : Action LedgerError α) : Action HandlerError (Option α) := do
  let outcome ← ExceptT.lift a.run
  match outcome with
  | .ok a => return some a
  | .error (.notFound ..) => return none
  | .error e => throw (.ledger e)

/-- Notes that a task has failed. -/
def failure (f : Failure) : Action HandlerError (Option Task) := do
  let now ← Action.perform .now
  unlessMissing (Action.updateTask f.taskId (failurePatch f now))

/-- Notes that tasks have another mode, and counts those that had not. -/
def modeChanged (m : ModeChange) : Action HandlerError Nat :=
  Action.perform (.setModes m.taskIds m.mode)

/-! ### Visibility -/

/-- What the outcome of a change of visibility changes: an error nothing but the marks. -/
def visibilityPatch? (m : VisibilityResult) : Option FilePatch :=
  match m.error, m.visibility with
  | some error, _ => some { stateChanging := some false, errorMessage := some (some error) }
  | none, some v =>
    some
      { published := some v.published
        exposedTo := v.exposedTo
        storage := m.storage
        stateChanging := some false
        errorMessage := some none }
  | none, none => none

def visibility (m : VisibilityResult) : Action HandlerError (Option File) :=
  match visibilityPatch? m with
  | none => return none
  | some p => unlessMissing (Action.updateFile m.fileId p)

end SensorTasks.Inbox.Report

import SensorTasks.Inbox.Report

/-!
From a payload to the handler of its key. A payload is read, checked against the schema of its key
and only then handled.
-/

namespace SensorTasks.Inbox

open Message

inductive Handler where
  | tasks
  | files
  deriving DecidableEq

namespace Handler

/-- The handler of the messages on a key, if there is one. -/
def ofKey? : RoutingKey → Option Handler
  | .taskStatus | .taskStatusFailed | .taskStatusDataFetchResult | .taskStatusObjectSync
  | .taskStatusObjectSyncResult | .taskModeChanged => some tasks
  | .fileResultVisibilityState => some files
  | _ => none

/-- The keys that have a handler, in the order of the keys. -/
def keys : List RoutingKey := RoutingKey.all.filter fun key => (ofKey? key).isSome

/-- What is said of a key without a handler. -/
def missing (key : RoutingKey) : String := "handler not found: " ++ key.name

/-- Applies the message on a key. -/
def handle : Handler → RoutingKey → Json → Action HandlerError Unit
  | tasks, .taskStatusFailed, j => do
    let m ← decode Failure.decoder .taskStatusFailed j
    let _ ← Report.failure m
    return ()
  | tasks, .taskModeChanged, j => do
    let m ← decode ModeChange.decoder .taskModeChanged j
    let _ ← Report.modeChanged m
    return ()
  | files, .fileResultVisibilityState, j => do
    let m ← decode VisibilityResult.decoder .fileResultVisibilityState j
    let _ ← Report.visibility m
    return ()
  | files, key, _ => throw (.unsupportedKey key)
  | tasks, key, j =>
    match key with
    | .taskStatus | .taskStatusDataFetchResult | .taskStatusObjectSync
    | .taskStatusObjectSyncResult => do
      let m ← decode (StatusReport.decoder .json) key j
      let _ ← Report.status m
      return ()
    | _ => throw (.unsupportedKey key)

end Handler

/-- Reads, checks and applies a payload. -/
def process (r : Registry) (key : RoutingKey) (payload : Payload) : Action ConsumeError Unit :=
  match Handler.ofKey? key with
  | none => throw (.noHandler key)
  | some handler =>
    match payload.read? with
    | none => throw .notJson
    | some j =>
      match r.validate key j with
      | .error e => throw (.schema e)
      | .ok () => (handler.handle key j).mapError .handler

end SensorTasks.Inbox

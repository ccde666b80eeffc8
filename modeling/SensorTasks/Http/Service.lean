import SensorTasks.Http.Request
import SensorTasks.Http.Query

/-!
The service: which paths there are, which methods they take, and what is done for each of them. A
path that there is not is not found, and a method that a path does not take is not allowed.
-/

namespace SensorTasks.Http

open Json Message

structure Service where
  outbox : Outbox
  maxBodyBytes : Nat

/-! ### Paths -/

/-- The resources; ids stand as they are in the path. -/
inductive Route where
  | tasks
  | taskModes
  | task (id : List Char)
  | deletedFiles
  | fileVisibility (id : List Char)
  | users
  | health
  deriving DecidableEq

def Route.ofSegments? : List String → Option Route
  | ["", "tasks"] => some .tasks
  | ["", "tasks", "mode"] => some .taskModes
  | ["", "tasks", id] => if id.isEmpty then none else some (.task id.toList)
  | ["", "files", "delete"] => some .deletedFiles
  | ["", "files", id, "visibility"] =>
    if id.isEmpty then none else some (.fileVisibility id.toList)
  | ["", "users"] => some .users
  | ["", "health"] => some .health
  | _ => none

def Route.ofPath? (path : List Char) : Option Route :=
  ofSegments? ((Text.fields (· == '/') path).map String.ofList)

inductive Endpoint where
  | createTask
  | searchTasks
  | setMode
  | getTask (id : List Char)
  | deleteFiles
  | changeVisibility (id : List Char)
  | announceUser
  | health

/-- What a method does with a resource. -/
def Route.endpoint? : Route → String → Option Endpoint
  | .tasks, "POST" => some .createTask
  | .tasks, "GET" => some .searchTasks
  | .taskModes, "POST" => some .setMode
  | .task id, "GET" => some (.getTask id)
  | .deletedFiles, "POST" => some .deleteFiles
  | .fileVisibility id, "POST" => some (.changeVisibility id)
  | .users, "POST" => some .announceUser
  | .health, "GET" => some .health
  | _, _ => none

/-! ### Bodies -/

structure VisibilityBody where
  published : Bool
  exposedTo : Option (List Platform)

def modeBody : Decoder ModeChange := ModeChange.fields.decode "struct TaskModeRequest"

def visibilityBody : Decoder VisibilityBody :=
  (VisibilityBody.mk <$> Fields.required "published" .boolean
    <*> .optional "exposedToPlatforms" (.list Platform.decoder)).decode "struct VisibilityRequest"

def deletionBody : Decoder (List FileId) :=
  (Fields.required "fileIds" (.list .string)).decode "struct DeleteFilesRequest"

/-! ### Endpoints -/

namespace Service

def version : String := "0.1.0"

def createTask (s : Service) (r : Request) : Action ApiError Response := do
  let user ← Action.orFail .missingUser r.userId?
  let request ← Action.ofExcept (r.decodeBody s.maxBodyBytes TaskRequest.decoder)
  let t ← (Scheduling.createAndSchedule s.outbox user request).mapError .ofTaskError
  return .json 201 t.toJson

def searchTasks (r : Request) : Action ApiError Response := do
  let q ← Action.orFail (.invalidPayload Request.badQuery) (searchOf? (Text.formPairs r.query))
  let page ← Action.perform (.searchTasks q.filter q.paging)
  return .json 200 (page.toJson Task.toJson)

def setMode (s : Service) (r : Request) : Action ApiError Response := do
  let m ← Action.ofExcept (r.decodeBody s.maxBodyBytes modeBody)
  (Scheduling.requestMode s.outbox m.taskIds m.mode).mapError .ofTaskError
  return .empty 202

def getTask (id : TaskId) : Action ApiError Response := do
  let t ← (Scheduling.find id).mapError .ofTaskError
  return .json 200 t.toJson

def deleteFiles (s : Service) (r : Request) : Action ApiError Response := do
  let ids ← Action.ofExcept (r.decodeBody s.maxBodyBytes deletionBody)
  let n ← (Deletion.deleteFiles s.outbox ids).mapError .ofFileError
  return .json 200 (.ofMembers [("deleted", .ofNat n)])

def changeVisibility (s : Service) (id : FileId) (r : Request) : Action ApiError Response := do
  let b ← Action.ofExcept (r.decodeBody s.maxBodyBytes visibilityBody)
  let f ← (Visibility.requestChange s.outbox id b.published b.exposedTo).mapError .ofFileError
  return .json 202 f.toJson

def announceUser (s : Service) (r : Request) : Action ApiError Response := do
  let u ← Action.ofExcept (r.decodeBody s.maxBodyBytes User.decoder)
  (u.announce s.outbox).mapError .ofMessagingError
  return .empty 202

def health : Action ApiError Response := do
  let stats ← Action.perform .stats
  let bus ← Action.perform .busHealth
  let metrics ← Action.perform .metrics
  return .json (if bus then 200 else 503)
    (.ofMembers [("status", .string (if bus then "ok" else "degraded")), ("bus", .bool bus),
      ("store", stats.toJson), ("metrics", metrics.toJson), ("version", .string version)])

/-- What is said of an id that is not text. -/
def badId : Response := ⟨400, some (.text "Invalid URL: Invalid UTF-8 in \x60id\x60")⟩

/-- Does something with the id in a path. -/
def withId (id : List Char) (f : String → Action ApiError Response) : Action ApiError Response :=
  match Text.percentDecode? id with
  | some id => f id
  | none => return badId

def perform (s : Service) (r : Request) : Endpoint → Action ApiError Response
  | .createTask => s.createTask r
  | .searchTasks => searchTasks r
  | .setMode => s.setMode r
  | .getTask id => withId id getTask
  | .deleteFiles => s.deleteFiles r
  | .changeVisibility id => withId id fun id => s.changeVisibility id r
  | .announceUser => s.announceUser r
  | .health => health

/-- The response of an action, which for an error tells the error. -/
def answer (a : Action ApiError Response) : Program Response := do
  match ← a.run with
  | .ok response => return response
  | .error e => return .ofError e

/-- Responds to a request; `HEAD` asks for everything but the body. -/
def respond (s : Service) (r : Request) : Program Response :=
  match Route.ofPath? r.path with
  | none => return .empty 404
  | some route =>
    match route.endpoint? (if r.method = "HEAD" then "GET" else r.method) with
    | none => return .empty 405
    | some endpoint => do
      let response ← answer (s.perform r endpoint)
      return (if r.method = "HEAD" then .empty response.status else response)

end Service

end SensorTasks.Http

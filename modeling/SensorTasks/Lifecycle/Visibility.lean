import SensorTasks.Message.Outbox

/-!
Requests about files and users to the services outside. While a change of visibility is on its way
the file is marked, and no second one is asked for; if the first cannot even be sent, the mark is
taken away again.
-/

namespace SensorTasks

open Ledger Message

inductive FileError where
  | notFound (id : FileId)
  | stateChanging (id : FileId)
  | emptyRequest
  | ledger (e : LedgerError)
  | messaging (e : MessagingError)
  deriving DecidableEq

def FileError.message : FileError → String
  | .notFound id => "file not found: " ++ id
  | .stateChanging id => "visibility change already in progress for file " ++ id
  | .emptyRequest => "fileIds must not be empty"
  | .ledger e => "storage error: " ++ e.message
  | .messaging e => "messaging error: " ++ e.message

namespace Visibility

def find (id : FileId) : Action FileError File := do
  let found ← Action.perform (.findFile id)
  Action.orFail (.notFound id) found

/-- Marks a file as changing and forgets an earlier error. -/
def beginChange : FilePatch := { stateChanging := some true, errorMessage := some none }

/-- Takes the mark away. -/
def endChange : FilePatch := { stateChanging := some false }

/-- The request for a file; the platforms stay as they are if none are given. -/
def request (f : File) (published : Bool) (platforms : Option (List Platform)) :
    VisibilityRequest :=
  ⟨f.id, published, platforms.getD f.visibility.exposedTo, f.storage⟩

/-- What happens after a failed send: the mark goes, and the call ends with the error of the send.
The error that the file had before is not brought back. -/
def release (id : FileId) (e : MessagingError) : Action FileError File := do
  let _ ← (Action.updateFile id endChange).mapError .ledger
  throw (.messaging e)

def requestChange (o : Outbox) (id : FileId) (published : Bool)
    (platforms : Option (List Platform)) : Action FileError File := do
  let f ← find id
  if f.visibility.stateChanging then throw (.stateChanging id)
  else
    let f ← (Action.updateFile id beginChange).mapError .ledger
    let sent ← ExceptT.lift
      (o.send .fileStatusVisibilityState (request f published platforms).toJson).run
    match sent with
    | .error e => release id e
    | .ok () => return f

end Visibility

namespace Deletion

/-- Removes the documents of the files one after the other and counts those that were there. -/
def removeAll {ε : Type} : List File → Action ε Nat
  | [] => return 0
  | f :: fs => do
    let found ← Action.perform (.deleteFile f.id)
    let n ← removeAll fs
    return (if found then n + 1 else n)

/-- Announces the deletion of the files that exist, and removes them. -/
def deleteFiles (o : Outbox) (ids : List FileId) : Action FileError Nat :=
  if ids.isEmpty then throw .emptyRequest
  else do
    let files ← Action.perform (.findFiles ids)
    if files.isEmpty then return 0
    else
      let m : FileDeletion := ⟨files.map FileLocation.of⟩
      (o.send .fileStatusDeletion m.toJson).mapError .messaging
      removeAll files

end Deletion

/-- Tells the other services of a user. -/
def User.announce (o : Outbox) (u : User) : Action MessagingError Unit :=
  o.send .userUser u.toJson

end SensorTasks

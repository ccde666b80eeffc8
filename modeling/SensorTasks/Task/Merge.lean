import SensorTasks.Task.Basic

/-!
Merging the results of a fetch into the entries of its task. A result belongs to the entry that has
its `dataId`, or else to the one that has its file; it is written over that entry. A result that
belongs to none becomes a new entry if it has a file, and is passed over otherwise. What is known
of an entry is never lost: its file and its URL stay unless the result brings others.
-/

namespace SensorTasks

/-- A result of a fetch whose file, if its sensor is known, has been found or created. -/
structure ResolvedResult where
  sensor : SensorId
  dataId : Option String
  fileId : Option FileId
  fileName : String
  bucket : String
  filePath : String
  fileUrl : Option String
  deriving DecidableEq

/-- What a merge does with one result. -/
inductive MergeAction where
  /-- The entry at this position is written over. -/
  | update (index : Nat)
  | insert (file : FileId)
  | skip
  deriving DecidableEq

namespace FetchEntry

/-- The entry with the result written over it. -/
def absorb (e : FetchEntry) (r : ResolvedResult) : FetchEntry :=
  { e with
    fileId := r.fileId.or e.fileId
    fileName := some r.fileName
    bucket := some r.bucket
    filePath := some r.filePath
    fileUrl := r.fileUrl.or e.fileUrl }

/-- The new entry of a result with a file. -/
def ofResult (r : ResolvedResult) (file : FileId) (dataId : String) : FetchEntry where
  sensor := r.sensor
  dataId := dataId
  fileId := some file
  fileName := some r.fileName
  bucket := some r.bucket
  filePath := some r.filePath
  fileUrl := r.fileUrl

end FetchEntry

namespace ResolvedResult

/-- The position of the first entry with the `dataId` of the result. -/
def entryById? (entries : List FetchEntry) (r : ResolvedResult) : Option Nat :=
  match r.dataId with
  | none => none
  | some dataId => entries.findIdx? fun e => e.dataId == dataId

/-- The position of the first entry with the file of the result. -/
def entryByFile? (entries : List FetchEntry) (r : ResolvedResult) : Option Nat :=
  match r.fileId with
  | none => none
  | some file => entries.findIdx? fun e => e.fileId == some file

def action (entries : List FetchEntry) (r : ResolvedResult) : MergeAction :=
  match (r.entryById? entries).or (r.entryByFile? entries) with
  | some index => .update index
  | none =>
    match r.fileId with
    | some file => .insert file
    | none => .skip

end ResolvedResult

/-- The entries after a merge, and how often each action was taken. -/
structure Merge where
  entries : List FetchEntry
  updated : Nat
  inserted : Nat
  skipped : Nat
  deriving DecidableEq

namespace Merge

def start (entries : List FetchEntry) : Merge := ⟨entries, 0, 0, 0⟩

def changed (m : Merge) : Bool := m.updated + m.inserted > 0

/-- One result merged; `fresh` gives the `dataId` of the new entry by the number of those before. -/
def step (fresh : Nat → String) (m : Merge) (r : ResolvedResult) : Merge :=
  match r.action m.entries with
  | .update index =>
    { m with entries := m.entries.modify index (·.absorb r), updated := m.updated + 1 }
  | .insert file =>
    { m with
      entries := m.entries ++ [FetchEntry.ofResult r file (fresh m.inserted)]
      inserted := m.inserted + 1 }
  | .skip => { m with skipped := m.skipped + 1 }

end Merge

/-- Merges results into entries, one after the other. -/
def mergeResults (entries : List FetchEntry) (fresh : Nat → String)
    (results : List ResolvedResult) : Merge :=
  results.foldl (Merge.step fresh) (Merge.start entries)

end SensorTasks

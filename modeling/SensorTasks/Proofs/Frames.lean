import SensorTasks.Proofs.Index
import SensorTasks.Program.Command

/-!
What commands leave alone. A command writes documents of one kind at most, together with the index
of that kind, and leaves all others as they are.
-/

namespace SensorTasks

open Ledger

namespace Ledger

/-- The ledgers agree in all documents, except perhaps in those of one kind. -/
structure AgreesBut (kind : Option Collection) (l l' : Ledger) : Prop where
  tasks : kind ≠ some .task → l'.tasks = l.tasks ∧ l'.taskNames = l.taskNames
  files : kind ≠ some .file → l'.files = l.files ∧ l'.fileIndex = l.fileIndex
  sensors : kind ≠ some .sensor → l'.sensors = l.sensors ∧ l'.sensorIndex = l.sensorIndex
  groups : kind ≠ some .group → l'.groups = l.groups ∧ l'.groupIndex = l.groupIndex

namespace AgreesBut

variable {kind : Option Collection}

theorem refl (l : Ledger) : AgreesBut kind l l :=
  ⟨fun _ => ⟨rfl, rfl⟩, fun _ => ⟨rfl, rfl⟩, fun _ => ⟨rfl, rfl⟩, fun _ => ⟨rfl, rfl⟩⟩

theorem putTasks (l : Ledger) (tasks : Table Task) (names : Table TaskId) :
    AgreesBut (some .task) l { l with tasks := tasks, taskNames := names } :=
  ⟨fun h => absurd rfl h, fun _ => ⟨rfl, rfl⟩, fun _ => ⟨rfl, rfl⟩, fun _ => ⟨rfl, rfl⟩⟩

theorem putFiles (l : Ledger) (files : Table File) (index : Table FileId) :
    AgreesBut (some .file) l { l with files := files, fileIndex := index } :=
  ⟨fun _ => ⟨rfl, rfl⟩, fun h => absurd rfl h, fun _ => ⟨rfl, rfl⟩, fun _ => ⟨rfl, rfl⟩⟩

theorem putSensors (l : Ledger) (sensors : Table Sensor) (index : Table SensorId) :
    AgreesBut (some .sensor) l { l with sensors := sensors, sensorIndex := index } :=
  ⟨fun _ => ⟨rfl, rfl⟩, fun _ => ⟨rfl, rfl⟩, fun h => absurd rfl h, fun _ => ⟨rfl, rfl⟩⟩

theorem putGroups (l : Ledger) (groups : Table Group) (index : Table GroupId) :
    AgreesBut (some .group) l { l with groups := groups, groupIndex := index } :=
  ⟨fun _ => ⟨rfl, rfl⟩, fun _ => ⟨rfl, rfl⟩, fun _ => ⟨rfl, rfl⟩, fun h => absurd rfl h⟩

variable {w : World}

theorem commit {α : Type} {r : Except LedgerError (α × Ledger)}
    (h : ∀ a l, r = .ok (a, l) → AgreesBut kind w.ledger l) :
    AgreesBut kind w.ledger (w.commit r).2.ledger :=
  World.commit_induction (motive := fun v => AgreesBut kind w.ledger v.ledger) (refl w.ledger) h

theorem commitUnit {r : Except LedgerError Ledger}
    (h : ∀ l, r = .ok l → AgreesBut kind w.ledger l) :
    AgreesBut kind w.ledger (w.commitUnit r).2.ledger :=
  World.commitUnit_induction (motive := fun v => AgreesBut kind w.ledger v.ledger) (refl w.ledger) h

end AgreesBut

end Ledger

namespace Command

/-- The kind of documents that a command writes. -/
def writes? : Command → Option Collection
  | createTask _ | updateTask .. | setModes .. => some .task
  | createFile _ | updateFile .. | exposeFiles .. | deleteFile _ => some .file
  | createSensor _ => some .sensor
  | createGroup _ | addMembers .. => some .group
  | _ => none

theorem agreesBut_run (c : Command) (w : World) :
    AgreesBut c.writes? w.ledger (c.run w).2.ledger := by
  cases c with
  | createTask t =>
    refine .commitUnit fun l hl => ?_
    obtain ⟨-, rfl⟩ := createTask_eq_ok hl
    exact .putTasks ..
  | updateTask id p =>
    refine .commit fun t l hl => ?_
    obtain ⟨old, -, -, rfl⟩ := updateTask_eq_ok hl
    exact .putTasks ..
  | setModes ids mode =>
    simp only [run]
    rw [setModes_tasks]
    exact .putTasks ..
  | createFile new => exact .putFiles ..
  | updateFile id p =>
    refine .commit fun f l hl => ?_
    obtain ⟨old, -, -, rfl⟩ := updateFile_eq_ok hl
    exact .putFiles ..
  | exposeFiles ids p =>
    simp only [run]
    rw [exposeFiles_files]
    exact .putFiles ..
  | deleteFile id =>
    simp only [run, Ledger.deleteFile]
    cases w.ledger.file? id with
    | none => exact .refl _
    | some f => exact .putFiles ..
  | createSensor s =>
    refine .commitUnit fun l hl => ?_
    obtain ⟨-, rfl⟩ := createSensor_eq_ok hl
    exact .putSensors ..
  | createGroup g =>
    refine .commitUnit fun l hl => ?_
    rcases createGroup_eq_ok hl with ⟨-, rfl⟩ | ⟨object, -, -, rfl⟩ <;> exact .putGroups ..
  | addMembers id sensors groups =>
    refine .commit fun g l hl => ?_
    obtain ⟨old, -, -, rfl⟩ := addMembers_eq_ok hl
    exact .putGroups ..
  | _ => exact .refl _

end Command

end SensorTasks

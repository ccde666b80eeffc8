import Mathlib.Data.Set.Card
import SensorTasks.Proofs.BulkDeletion
import SensorTasks.Proofs.Entries
import SensorTasks.Proofs.MarkedFiles

/-!
Updates of several documents in one call. The mode of the listed tasks is set, or the listed files
are exposed to a platform. Those that are so already are left alone, so that a second call finds
nothing to do. The documents are looked at before the first one is written, so that one that is
listed twice is found twice as it was before: it is changed once and counted twice. What is counted
are the documents that have changed just if none of them is listed twice.
-/

namespace SensorTasks

/-! ### Bulk updates -/

/-- A change that makes documents as they are asked to be. -/
structure BulkUpdate (α : Type) where
  asked : α → Bool
  change : α → α
  asked_change : ∀ a, asked (change a) = true

/-- The ids of the documents that are not as they were. -/
def changedIds {α : Type} (before after : String → Option α) : Set String :=
  {id | after id ≠ before id}

/-- The listed ids of documents that are not as they are asked to be, as often as they are
listed. -/
def pendingIds {α : Type} (asked : α → Bool) (docs : String → Option α) (ids : List String) :
    List String :=
  ids.filter fun id => (docs id).any fun a => !asked a

/-- What comes of an update of the listed documents that has counted `n` of them, and of the same
update once more, which has counted `again`. -/
structure BulkOutcome {α : Type} (ids : List String) (asked : α → Bool)
    (before after : String → Option α) (n again : Nat) : Prop where
  /-- No document comes or goes. -/
  stored : ∀ id, (after id).isSome = (before id).isSome
  listed : ∀ id ∈ ids, ∀ a, after id = some a → asked a = true
  /-- What is as asked already is left alone. -/
  settled : ∀ id a, before id = some a → asked a = true → after id = some a
  others : ∀ id, id ∉ ids → after id = before id
  again : again = 0
  /-- What is counted is how often something is listed that is still to be changed. -/
  counted : n = (pendingIds asked before ids).length
  counts_changed_iff : (changedIds before after).encard = n ↔ (pendingIds asked before ids).Nodup

namespace BulkUpdate

variable {α : Type} (b : BulkUpdate α) (docs : String → Option α) (ids : List String)

/-- The documents after the update. -/
def apply (id : String) : Option α :=
  (docs id).map fun a => if id ∈ ids ∧ b.asked a = false then b.change a else a

variable {b docs ids}

theorem mem_pendingIds {asked : α → Bool} {id : String} :
    id ∈ pendingIds asked docs ids ↔ id ∈ ids ∧ ∃ a, docs id = some a ∧ asked a = false := by
  simp [pendingIds, Option.any_eq_true]

theorem apply_of_not_listed {id : String} (h : id ∉ ids) : b.apply docs ids id = docs id := by
  simp [apply, h]

theorem asked_of_apply {id : String} {a : α} (hid : id ∈ ids)
    (ha : b.apply docs ids id = some a) : b.asked a = true := by
  obtain ⟨c, -, rfl⟩ := Option.map_eq_some_iff.1 ha
  split
  · exact b.asked_change c
  · rename_i hasked
    simpa [hid] using hasked

/-- Nothing is left to be changed. -/
theorem pendingIds_apply : pendingIds b.asked (b.apply docs ids) ids = [] := by
  refine List.eq_nil_iff_forall_not_mem.2 fun id hid => ?_
  obtain ⟨hlisted, a, ha, hasked⟩ := mem_pendingIds.1 hid
  rw [asked_of_apply hlisted ha] at hasked
  cases hasked

/-- The documents that were to be changed are the ones that have. -/
theorem changedIds_apply :
    changedIds docs (b.apply docs ids) = {id | id ∈ pendingIds b.asked docs ids} := by
  ext id
  rw [Set.mem_ofPred_eq, mem_pendingIds]
  show b.apply docs ids id ≠ docs id ↔ _
  cases ha : docs id with
  | none => simp [apply, ha]
  | some a =>
    by_cases hpending : id ∈ ids ∧ b.asked a = false
    · -- a document that is changed into itself would have been as asked
      have hne : b.change a ≠ a := fun he => by
        have hasked := b.asked_change a
        rw [he, hpending.2] at hasked
        cases hasked
      simp [apply, ha, hpending, hne]
    · simp only [apply, ha, if_neg hpending, Option.map_some]
      simpa using hpending

theorem encard_changedIds_iff :
    (changedIds docs (b.apply docs ids)).encard = (pendingIds b.asked docs ids).length ↔
      (pendingIds b.asked docs ids).Nodup := by
  have hset : {id | id ∈ pendingIds b.asked docs ids} =
      ((pendingIds b.asked docs ids).toFinset : Set String) := by
    ext id
    simp
  rw [changedIds_apply, hset, Set.encard_coe_eq_coe_finsetCard, Nat.cast_inj]
  exact Multiset.toFinset_card_eq_card_iff_nodup

/-- The outcome of an update that counts what is to be changed. -/
theorem outcome {n again : Nat} {after : String → Option α} (hafter : after = b.apply docs ids)
    (hn : n = (pendingIds b.asked docs ids).length)
    (hagain : again = (pendingIds b.asked after ids).length) :
    BulkOutcome ids b.asked docs after n again := by
  subst hafter hn
  rw [pendingIds_apply] at hagain
  exact {
    stored := fun id => by simp [apply]
    listed := fun id hid a ha => asked_of_apply hid ha
    settled := fun id a ha hasked => by simp [apply, ha, hasked]
    others := fun id hid => apply_of_not_listed hid
    again := hagain
    counted := rfl
    counts_changed_iff := encard_changedIds_iff }

theorem length_filter_filterMap (asked : α → Bool) :
    ((ids.filterMap docs).filter fun a => !asked a).length =
      (pendingIds asked docs ids).length := by
  unfold pendingIds
  induction ids with
  | nil => rfl
  | cons id ids ih =>
    cases ha : docs id with
    | none => simpa [ha] using ih
    | some a => cases hasked : asked a <;> simpa [ha, hasked] using ih

end BulkUpdate

namespace Ledger

variable {l : Ledger}

/-! ### Modes of tasks, platforms of files -/

/-- Tasks get a mode. -/
def modeUpdate (mode : TaskMode) (now : Instant) : BulkUpdate Task where
  asked t := t.mode = mode
  change := TaskPatch.apply { mode := some mode } now
  asked_change _ := decide_eq_true rfl

/-- Files are exposed to a platform. -/
def exposure (p : Platform) (now : Instant) : BulkUpdate File where
  asked f := f.visibility.isExposedTo p
  change f := { f with visibility := f.visibility.exposeTo p, updatedAt := now }
  asked_change _ := List.contains_iff_mem.2 (Visibility.mem_exposeTo.2 (Or.inr rfl))

theorem setModes_counted (l : Ledger) (ids : List TaskId) (mode : TaskMode) (now : Instant) :
    (l.setModes ids mode now).1 =
      (pendingIds (modeUpdate mode now).asked l.task? ids).length := by
  rw [← BulkUpdate.length_filter_filterMap]
  simp [setModes, tasksOf, modeUpdate]

theorem task?_setModes_apply (hl : ∀ {id t}, l.task? id = some t → t.id = id) (ids : List TaskId)
    (mode : TaskMode) (now : Instant) :
    (l.setModes ids mode now).2.task? = (modeUpdate mode now).apply l.task? ids := by
  funext id
  rw [World.task?_setModes hl, BulkUpdate.apply]
  cases l.task? id with
  | none => simp
  | some t =>
    by_cases hid : id ∈ ids <;> by_cases hmode : t.mode = mode <;> simp [modeUpdate, hid, hmode]

theorem exposeFiles_counted (l : Ledger) (ids : List FileId) (p : Platform) (now : Instant) :
    (l.exposeFiles ids p now).1 = (pendingIds (exposure p now).asked l.file? ids).length :=
  BulkUpdate.length_filter_filterMap _

theorem file?_exposeFiles_apply (hl : ∀ {id f}, l.file? id = some f → f.id = id)
    (ids : List FileId) (p : Platform) (now : Instant) :
    (l.exposeFiles ids p now).2.file? = (exposure p now).apply l.file? ids :=
  funext fun id => file?_exposeFiles hl ids p now id

/-- Setting the mode of tasks and exposing files do what they are asked to do to the documents that
are listed, and to no other ones, and a second call has nothing to do. The number that they give is
that of the documents that have changed just if no document that is to be changed is listed
twice. -/
theorem bulk_counts_iff (htasks : ∀ {id t}, l.task? id = some t → t.id = id)
    (hfiles : ∀ {id f}, l.file? id = some f → f.id = id) (ids : List String) (mode : TaskMode)
    (p : Platform) (now later : Instant) :
    let modes := l.setModes ids mode now
    let exposed := l.exposeFiles ids p now
    (BulkOutcome ids (fun t => t.mode = mode) l.task? modes.2.task? modes.1
        (modes.2.setModes ids mode later).1 ∧
      modes.2 = { l with tasks := modes.2.tasks }) ∧
    BulkOutcome ids (fun f => f.visibility.isExposedTo p) l.file? exposed.2.file? exposed.1
        (exposed.2.exposeFiles ids p later).1 ∧
      exposed.2 = { l with files := exposed.2.files } := by
  intro modes exposed
  refine ⟨⟨?_, setModes_tasks l ids mode now⟩, ?_, exposeFiles_files l ids p now⟩
  · exact BulkUpdate.outcome (b := modeUpdate mode now) (task?_setModes_apply htasks ids mode now)
      (setModes_counted l ids mode now) (setModes_counted _ ids mode later)
  · exact BulkUpdate.outcome (b := exposure p now) (file?_exposeFiles_apply hfiles ids p now)
      (exposeFiles_counted l ids p now) (exposeFiles_counted _ ids p later)

namespace Sample

/-- A task that is enabled. -/
def task : TaskId := FetchReport.Sample.fetching.id

/-- Files that are exposed to no platform. -/
def first : FileId := FreshId.text 1

def second : FileId := FreshId.text 2

def portal : Platform := ⟨"open-data"⟩

/-- A world with the task and the files. -/
def stocked : World :=
  ((Command.createTask FetchReport.Sample.fetching).run Deletion.Sample.archive).2

theorem stocked_reachable : stocked.Reachable := by
  refine Deletion.Sample.archive_reachable.command (c := .createTask _)
    ⟨rfl, World.old_text (by decide), fun e he f hf => ?_⟩
  rw [List.mem_singleton.1 he] at hf
  cases hf

end Sample

open Sample in
/-- A task and a file that are listed twice are changed once, and counted twice. -/
theorem counted_twice :
    let l := stocked.ledger
    stocked.Reachable ∧
      (l.setModes [task, task] .disabled .epoch).1 = 2 ∧
      (changedIds l.task? (l.setModes [task, task] .disabled .epoch).2.task?).encard = 1 ∧
      (l.exposeFiles [first, first] portal .epoch).1 = 2 ∧
      (changedIds l.file? (l.exposeFiles [first, first] portal .epoch).2.file?).encard = 1 := by
  intro l
  have hindexed := stocked_reachable.consistent.indexed
  refine ⟨stocked_reachable, by decide, ?_, by decide, ?_⟩
  · have hpending : pendingIds (modeUpdate .disabled .epoch).asked l.task? [task, task] =
        [task, task] := by decide
    rw [task?_setModes_apply hindexed.task_id, BulkUpdate.changedIds_apply, hpending]
    simp
  · have hpending : pendingIds (exposure portal .epoch).asked l.file? [first, first] =
        [first, first] := by decide
    rw [file?_exposeFiles_apply hindexed.file_id, BulkUpdate.changedIds_apply, hpending]
    simp

open Sample in
/-- Of documents that are listed once and an id of none, as many are counted as have changed. -/
theorem bulk_counts_of_distinct :
    let l := stocked.ledger
    stocked.Reachable ∧
      (l.setModes [task, "ghost"] .disabled .epoch).1 = 1 ∧
      (changedIds l.task? (l.setModes [task, "ghost"] .disabled .epoch).2.task?).encard = 1 ∧
      (l.exposeFiles [second, "ghost", first] portal .epoch).1 = 2 ∧
      (changedIds l.file? (l.exposeFiles [second, "ghost", first] portal .epoch).2.file?).encard =
        2 := by
  intro l
  have hindexed := stocked_reachable.consistent.indexed
  have hmodes := (bulk_counts_iff hindexed.task_id hindexed.file_id [task, "ghost"] .disabled
    portal .epoch .epoch).1.1
  have hexposed := (bulk_counts_iff hindexed.task_id hindexed.file_id [second, "ghost", first]
    .disabled portal .epoch .epoch).2.1
  have htasks : (l.setModes [task, "ghost"] .disabled .epoch).1 = 1 := by decide
  have hfiles : (l.exposeFiles [second, "ghost", first] portal .epoch).1 = 2 := by decide
  have htaskIds := hmodes.counts_changed_iff.2 (by decide)
  have hfileIds := hexposed.counts_changed_iff.2 (by decide)
  rw [htasks] at htaskIds
  rw [hfiles] at hfileIds
  exact ⟨stocked_reachable, htasks, htaskIds, hfiles, hfileIds⟩

end Ledger

end SensorTasks

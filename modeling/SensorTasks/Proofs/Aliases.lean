import Mathlib.Logic.Equiv.Basic
import SensorTasks.Proofs.Merging
import SensorTasks.Proofs.Reachable

/-!
Documents under other names. Two stores that come of the same messages may call what is new by other
ids, have other readings of the clock, and list the platforms of a file in another order; everything
else is the same. A merge looks at ids only to compare them. So under names that tell all ids apart
it does the same, and its result is the one before under the other names.
-/

namespace SensorTasks

/-! ### Merging -/

/-- The entry with its file and its `dataId` called otherwise. -/
def FetchEntry.withNames (g : String → String) (e : FetchEntry) : FetchEntry :=
  { e with dataId := g e.dataId, fileId := e.fileId.map g }

def ResolvedResult.withNames (g : String → String) (r : ResolvedResult) : ResolvedResult :=
  { r with dataId := r.dataId.map g, fileId := r.fileId.map g }

def MergeAction.withNames (g : String → String) : MergeAction → MergeAction
  | .update index => .update index
  | .insert file => .insert (g file)
  | .skip => .skip

namespace Merge

def withNames (g : String → String) (m : Merge) : Merge :=
  { m with entries := m.entries.map (·.withNames g) }

variable {g : String → String} {entries : List FetchEntry} {r : ResolvedResult}
  {fresh fresh' : Nat → String}

theorem entryById?_withNames (hg : g.Injective) :
    (r.withNames g).entryById? (entries.map (·.withNames g)) = r.entryById? entries := by
  unfold ResolvedResult.entryById? ResolvedResult.withNames
  cases r.dataId with
  | none => rfl
  | some d =>
    simp only [Option.map_some, List.findIdx?_map]
    refine congrArg (fun p => entries.findIdx? p) (funext fun e => ?_)
    exact Bool.eq_iff_iff.2 (by simp [FetchEntry.withNames, hg.eq_iff])

theorem entryByFile?_withNames (hg : g.Injective) :
    (r.withNames g).entryByFile? (entries.map (·.withNames g)) = r.entryByFile? entries := by
  unfold ResolvedResult.entryByFile? ResolvedResult.withNames
  cases r.fileId with
  | none => rfl
  | some f =>
    simp only [Option.map_some, List.findIdx?_map]
    refine congrArg (fun p => entries.findIdx? p) (funext fun e => ?_)
    refine Bool.eq_iff_iff.2 ?_
    simp only [FetchEntry.withNames, Function.comp_apply, beq_iff_eq]
    exact (Option.map_injective hg).eq_iff (b := some f)

theorem action_withNames (hg : g.Injective) :
    (r.withNames g).action (entries.map (·.withNames g)) = (r.action entries).withNames g := by
  unfold ResolvedResult.action
  rw [entryById?_withNames hg, entryByFile?_withNames hg]
  cases (r.entryById? entries).or (r.entryByFile? entries) with
  | some index => rfl
  | none => unfold ResolvedResult.withNames; cases r.fileId <;> rfl

theorem absorb_withNames (e : FetchEntry) (r : ResolvedResult) :
    (e.absorb r).withNames g = (e.withNames g).absorb (r.withNames g) := by
  unfold FetchEntry.absorb FetchEntry.withNames ResolvedResult.withNames
  cases r.fileId <;> rfl

/-- A result is merged in the same way under other names. -/
theorem step_withNames (hg : g.Injective) {m : Merge}
    (h : fresh' m.inserted = g (fresh m.inserted)) :
    Merge.step fresh' (m.withNames g) (r.withNames g) = (Merge.step fresh m r).withNames g := by
  unfold Merge.step
  have haction : (r.withNames g).action (m.withNames g).entries =
      (r.action m.entries).withNames g := action_withNames hg
  rw [haction]
  cases r.action m.entries with
  | update index =>
    have habsorb : (m.entries.map (·.withNames g)).modify index (·.absorb (r.withNames g)) =
        (m.entries.modify index (·.absorb r)).map (·.withNames g) := by
      refine List.ext_getElem? fun i => ?_
      simp only [List.getElem?_modify, List.getElem?_map]
      by_cases hi : index = i <;> simp [hi, Function.comp_def, absorb_withNames]
    simp only [MergeAction.withNames, withNames, habsorb]
  | insert file =>
    have hnew : FetchEntry.ofResult (r.withNames g) (g file) (g (fresh m.inserted)) =
        (FetchEntry.ofResult r file (fresh m.inserted)).withNames g := rfl
    simp only [MergeAction.withNames, h, hnew, withNames, List.map_append, List.map_cons,
      List.map_nil]
  | skip => rfl

theorem foldl_step_withNames (hg : g.Injective) {rs : List ResolvedResult} {m : Merge}
    (h : ∀ i < m.inserted + rs.length, fresh' i = g (fresh i)) :
    (rs.map (·.withNames g)).foldl (Merge.step fresh') (m.withNames g) =
      (rs.foldl (Merge.step fresh) m).withNames g := by
  induction rs generalizing m with
  | nil => rfl
  | cons r rs ih =>
    have hle : (Merge.step fresh m r).inserted ≤ m.inserted + 1 := by
      unfold Merge.step
      cases r.action m.entries <;> simp
    rw [List.map_cons, List.foldl_cons, List.foldl_cons, step_withNames hg (h _ (by simp))]
    refine ih fun i hi => h i ?_
    rw [List.length_cons]
    omega

/-- Results are merged in the same way under other names. -/
theorem mergeResults_withNames (hg : g.Injective) {rs : List ResolvedResult}
    (h : ∀ i < rs.length, fresh' i = g (fresh i)) :
    mergeResults (entries.map (·.withNames g)) fresh' (rs.map (·.withNames g)) =
      (mergeResults entries fresh rs).withNames g :=
  foldl_step_withNames hg (m := .start entries) fun i hi => h i (by simpa [Merge.start] using hi)

end Merge

/-! ### Likeness -/

/-- In what two stores may differ: ids that were not known at first have other names, and there are
other readings of the clock. -/
structure Difference where
  known : String → Prop
  names : Equiv.Perm String
  names_of_known : ∀ {id}, known id → names id = id
  /-- The readings of the clock that may stand in the one store. -/
  times : List Instant
  /-- Those that may stand in the other one. -/
  times' : List Instant

/-- The times are the same, or both were read from the clock. -/
def Difference.SameTime (d : Difference) (t t' : Instant) : Prop :=
  t = t' ∨ t ∈ d.times ∧ t' ∈ d.times'

/-- The entries of a fetch are called otherwise. The files of an upload were known when it was
created, so they keep their names. -/
def Work.withNames (g : String → String) : Work → Work
  | .fetch w => .fetch { w with data := w.data.map (·.withNames g) }
  | w => w

variable (d : Difference)

structure Task.Alike (t t' : Task) : Prop where
  updatedAt : d.SameTime t.updatedAt t'.updatedAt
  lastRanAt : Option.Rel d.SameTime t.metadata.lastRanAt t'.metadata.lastRanAt
  lastFailedAt : Option.Rel d.SameTime t.metadata.lastFailedAt t'.metadata.lastFailedAt
  others : t' =
    { t with
      metadata :=
        { t.metadata with
          lastRanAt := t'.metadata.lastRanAt
          lastFailedAt := t'.metadata.lastFailedAt }
      work := t.work.withNames d.names
      updatedAt := t'.updatedAt }

structure File.Alike (f f' : File) : Prop where
  createdAt : f.createdAt = f'.createdAt ∨
    ¬d.known f.id ∧ d.SameTime f.createdAt f'.createdAt
  updatedAt : d.SameTime f.updatedAt f'.updatedAt
  exposedTo : f.visibility.exposedTo.Perm f'.visibility.exposedTo
  others : f' =
    { f with
      id := d.names f.id
      visibility := { f.visibility with exposedTo := f'.visibility.exposedTo }
      createdAt := f'.createdAt
      updatedAt := f'.updatedAt }

structure TaskPatch.Alike (p p' : TaskPatch) : Prop where
  lastRanAt : Option.Rel d.SameTime p.lastRanAt p'.lastRanAt
  lastFailedAt : Option.Rel d.SameTime p.lastFailedAt p'.lastFailedAt
  others : p' =
    { p with
      lastRanAt := p'.lastRanAt
      lastFailedAt := p'.lastFailedAt
      fetchEntries := p.fetchEntries.map (List.map (·.withNames d.names)) }

/-- The ledger without its tasks and files. -/
def Ledger.others (l : Ledger) : Ledger :=
  { l with tasks := .empty, files := .empty, fileIndex := .empty }

/-- The ledgers hold the same, but for the names of what is new, readings of the clock and the order
of the platforms that a file is exposed to. -/
structure Ledger.Alike (l l' : Ledger) : Prop where
  task : ∀ id, Option.Rel (Task.Alike d) (l.task? id) (l'.task? id)
  file : ∀ id, Option.Rel (File.Alike d) (l.file? id) (l'.file? (d.names id))
  fileIndex : ∀ key, l'.fileIndex.get? key = (l.fileIndex.get? key).map d.names
  others : l'.others = l.others

variable {d}

theorem Difference.SameTime.refl (t : Instant) : d.SameTime t t := Or.inl rfl

theorem Option.rel_refl {α : Type} {r : α → α → Prop} (h : ∀ a, r a a) (o : Option α) :
    Option.Rel r o o := by
  cases o with
  | none => exact .none
  | some a => exact .some (h a)

/-- What replaces a value, if it is there. -/
theorem Option.rel_or {α : Type} {r : α → α → Prop} {a a' b b' : Option α} (ha : Option.Rel r a a')
    (hb : Option.Rel r b b') : Option.Rel r (a.or b) (a'.or b') := by
  cases ha with
  | none => exact hb
  | some h => exact .some h

/-- A task is like itself if all names in it are known. -/
theorem Task.Alike.refl {t : Task} (h : t.work.withNames d.names = t.work) : t.Alike d t where
  updatedAt := .refl _
  lastRanAt := Option.rel_refl .refl _
  lastFailedAt := Option.rel_refl .refl _
  others := by rw [h]

theorem Task.work_withNames_iff {g : String → String} {t : Task} :
    t.work.withNames g = t.work ↔ t.entries.map (·.withNames g) = t.entries := by
  unfold Task.entries Task.fetch?
  cases t.work with
  | fetch f =>
    refine ⟨fun h => congrArg FetchWork.data (Work.fetch.inj h), fun h => ?_⟩
    exact congrArg (fun data => Work.fetch { f with data }) h
  | upload f => simp [Work.withNames]
  | sync => simp [Work.withNames]

/-- The same task, patched in two ways that are alike. -/
theorem TaskPatch.Alike.apply {p p' : TaskPatch} (hp : p.Alike d p') {t : Task}
    (h : t.work.withNames d.names = t.work) {now now' : Instant} (hnow : d.SameTime now now') :
    (p.apply now t).Alike d (p'.apply now' t) := by
  have hwork : t.work.withEntries (p.fetchEntries.map (List.map (·.withNames d.names))) =
      (t.work.withEntries p.fetchEntries).withNames d.names := by
    cases hw : t.work with
    | fetch w =>
      rw [hw] at h
      cases hdata : p.fetchEntries with
      | none => exact h.symm
      | some data => rfl
    | upload w => rfl
    | sync => rfl
  refine ⟨hnow, Option.rel_or hp.lastRanAt (Option.rel_refl .refl _),
    Option.rel_or hp.lastFailedAt (Option.rel_refl .refl _), ?_⟩
  rw [hp.others]
  simp only [TaskPatch.apply, hwork]

end SensorTasks

import SensorTasks.Proofs.Handling

/-!
What a handling leaves in the entries of its task. Seen by the keys of the files, this is known
before it is done: it is the merge of the results with the keys that were foreseen. A handling by
itself has just the files of that merge; one that takes turns with others has these at least, and
perhaps some of them twice.
-/

namespace SensorTasks

open Message Inbox Merge

namespace World

theorem entries_of_task {w : World} {id : TaskId} {t : Task} (ht : w.ledger.task? id = some t) :
    w.entries id = t.entries := by
  rw [entries, ht]

/-- The entries of a task refer to a file of the key. -/
def References (w v : World) (task : TaskId) (k : String) : Prop :=
  ∃ f, w.fileKey v f = k ∧ ∃ e ∈ v.entries task, e.fileId = some f

/-- An entry of a task that is new refers to a file of the key. -/
def Inserted (w v : World) (task : TaskId) (k : String) : Prop :=
  ∃ f, w.fileKey v f = k ∧ ∃ e ∈ (v.entries task).drop (w.entries task).length, e.fileId = some f

/-- The keys of the files that entries refer to. -/
def fileKeys (w v : World) (entries : List FetchEntry) : List String :=
  (entries.filterMap (·.fileId)).map (w.fileKey v)

theorem mem_fileKeys {w v : World} {entries : List FetchEntry} {k : String} :
    k ∈ w.fileKeys v entries ↔ ∃ f, w.fileKey v f = k ∧ ∃ e ∈ entries, e.fileId = some f := by
  rw [fileKeys, List.mem_map]
  simp only [List.mem_filterMap]
  exact exists_congr fun f => and_comm

instance (w v : World) (task : TaskId) (k : String) : Decidable (w.References v task k) :=
  decidable_of_iff (k ∈ w.fileKeys v (v.entries task)) mem_fileKeys

/-- The entries of a task with the keys of their files in place of the ids. -/
def keyedEntries (w : World) (task : TaskId) : List FetchEntry :=
  (w.entries task).map (·.rename Ledger.Key.file)

end World

namespace FetchReport

/-- The results of a report with the keys of their files in place of the ids. -/
def keyedResults (w : World) (m : FetchReport) : List ResolvedResult :=
  m.results.map fun r => Report.resolved r (w.resultKey m.task r)

/-- No result names an id that is still to be given out. -/
def NamesOld (w : World) (m : FetchReport) : Prop :=
  ∀ r ∈ m.results, ∀ d, r.dataId = some d → w.Old d

/-- A result has something to say of the task: its sensor is known, or it names an entry. -/
def Touches (w : World) (m : FetchReport) : Prop :=
  ∃ r ∈ m.results, (∃ s, w.ledger.sensor? r.sensorId = some s) ∨
    ∃ e ∈ w.entries m.task, r.dataId = some e.dataId

variable {w v : World} {m : FetchReport} {t : Task} {rs : List ResolvedResult}
  {fresh : Nat → String} {k : String}

/-! ### Merging by keys -/

/-- The entries with the keys of their files. -/
theorem rename_entries (hw : w.Consistent) (hv : World.Handled w m.task v) :
    (w.entries m.task).map (·.rename (w.fileKey v)) = w.keyedEntries m.task := by
  refine List.map_congr_left fun e he => ?_
  unfold FetchEntry.rename
  cases hf : e.fileId with
  | none => rfl
  | some f =>
    have hold : w.Old f := by
      cases ht : w.ledger.task? m.task with
      | none => simp [World.entries, ht] at he
      | some t => exact hw.entry_old ht (World.entries_of_task ht ▸ he) hf
    rw [Option.map_some, Option.map_some, hv.fileKey_of_old hold]

/-- The results with the keys of their files. -/
theorem rename_results (h : List.Forall₂ (Foreseen w v m.task) m.results rs) :
    rs.map (·.rename (w.fileKey v)) = m.keyedResults w := by
  unfold keyedResults
  generalize m.results = results at h
  induction h with
  | nil => rfl
  | cons ha _ ih =>
    rw [List.map_cons, List.map_cons, ih, ← ha.key]
    congr 1
    rw [ha.eq]
    rfl

theorem dataId_of_foreseen {rs' : List FetchResult}
    (h : List.Forall₂ (Foreseen w v m.task) rs' rs) :
    rs.map (·.dataId) = rs'.map (·.dataId) := by
  induction h with
  | nil => rfl
  | cons ha _ ih =>
    rw [List.map_cons, List.map_cons, ih, ha.eq]
    rfl

/-- No result names an entry that is made in the merge. -/
theorem names_not_fresh (hnames : m.NamesOld w) (hfresh : ∀ i, ¬w.Old (fresh i))
    (h : List.Forall₂ (Foreseen w v m.task) m.results rs) :
    ∀ a ∈ rs, ∀ i, a.dataId ≠ some (fresh i) := by
  intro a ha i hd
  have hmem : some (fresh i) ∈ m.results.map (·.dataId) := by
    rw [← dataId_of_foreseen h, ← hd]
    exact List.mem_map_of_mem ha
  obtain ⟨r, hr, hrd⟩ := List.mem_map.1 hmem
  exact hfresh i (hnames r hr _ hrd)

/-- Whatever files the results have got, the merge refers to those that were foreseen. -/
theorem references_of_merge (hw : w.Consistent) (hv : World.Handled w m.task v)
    (hnames : m.NamesOld w) (hfresh : ∀ i, ¬w.Old (fresh i))
    (h : List.Forall₂ (Foreseen w v m.task) m.results rs)
    (hentries : v.entries m.task = (mergeResults (w.entries m.task) fresh rs).entries)
    (hk : Referenced (w.keyedEntries m.task) (m.keyedResults w) k) :
    w.References v m.task k := by
  rw [← rename_entries hw hv, ← rename_results h] at hk
  obtain ⟨f, rfl, hf⟩ := Referenced.of_rename _ hk
  refine ⟨f, rfl, ?_⟩
  rw [hentries]
  exact (mem_files_iff (names_not_fresh hnames hfresh h)).2 hf

/-- A merge changes the task if the report touches it. -/
theorem changed_iff_touches (hnames : m.NamesOld w) (hfresh : ∀ i, ¬w.Old (fresh i))
    (h : List.Forall₂ (Foreseen w v m.task) m.results rs) :
    (mergeResults (w.entries m.task) fresh rs).changed = true ↔ m.Touches w := by
  rw [changed_iff (names_not_fresh hnames hfresh h), Touches]
  generalize m.results = results at h
  induction h with
  | nil => simp
  | @cons r a results rs ha _ ih =>
    have hfile : a.fileId ≠ none ↔ ∃ s, w.ledger.sensor? r.sensorId = some s := by
      rw [← Option.isSome_iff_exists, ← Option.isSome_map, ← Option.isSome_iff_ne_none,
        ← Option.isSome_map, ha.key, World.resultKey, Option.isSome_map]
    have hid : a.entryById? (w.entries m.task) ≠ none ↔
        ∃ e ∈ w.entries m.task, r.dataId = some e.dataId := by
      have hd : a.dataId = r.dataId := by
        rw [ha.eq]
        rfl
      unfold ResolvedResult.entryById?
      rw [hd]
      cases r.dataId with
      | none => simp
      | some d =>
        dsimp only
        rw [Ne, List.findIdx?_eq_none_iff]
        simp only [not_forall, beq_eq_false_iff_ne, not_not, Option.some.injEq, exists_prop, ne_eq]
        exact exists_congr fun e => and_congr_right fun _ => eq_comm
    simp only [List.exists_mem_cons_iff, ih, hfile, hid]

/-! ### One handling by itself -/

/-- What a handling finds in the end is what was foreseen. -/
theorem foreseen_resolution (hw : w.Consistent) (hv : World.Handled w m.task v)
    {results : List FetchResult} (hres : ∀ r ∈ results, v.Resolves m.task r) :
    List.Forall₂ (Foreseen w v m.task) results (results.map (v.resolution m.task)) := by
  rw [List.forall₂_map_right_iff, List.forall₂_same]
  intro r hr
  have hfor : v.fileFor? m.task r =
      (w.ledger.sensor? r.sensorId).bind fun s => v.ledger.fileOf? m.task s.id r.fileName := by
    rw [World.fileFor?, hv.grown.sensor?]
  cases hs : w.ledger.sensor? r.sensorId with
  | none =>
    rw [hs, Option.bind_none] at hfor
    refine ⟨rfl, ?_, fun f hf => ?_⟩
    · rw [World.resolution, hfor, World.resultKey, hs]
      rfl
    · rw [World.resolution, hfor] at hf
      cases hf
  | some s =>
    obtain ⟨f, hf⟩ := Option.isSome_iff_exists.1 (hres r hr s (by rw [hv.grown.sensor?, hs]))
    rw [hs, Option.bind_some, hf] at hfor
    refine ⟨rfl, ?_, fun g hg => ?_⟩
    · rw [World.resolution, hfor]
      exact hv.fileKey_of_found hw hs hf
    · rw [World.resolution, hfor] at hg
      obtain rfl := Option.some.inj hg
      exact ⟨f, hv.grown.consistent.indexed.file?_of_fileOf? hf⟩

/-- A file that was known or that is found is told by its key. -/
theorem fileKey_cases (hw : w.Consistent) (hv : World.Handled w m.task v) {f : FileId}
    (hf : Mentions (w.entries m.task) (m.results.map (v.resolution m.task)) f) :
    w.Old f ∧ w.fileKey v f = Ledger.Key.file f ∨ ∃ sensor name g,
      w.fileKey v f = Ledger.Key.fileOf m.task sensor name ∧
        v.ledger.fileOf? m.task sensor name = some g ∧ g.id = f := by
  rcases hf with ⟨e, he, hf⟩ | ⟨a, ha, hf⟩
  · have hold : w.Old f := by
      cases ht : w.ledger.task? m.task with
      | none => simp [World.entries, ht] at he
      | some t => exact hw.entry_old ht (World.entries_of_task ht ▸ he) hf
    exact Or.inl ⟨hold, hv.fileKey_of_old hold⟩
  · obtain ⟨r, -, rfl⟩ := List.mem_map.1 ha
    obtain ⟨g, hg, rfl⟩ := Option.map_eq_some_iff.1 hf
    obtain ⟨s, -, hg⟩ := Option.bind_eq_some_iff.1 hg
    rcases hv.found hg with hknown | ⟨-, hnew, hkeys⟩
    · have hold : w.Old g.id := hw.old.files _ g (hw.indexed.file?_of_fileOf? hknown)
      exact Or.inl ⟨hold, hv.fileKey_of_old hold⟩
    · refine Or.inr ⟨s.id, r.fileName, g, ?_, hg, rfl⟩
      simp only [World.fileKey, hnew, hv.grown.consistent.indexed.file?_of_fileOf? hg, hkeys,
        List.headD_cons]

/-- The keys tell the files apart that one handling has to do with. -/
theorem fileKey_injective (hw : w.Consistent) (hv : World.Handled w m.task v) (f g : FileId)
    (hf : Mentions (w.entries m.task) (m.results.map (v.resolution m.task)) f)
    (hg : Mentions (w.entries m.task) (m.results.map (v.resolution m.task)) g)
    (h : w.fileKey v f = w.fileKey v g) : f = g := by
  rcases fileKey_cases hw hv hf with ⟨-, hkf⟩ | ⟨sensor, name, a, hkf, ha, rfl⟩
  · rcases fileKey_cases hw hv hg with ⟨-, hkg⟩ | ⟨sensor, name, b, hkg, -⟩
    · rw [hkf, hkg] at h
      exact Ledger.key_file_injective h
    · rw [hkf, hkg] at h
      exact absurd h.symm (World.key_fileOf_ne_file _ _ _ _)
  · rcases fileKey_cases hw hv hg with ⟨-, hkg⟩ | ⟨sensor', name', b, hkg, hb, rfl⟩
    · rw [hkf, hkg] at h
      exact absurd h (World.key_fileOf_ne_file _ _ _ _)
    · rw [hkf, hkg] at h
      rw [Ledger.fileOf?, h, ← Ledger.fileOf?, hb] at ha
      exact (congrArg File.id (Option.some.inj ha)).symm

/-- Entries that come of the results as they are found in the end refer to just the files that were
foreseen. -/
theorem references_iff (hw : w.Consistent) (hv : World.Handled w m.task v) (hnames : m.NamesOld w)
    (hfresh : ∀ i, ¬w.Old (fresh i)) (hres : ∀ r ∈ m.results, v.Resolves m.task r)
    (hentries : v.entries m.task =
      (mergeResults (w.entries m.task) fresh (m.results.map (v.resolution m.task))).entries) :
    w.References v m.task k ↔ Referenced (w.keyedEntries m.task) (m.keyedResults w) k := by
  have hforeseen := foreseen_resolution hw hv hres
  have hnew := names_not_fresh hnames hfresh hforeseen
  refine ⟨?_, references_of_merge hw hv hnames hfresh hforeseen hentries⟩
  rintro ⟨f, rfl, hf⟩
  rw [hentries, mem_files_iff hnew] at hf
  rw [← rename_entries hw hv, ← rename_results hforeseen]
  exact hf.rename (fileKey_injective hw hv)

theorem inserted_iff (hw : w.Consistent) (hv : World.Handled w m.task v) (hnames : m.NamesOld w)
    (hfresh : ∀ i, ¬w.Old (fresh i)) (hres : ∀ r ∈ m.results, v.Resolves m.task r)
    (hentries : v.entries m.task =
      (mergeResults (w.entries m.task) fresh (m.results.map (v.resolution m.task))).entries) :
    w.Inserted v m.task k ↔ Homeless (w.keyedEntries m.task) (m.keyedResults w) k := by
  have hforeseen := foreseen_resolution hw hv hres
  have hnew := names_not_fresh hnames hfresh hforeseen
  rw [← rename_entries hw hv, ← rename_results hforeseen]
  constructor
  · rintro ⟨f, rfl, hf⟩
    rw [hentries, mem_newFiles_iff hnew] at hf
    exact hf.rename (fileKey_injective hw hv)
  · intro h
    obtain ⟨f, rfl, hf⟩ := h.of_rename
    refine ⟨f, rfl, ?_⟩
    rw [hentries]
    exact (mem_newFiles_iff hnew).2 hf

/-- What a handling by itself refers to and inserts. -/
theorem alone_iff (hw : w.Consistent) (ht : w.ledger.task? m.task = some t)
    (htype : t.type = .dataFetch) (hnames : m.NamesOld w) (k : String) :
    (w.References (m.handle.run w).2 m.task k ↔
      Referenced (w.keyedEntries m.task) (m.keyedResults w) k) ∧
    (w.Inserted (m.handle.run w).2 m.task k ↔
      Homeless (w.keyedEntries m.task) (m.keyedResults w) k) := by
  have hv := handled_alone hw ht htype
  obtain ⟨-, hres, t', fresh, ht', -, hfresh, hentries⟩ := m.handle_run hw ht htype
  rw [← World.entries_of_task ht', ← World.entries_of_task ht] at hentries
  exact ⟨references_iff hw hv hnames hfresh hres hentries,
    inserted_iff hw hv hnames hfresh hres hentries⟩

/-- A report that does not touch the task inserts nothing. -/
theorem touches_of_homeless (h : Homeless (w.keyedEntries m.task) (m.keyedResults w) k) :
    m.Touches w := by
  obtain ⟨done, a, rest, hsplit, hf, -⟩ := h
  obtain ⟨r, hr, rfl⟩ : ∃ r ∈ m.results, Report.resolved r (w.resultKey m.task r) = a := by
    have hmem : a ∈ m.keyedResults w := by
      rw [hsplit]
      simp
    exact List.mem_map.1 hmem
  obtain ⟨s, hs, -⟩ := Option.map_eq_some_iff.1 hf
  exact ⟨r, hr, Or.inl ⟨s, hs⟩⟩

end FetchReport

end SensorTasks

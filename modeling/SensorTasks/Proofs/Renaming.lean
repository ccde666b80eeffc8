import SensorTasks.Proofs.Merging

/-!
Merging when files have other names. A merge compares the ids of files and nothing else. So if a
result belongs to no entry after all files are renamed, it belonged to none before: names that
confuse files make results belong together, but never take them apart. With names that tell all
files apart nothing changes.
-/

namespace SensorTasks

def ResolvedResult.rename (g : FileId → FileId) (r : ResolvedResult) : ResolvedResult :=
  { r with fileId := r.fileId.map g }

def FetchEntry.rename (g : FileId → FileId) (e : FetchEntry) : FetchEntry :=
  { e with fileId := e.fileId.map g }

namespace Merge

/-- The file is in the entries after the merge. -/
def Referenced (entries : List FetchEntry) (results : List ResolvedResult) (f : FileId) : Prop :=
  some f ∈ held entries results ∨ Homeless entries results f

/-- The file is in an entry or a result. -/
def Mentions (entries : List FetchEntry) (results : List ResolvedResult) (f : FileId) : Prop :=
  (∃ e ∈ entries, e.fileId = some f) ∨ ∃ r ∈ results, r.fileId = some f

variable {entries : List FetchEntry} {results done : List ResolvedResult} {r : ResolvedResult}
  {f : FileId}

theorem mem_files_iff {fresh : Nat → String}
    (hfresh : ∀ r ∈ results, ∀ i, r.dataId ≠ some (fresh i)) :
    (∃ e ∈ (mergeResults entries fresh results).entries, e.fileId = some f) ↔
      Referenced entries results f := by
  obtain ⟨new, heq, -, hfiles⟩ := mergeResults_entries entries hfresh
  have hmem : (∃ e ∈ (mergeResults entries fresh results).entries, e.fileId = some f) ↔
      some f ∈ (mergeResults entries fresh results).entries.map (·.fileId) := by
    simp
  rw [hmem, heq, List.map_append, List.mem_append, overwritten_files, hfiles, Referenced]

theorem mem_newFiles_iff {fresh : Nat → String}
    (hfresh : ∀ r ∈ results, ∀ i, r.dataId ≠ some (fresh i)) :
    (∃ e ∈ (mergeResults entries fresh results).entries.drop entries.length,
      e.fileId = some f) ↔ Homeless entries results f := by
  obtain ⟨new, heq, -, hfiles⟩ := mergeResults_entries entries hfresh
  have hdrop : (mergeResults entries fresh results).entries.drop entries.length = new := by
    rw [heq, ← length_overwritten entries results, List.drop_left]
  have hmem : (∃ e ∈ new, e.fileId = some f) ↔ some f ∈ new.map (·.fileId) := by simp
  rw [hdrop, hmem, hfiles]

/-! ### Other names -/

variable (g : FileId → FileId)

theorem entryById?_rename (entries : List FetchEntry) (r : ResolvedResult) :
    (r.rename g).entryById? (entries.map (·.rename g)) = r.entryById? entries := by
  unfold ResolvedResult.entryById?
  cases hd : r.dataId with
  | none => simp [ResolvedResult.rename, hd]
  | some d =>
    simp only [ResolvedResult.rename, hd, List.findIdx?_map]
    rfl

theorem naming_rename (entries : List FetchEntry) (done : List ResolvedResult) (p : Nat) :
    naming (entries.map (·.rename g)) (done.map (·.rename g)) p =
      (naming entries done p).map (·.rename g) := by
  unfold naming
  rw [List.filter_map]
  congr 2
  funext r
  simp only [Function.comp_apply, entryById?_rename]

theorem held_rename (entries : List FetchEntry) (done : List ResolvedResult) :
    held (entries.map (·.rename g)) (done.map (·.rename g)) =
      (held entries done).map (Option.map g) := by
  apply List.ext_getElem?
  intro p
  simp only [held, List.getElem?_mapIdx, List.getElem?_map, naming_rename, Option.map_map]
  cases entries[p]? with
  | none => rfl
  | some e =>
    have hfiles : (((naming entries done p).map (·.rename g)).filterMap (·.fileId)) =
        ((naming entries done p).filterMap (·.fileId)).map g := by
      rw [List.filterMap_map, List.map_filterMap]
      rfl
    simp only [Option.map_some, Function.comp_apply, hfiles, List.getLast?_map]
    cases ((naming entries done p).filterMap (·.fileId)).getLast? <;> rfl

/-- What an entry holds is mentioned. -/
theorem mentions_of_held (h : some f ∈ held entries done) : Mentions entries done f := by
  obtain ⟨p, hp⟩ := List.mem_iff_getElem?.1 h
  rw [held, List.getElem?_mapIdx, Option.map_eq_some_iff] at hp
  obtain ⟨e, he, hf⟩ := hp
  rw [Option.or_eq_some_iff] at hf
  rcases hf with hf | ⟨-, hf⟩
  · obtain ⟨r, hr, hrf⟩ := List.mem_filterMap.1 (List.mem_of_getLast? hf)
    exact Or.inr ⟨r, (List.mem_filter.1 hr).1, hrf⟩
  · exact Or.inl ⟨e, List.mem_of_getElem? he, hf⟩

theorem target_eq_none_iff : target entries done r = none ↔
    r.entryById? entries = none ∧ ∀ f, r.fileId = some f → some f ∉ held entries done := by
  rw [target, Option.or_eq_none_iff]
  refine and_congr_right fun _ => ?_
  cases hf : r.fileId with
  | none => simp
  | some f =>
    simp only [Option.bind_some, List.findIdx?_eq_none_iff, beq_eq_false_iff_ne, Option.some.injEq]
    constructor
    · rintro h f' rfl hmem
      exact h _ hmem rfl
    · rintro h a ha rfl
      exact h f rfl ha

theorem Homeless.of_rename {k : FileId}
    (h : Homeless (entries.map (·.rename g)) (results.map (·.rename g)) k) :
    ∃ f, g f = k ∧ Homeless entries results f := by
  obtain ⟨done', r', rest', hsplit, hf, ht⟩ := h
  obtain ⟨done, more, rfl, rfl, hmore⟩ := List.map_eq_append_iff.1 hsplit
  obtain ⟨r, rest, rfl, rfl, rfl⟩ := List.map_eq_cons_iff.1 hmore
  obtain ⟨f, hrf, rfl⟩ := Option.map_eq_some_iff.1 hf
  refine ⟨f, rfl, done, r, rest, rfl, hrf, ?_⟩
  rw [target_eq_none_iff, entryById?_rename, held_rename] at ht
  refine target_eq_none_iff.2 ⟨ht.1, fun f' hf' hheld => ?_⟩
  exact ht.2 (g f') (by rw [ResolvedResult.rename, hf', Option.map_some])
    (List.mem_map.2 ⟨some f', hheld, rfl⟩)

/-- Files that are referenced under other names were referenced before. -/
theorem Referenced.of_rename {k : FileId}
    (h : Referenced (entries.map (·.rename g)) (results.map (·.rename g)) k) :
    ∃ f, g f = k ∧ Referenced entries results f := by
  rcases h with h | h
  · rw [held_rename, List.mem_map] at h
    obtain ⟨held, hmem, hk⟩ := h
    obtain ⟨f, rfl, rfl⟩ := Option.map_eq_some_iff.1 hk
    exact ⟨f, rfl, Or.inl hmem⟩
  · obtain ⟨f, rfl, hf⟩ := h.of_rename
    exact ⟨f, rfl, Or.inr hf⟩

variable {g}

theorem Homeless.rename (h : Homeless entries results f)
    (hg : ∀ a b, Mentions entries results a → Mentions entries results b → g a = g b → a = b) :
    Homeless (entries.map (·.rename g)) (results.map (·.rename g)) (g f) := by
  obtain ⟨done, r, rest, rfl, hf, ht⟩ := h
  obtain ⟨hid, hheld⟩ := target_eq_none_iff.1 ht
  refine ⟨done.map (·.rename g), r.rename g, rest.map (·.rename g), by simp, ?_, ?_⟩
  · rw [ResolvedResult.rename, hf, Option.map_some]
  · refine target_eq_none_iff.2 ⟨by rw [entryById?_rename, hid], fun k hk hmem => ?_⟩
    rw [held_rename, List.mem_map] at hmem
    obtain ⟨o, ho, hok⟩ := hmem
    obtain ⟨a, rfl, rfl⟩ := Option.map_eq_some_iff.1 hok
    obtain ⟨b, hb, hab⟩ := Option.map_eq_some_iff.1 hk
    have hmentions : Mentions entries (done ++ r :: rest) a := by
      refine (mentions_of_held ho).imp_right fun ⟨c, hc, hca⟩ => ?_
      exact ⟨c, List.mem_append_left _ hc, hca⟩
    have heq : b = a := hg b a (Or.inr ⟨r, by simp, hb⟩) hmentions hab
    exact hheld b hb (heq ▸ ho)

/-- With names that tell all files apart, what was referenced stays so. -/
theorem Referenced.rename (h : Referenced entries results f)
    (hg : ∀ a b, Mentions entries results a → Mentions entries results b → g a = g b → a = b) :
    Referenced (entries.map (·.rename g)) (results.map (·.rename g)) (g f) := by
  rcases h with h | h
  · refine Or.inl ?_
    rw [held_rename]
    exact List.mem_map.2 ⟨some f, h, rfl⟩
  · exact Or.inr (h.rename hg)

end Merge

end SensorTasks

import Mathlib.Data.List.Induction
import SensorTasks.Task.Merge

/-!
What a merge does, told from the entries before it. No result changes the `dataId` of an entry, so
it is known beforehand which entries the results name. The file of an entry only changes by results
that name it: one that is found by its file brings the file that is there. So it is also known which
files the entries hold when a result comes, hence where each result belongs, what is written over
each entry and which files come into new entries.
-/

namespace SensorTasks

/-- The sensor and the `dataId` of an entry, which no result changes. -/
def FetchEntry.label (e : FetchEntry) : SensorId × String := (e.sensor, e.dataId)

namespace Merge

variable (entries : List FetchEntry)

/-- The results that have the `dataId` of the entry at `p`. -/
def naming (done : List ResolvedResult) (p : Nat) : List ResolvedResult :=
  done.filter fun r => r.entryById? entries = some p

/-- The files that the entries hold after `done`: each that of the last result which names the entry
and has a file, or else its own. -/
def held (done : List ResolvedResult) : List (Option FileId) :=
  entries.mapIdx fun p e => ((naming entries done p).filterMap (·.fileId)).getLast?.or e.fileId

/-- The entry that a result belongs to if it comes after `done`. -/
def target (done : List ResolvedResult) (r : ResolvedResult) : Option Nat :=
  (r.entryById? entries).or
    (r.fileId.bind fun f => (held entries done).findIdx? fun g => g == some f)

/-- The results that belong to the entry at `p`, if they come after `done`. -/
def writtenAfter (p : Nat) : List ResolvedResult → List ResolvedResult → List ResolvedResult
  | _, [] => []
  | done, r :: rest =>
    if target entries done r = some p then r :: writtenAfter p (done ++ [r]) rest
    else writtenAfter p (done ++ [r]) rest

/-- The results that belong to the entry at `p`. -/
def written (results : List ResolvedResult) (p : Nat) : List ResolvedResult :=
  writtenAfter entries p [] results

/-- The entries with all results written over them that belong to one. -/
def overwritten (results : List ResolvedResult) : List FetchEntry :=
  entries.mapIdx fun p e => (written entries results p).foldl FetchEntry.absorb e

/-- A file whose result belongs to no entry when it comes. -/
def Homeless (results : List ResolvedResult) (f : FileId) : Prop :=
  ∃ done r rest, results = done ++ r :: rest ∧ r.fileId = some f ∧ target entries done r = none

variable {entries}

/-! ### Lists of entries -/

/-- A change of one entry keeps what it keeps of that entry. -/
theorem map_modify {β : Type} {l : List FetchEntry} {p : Nat} {change : FetchEntry → FetchEntry}
    {part : FetchEntry → β} (h : ∀ e, l[p]? = some e → part (change e) = part e) :
    (l.modify p change).map part = l.map part := by
  apply List.ext_getElem?
  intro q
  by_cases hpq : p = q
  · subst hpq
    cases he : l[p]? with
    | none => simp [he]
    | some e => simp [he, h e he]
  · simp [hpq]

theorem modify_append_left {old new : List FetchEntry} {p : Nat} (h : p < old.length)
    (change : FetchEntry → FetchEntry) :
    (old ++ new).modify p change = old.modify p change ++ new := by
  apply List.ext_getElem?
  intro q
  by_cases hq : q < old.length
  · by_cases hpq : p = q <;> simp [List.getElem?_append, hpq, hq]
  · have hne : p ≠ q := by omega
    simp [List.getElem?_append, hne, hq]

theorem modify_append_right {old new : List FetchEntry} (j : Nat)
    (change : FetchEntry → FetchEntry) :
    (old ++ new).modify (j + old.length) change = old ++ new.modify j change := by
  apply List.ext_getElem?
  intro q
  by_cases hq : q < old.length
  · have hne : j + old.length ≠ q := by omega
    simp [List.getElem?_append, hq, hne]
  · by_cases hj : j + old.length = q
    · subst hj
      simp [List.getElem?_append, Nat.not_lt.2 (Nat.le_add_left _ _)]
    · have hne : j ≠ q - old.length := by omega
      simp [List.getElem?_append, hq, hj, hne]

/-! ### One more result -/

theorem writtenAfter_concat (p : Nat) (done results : List ResolvedResult) (r : ResolvedResult) :
    writtenAfter entries p done (results ++ [r]) =
      writtenAfter entries p done results ++
        if target entries (done ++ results) r = some p then [r] else [] := by
  induction results generalizing done with
  | nil =>
    simp only [List.nil_append, writtenAfter, List.append_nil]
  | cons a results ih =>
    have happ : done ++ [a] ++ results = done ++ a :: results := by simp
    simp only [List.cons_append, writtenAfter, ih, happ]
    split <;> rfl

theorem written_concat (results : List ResolvedResult) (r : ResolvedResult) (p : Nat) :
    written entries (results ++ [r]) p =
      written entries results p ++ if target entries results r = some p then [r] else [] :=
  writtenAfter_concat p [] results r

theorem overwritten_nil : overwritten entries [] = entries := by
  apply List.ext_getElem?
  intro p
  simp [overwritten, written, writtenAfter]

theorem overwritten_concat (results : List ResolvedResult) (r : ResolvedResult) :
    overwritten entries (results ++ [r]) =
      match target entries results r with
      | some p => (overwritten entries results).modify p (·.absorb r)
      | none => overwritten entries results := by
  apply List.ext_getElem?
  intro q
  simp only [overwritten, List.getElem?_mapIdx, written_concat, List.foldl_append]
  cases ht : target entries results r with
  | none => simp
  | some p =>
    by_cases hpq : p = q
    · subst hpq
      simp [Option.map_map, Function.comp_def]
    · simp [hpq]

theorem held_concat (done : List ResolvedResult) (r : ResolvedResult) :
    held entries (done ++ [r]) =
      match r.entryById? entries with
      | some p => (held entries done).modify p r.fileId.or
      | none => held entries done := by
  apply List.ext_getElem?
  intro q
  simp only [held, naming, List.getElem?_mapIdx, List.filter_append]
  cases hr : r.entryById? entries with
  | none => simp [hr]
  | some p =>
    by_cases hpq : p = q
    · subst hpq
      cases hf : r.fileId <;> simp [hr, hf, Option.map_map, Function.comp_def]
    · simp [hr, hpq]

/-! ### Files and names -/

@[simp] theorem length_overwritten (entries : List FetchEntry) (results : List ResolvedResult) :
    (overwritten entries results).length = entries.length := by
  simp [overwritten]

theorem target_of_byId {r : ResolvedResult} {p : Nat} (h : r.entryById? entries = some p)
    (done : List ResolvedResult) : target entries done r = some p := by
  simp [target, h]

/-- The entries hold the files that they are said to hold. -/
theorem overwritten_files (results : List ResolvedResult) :
    (overwritten entries results).map (·.fileId) = held entries results := by
  induction results using List.reverseRecOn with
  | nil =>
    apply List.ext_getElem?
    intro p
    simp [overwritten_nil, held, naming]
  | append_singleton results r ih =>
    rw [overwritten_concat, held_concat]
    cases hid : r.entryById? entries with
    | some p =>
      rw [target_of_byId hid]
      simp only [← ih]
      apply List.ext_getElem?
      intro q
      by_cases hpq : p = q <;> simp [hpq, FetchEntry.absorb, Option.map_map, Function.comp_def]
    | none =>
      cases ht : target entries results r with
      | none => exact ih
      | some p =>
        -- found by its file, which the entry holds already
        simp only [target, hid, Option.none_or, Option.bind_eq_some_iff] at ht
        obtain ⟨f, hf, hp⟩ := ht
        obtain ⟨hlt, heq, -⟩ := List.findIdx?_eq_some_iff_getElem.1 hp
        rw [beq_iff_eq] at heq
        refine (map_modify fun e he => ?_).trans ih
        have hhere : (held entries results)[p]? = some e.fileId := by
          rw [← ih, List.getElem?_map, he, Option.map_some]
        rw [List.getElem?_eq_getElem hlt, heq, Option.some.injEq] at hhere
        rw [FetchEntry.absorb, hf, ← hhere, Option.some_or]

/-- The names of the entries stay. -/
theorem overwritten_dataIds (entries : List FetchEntry) (results : List ResolvedResult) :
    (overwritten entries results).map (·.dataId) = entries.map (·.dataId) := by
  induction results using List.reverseRecOn with
  | nil => rw [overwritten_nil]
  | append_singleton results r ih =>
    rw [overwritten_concat, ← ih]
    cases target entries results r with
    | none => rfl
    | some p => exact map_modify fun e _ => rfl

/-! ### New entries -/

theorem homeless_concat {results : List ResolvedResult} {r : ResolvedResult} {f : FileId} :
    Homeless entries (results ++ [r]) f ↔
      Homeless entries results f ∨ r.fileId = some f ∧ target entries results r = none := by
  constructor
  · rintro ⟨done, a, rest, hsplit, hf, ht⟩
    rcases List.eq_nil_or_concat rest with rfl | ⟨rest, last, rfl⟩
    · obtain ⟨rfl, ha⟩ := List.append_inj' hsplit rfl
      obtain rfl : r = a := by simpa using ha
      exact Or.inr ⟨hf, ht⟩
    · have hsplit' : results ++ [r] = (done ++ a :: rest) ++ [last] := by
        rw [hsplit]
        simp
      obtain ⟨rfl, -⟩ := List.append_inj' hsplit' rfl
      exact Or.inl ⟨done, a, rest, rfl, hf, ht⟩
  · rintro (⟨done, a, rest, rfl, hf, ht⟩ | ⟨hf, ht⟩)
    · exact ⟨done, a, rest ++ [r], by simp, hf, ht⟩
    · exact ⟨results, r, [], rfl, hf, ht⟩

theorem not_homeless_nil (f : FileId) : ¬Homeless entries [] f := by
  rintro ⟨done, r, rest, h, -⟩
  simp at h

/-- Where a result is found among the entries before the merge and new ones that it does not
name. -/
theorem position_append {done : List ResolvedResult} {new : List FetchEntry} {r : ResolvedResult}
    (hnew : ∀ e ∈ new, r.dataId ≠ some e.dataId) :
    (r.entryById? (overwritten entries done ++ new)).or
        (r.entryByFile? (overwritten entries done ++ new)) =
      (target entries done r).or (r.fileId.bind fun f =>
        (new.findIdx? fun e => e.fileId == some f).map (· + entries.length)) := by
  have hid : r.entryById? (overwritten entries done ++ new) = r.entryById? entries := by
    unfold ResolvedResult.entryById?
    cases hd : r.dataId with
    | none => rfl
    | some d =>
      have hnone : (new.findIdx? fun e => e.dataId == d) = none := by
        rw [List.findIdx?_eq_none_iff]
        intro e he
        rw [beq_eq_false_iff_ne]
        rintro rfl
        exact hnew e he hd
      have hold := congrArg (List.findIdx? (· == d)) (overwritten_dataIds entries done)
      simp only [List.findIdx?_map, Function.comp_def] at hold
      simp only [List.findIdx?_append, hnone, Option.map_none, Option.or_none, hold]
  have hfile : r.entryByFile? (overwritten entries done ++ new) =
      (r.fileId.bind fun f => (held entries done).findIdx? fun g => g == some f).or
        (r.fileId.bind fun f =>
          (new.findIdx? fun e => e.fileId == some f).map (· + entries.length)) := by
    unfold ResolvedResult.entryByFile?
    cases hf : r.fileId with
    | none => rfl
    | some f =>
      simp only [← overwritten_files, List.findIdx?_append, List.findIdx?_map, Option.bind_some,
        length_overwritten, Function.comp_def]
  rw [hid, hfile, target, Option.or_assoc]

/-- What is done with a result by where it belongs. -/
theorem action_append {done : List ResolvedResult} {new : List FetchEntry} {r : ResolvedResult}
    (hnew : ∀ e ∈ new, r.dataId ≠ some e.dataId) :
    r.action (overwritten entries done ++ new) =
      match target entries done r with
      | some p => .update p
      | none =>
        match r.fileId with
        | none => .skip
        | some f =>
          match new.findIdx? fun e => e.fileId == some f with
          | some j => .update (j + entries.length)
          | none => .insert f := by
  unfold ResolvedResult.action
  rw [position_append hnew]
  cases target entries done r with
  | some p => rfl
  | none =>
    cases r.fileId with
    | none => rfl
    | some f =>
      simp only [Option.none_or, Option.bind_some]
      cases new.findIdx? fun e => e.fileId == some f with
      | none => rfl
      | some j => rfl

theorem target_lt {done : List ResolvedResult} {r : ResolvedResult} {p : Nat}
    (h : target entries done r = some p) : p < entries.length := by
  rw [target, Option.or_eq_some_iff] at h
  rcases h with h | ⟨-, h⟩
  · unfold ResolvedResult.entryById? at h
    split at h
    · cases h
    · exact (List.findIdx?_eq_some_iff_findIdx_eq.1 h).1
  · obtain ⟨f, -, h⟩ := Option.bind_eq_some_iff.1 h
    simpa [held] using (List.findIdx?_eq_some_iff_findIdx_eq.1 h).1

theorem mergeResults_concat (fresh : Nat → String) (results : List ResolvedResult)
    (r : ResolvedResult) :
    mergeResults entries fresh (results ++ [r]) =
      step fresh (mergeResults entries fresh results) r := by
  simp [mergeResults]

/-- A merge keeps the entries and perhaps adds new ones. -/
theorem length_le_step (fresh : Nat → String) (m : Merge) (r : ResolvedResult) :
    m.entries.length ≤ (step fresh m r).entries.length := by
  unfold step
  split <;> simp

/-- A merge keeps the sensors and the ids of the entries in their places, and the new entries have
the fresh ids in their order. -/
theorem labels_mergeResults (entries : List FetchEntry) (fresh : Nat → String)
    (results : List ResolvedResult) :
    ∃ added, (mergeResults entries fresh results).entries.map FetchEntry.label =
        entries.map FetchEntry.label ++ added ∧
      added.map (·.2) = (List.range (mergeResults entries fresh results).inserted).map fresh ∧
      (mergeResults entries fresh results).inserted ≤ results.length := by
  induction results using List.reverseRecOn with
  | nil => exact ⟨[], (List.append_nil _).symm, rfl, Nat.le_refl _⟩
  | append_singleton results r ih =>
    obtain ⟨added, hlabels, hids, hle⟩ := ih
    rw [mergeResults_concat, List.length_append, List.length_singleton]
    unfold step
    cases r.action (mergeResults entries fresh results).entries with
    | update p =>
      refine ⟨added, ?_, hids, Nat.le_succ_of_le hle⟩
      rw [← hlabels]
      exact map_modify fun e _ => rfl
    | insert f =>
      let d := fresh (mergeResults entries fresh results).inserted
      refine ⟨added ++ [(r.sensor, d)], ?_, ?_, Nat.succ_le_succ hle⟩
      · rw [List.map_append, hlabels, List.append_assoc]
        rfl
      · rw [List.range_succ, List.map_append, List.map_append, hids]
        rfl
    | skip => exact ⟨added, hlabels, hids, Nat.le_succ_of_le hle⟩

/-- Either every result with a file belongs to an entry, and then the entries are only written over,
or there are more entries after the merge than before. -/
theorem mergeResults_cases (fresh : Nat → String) (results : List ResolvedResult) :
    (∀ f, ¬Homeless entries results f) ∧
        (mergeResults entries fresh results).entries = overwritten entries results ∨
      (∃ f, Homeless entries results f) ∧
        entries.length < (mergeResults entries fresh results).entries.length := by
  induction results using List.reverseRecOn with
  | nil => exact Or.inl ⟨not_homeless_nil, overwritten_nil.symm⟩
  | append_singleton results r ih =>
    rw [mergeResults_concat]
    rcases ih with ⟨hhome, heq⟩ | ⟨⟨f, hf⟩, hlt⟩
    · have haction : r.action (overwritten entries results ++ []) = _ := action_append (by simp)
      rw [List.append_nil] at haction
      unfold step
      rw [heq, haction, overwritten_concat]
      cases ht : target entries results r with
      | some p => exact Or.inl ⟨fun f hf => by simp [homeless_concat, hhome, ht] at hf, rfl⟩
      | none =>
        cases hf : r.fileId with
        | none => exact Or.inl ⟨fun f h => by simp [homeless_concat, hhome, hf] at h, rfl⟩
        | some f => exact Or.inr ⟨⟨f, homeless_concat.2 (Or.inr ⟨hf, ht⟩)⟩, by simp⟩
    · exact Or.inr ⟨⟨f, homeless_concat.2 (Or.inl hf)⟩,
        Nat.lt_of_lt_of_le hlt (length_le_step fresh _ r)⟩

/-- The entries are the same after a merge that changes nothing. -/
theorem entries_of_not_changed (fresh : Nat → String) {results : List ResolvedResult}
    (h : (mergeResults entries fresh results).changed = false) :
    (mergeResults entries fresh results).entries = entries := by
  induction results using List.reverseRecOn with
  | nil => rfl
  | append_singleton results r ih =>
    rw [mergeResults_concat] at h ⊢
    unfold step at h ⊢
    split at h
    · simp [changed] at h
    · simp [changed] at h
    · exact ih h

/-- A result that names no fresh id names no new entry. -/
theorem not_names_new {fresh : Nat → String} {new : List FetchEntry} {r : ResolvedResult}
    (hids : ∀ d ∈ new.map (·.dataId), ∃ i, d = fresh i) (hr : ∀ i, r.dataId ≠ some (fresh i)) :
    ∀ e ∈ new, r.dataId ≠ some e.dataId := by
  intro e he hd
  obtain ⟨i, hi⟩ := hids e.dataId (List.mem_map_of_mem he)
  exact hr i (hi ▸ hd)

/-- A result written over the entry that has its file changes no file. -/
theorem absorb_found {new : List FetchEntry} {r : ResolvedResult} {f : FileId} {j : Nat}
    (hf : r.fileId = some f) (hfound : (new.findIdx? fun e => e.fileId == some f) = some j) :
    (new.modify j (·.absorb r)).map (·.fileId) = new.map (·.fileId) ∧
      some f ∈ new.map (·.fileId) := by
  obtain ⟨hlt, hj, -⟩ := List.findIdx?_eq_some_iff_getElem.1 hfound
  rw [beq_iff_eq] at hj
  refine ⟨map_modify fun e he => ?_, ?_⟩
  · rw [List.getElem?_eq_getElem hlt, Option.some.injEq] at he
    rw [FetchEntry.absorb, hf, ← he, hj, Option.some_or]
  · rw [← hj]
    exact List.mem_map_of_mem (List.getElem_mem hlt)

/-- What a merge comes to if no result has the `dataId` of a new entry: the entries, written over,
and a new entry for each file whose result belongs to none. -/
theorem mergeResults_entries (entries : List FetchEntry) {fresh : Nat → String}
    {results : List ResolvedResult} (hfresh : ∀ r ∈ results, ∀ i, r.dataId ≠ some (fresh i)) :
    ∃ new, (mergeResults entries fresh results).entries = overwritten entries results ++ new ∧
      (∀ d ∈ new.map (·.dataId), ∃ i, d = fresh i) ∧
      ∀ f, some f ∈ new.map (·.fileId) ↔ Homeless entries results f := by
  induction results using List.reverseRecOn with
  | nil =>
    refine ⟨[], ?_, ?_, ?_⟩
    · rw [overwritten_nil]
      exact (List.append_nil _).symm
    · intro d hd
      cases hd
    · intro f
      simp [not_homeless_nil]
  | append_singleton results r ih =>
    obtain ⟨new, heq, hids, hfiles⟩ := ih fun a ha => hfresh a (List.mem_append_left _ ha)
    have hnames := not_names_new hids (hfresh r (by simp))
    rw [mergeResults_concat]
    unfold step
    rw [heq, action_append hnames, overwritten_concat]
    cases ht : target entries results r with
    | some p =>
      have hlt : p < (overwritten entries results).length := by
        rw [length_overwritten]
        exact target_lt ht
      exact ⟨new, modify_append_left hlt _, hids, fun f => by simp [homeless_concat, ← hfiles, ht]⟩
    | none =>
      cases hf : r.fileId with
      | none => exact ⟨new, rfl, hids, fun f => by simp [homeless_concat, ← hfiles, hf]⟩
      | some f =>
        dsimp only
        cases hnew : new.findIdx? fun e => e.fileId == some f with
        | none =>
          refine ⟨_, List.append_assoc _ _ _, ?_, fun g => ?_⟩
          · intro d hd
            rw [List.map_append, List.mem_append] at hd
            rcases hd with hd | hd
            · exact hids d hd
            · exact ⟨_, List.mem_singleton.1 hd⟩
          · rw [List.map_append, List.mem_append, hfiles, homeless_concat]
            simp [ht, hf, FetchEntry.ofResult, eq_comm]
        | some j =>
          obtain ⟨hkeep, hmem⟩ := absorb_found hf hnew
          refine ⟨new.modify j (·.absorb r), ?_, ?_, fun g => ?_⟩
          · rw [← length_overwritten entries results]
            exact modify_append_right j _
          · have hsame : (new.modify j (·.absorb r)).map (·.dataId) = new.map (·.dataId) :=
              map_modify fun e _ => rfl
            rw [hsame]
            exact hids
          · rw [hkeep, homeless_concat, hfiles]
            refine ⟨Or.inl, ?_⟩
            rintro (hg | ⟨hg, -⟩)
            · exact hg
            · rw [hf, Option.some.injEq] at hg
              rw [← hfiles, ← hg]
              exact hmem

/-- A result is written over an entry that has its `dataId` or its file. -/
theorem belongs_of_action {r : ResolvedResult} {p : Nat} {e : FetchEntry}
    (h : r.action entries = .update p) (he : entries[p]? = some e) :
    r.dataId = some e.dataId ∨ ∃ f, e.fileId = some f ∧ r.fileId = some f := by
  unfold ResolvedResult.action at h
  cases hp : (r.entryById? entries).or (r.entryByFile? entries) with
  | none =>
    rw [hp] at h
    cases hf : r.fileId <;> simp [hf] at h
  | some q =>
    obtain rfl : q = p := by simpa [hp] using h
    rcases Option.or_eq_some_iff.1 hp with hq | ⟨-, hq⟩
    · left
      unfold ResolvedResult.entryById? at hq
      split at hq
      · cases hq
      · rename_i d hd
        obtain ⟨hlt, hmatch, -⟩ := List.findIdx?_eq_some_iff_getElem.1 hq
        rw [List.getElem?_eq_getElem hlt, Option.some.injEq] at he
        rw [hd, ← he, eq_of_beq hmatch]
    · right
      unfold ResolvedResult.entryByFile? at hq
      split at hq
      · cases hq
      · rename_i f hf
        obtain ⟨hlt, hmatch, -⟩ := List.findIdx?_eq_some_iff_getElem.1 hq
        rw [List.getElem?_eq_getElem hlt, Option.some.injEq] at he
        exact ⟨f, by rw [← he, eq_of_beq hmatch], hf⟩

theorem file_of_action {r : ResolvedResult} {f : FileId} (h : r.action entries = .insert f) :
    r.fileId = some f := by
  unfold ResolvedResult.action at h
  split at h
  · cases h
  · split at h
    · cases h
      assumption
    · cases h

/-- What the entries have, and what results that belong to them keep, and what new entries have, the
entries after a merge have. -/
theorem forall_mem_mergeResults {P : FetchEntry → Prop} {fresh : Nat → String}
    {results : List ResolvedResult} (hentries : ∀ e ∈ entries, P e)
    (hid : ∀ r ∈ results, ∀ e, P e → r.dataId = some e.dataId → P (e.absorb r))
    (hfile : ∀ r ∈ results, ∀ e f, P e → e.fileId = some f → r.fileId = some f → P (e.absorb r))
    (hnew : ∀ r ∈ results, ∀ f dataId, r.fileId = some f → P (.ofResult r f dataId)) :
    ∀ e ∈ (mergeResults entries fresh results).entries, P e := by
  induction results using List.reverseRecOn with
  | nil => exact hentries
  | append_singleton results r ih =>
    have hr : r ∈ results ++ [r] := List.mem_append_right _ (List.mem_singleton_self r)
    have hall := ih (fun x hx => hid x (List.mem_append_left _ hx))
      (fun x hx => hfile x (List.mem_append_left _ hx))
      fun x hx => hnew x (List.mem_append_left _ hx)
    rw [mergeResults_concat]
    generalize mergeResults entries fresh results = m at hall ⊢
    unfold step
    split
    · rename_i p hact
      intro e he
      obtain ⟨q, hq⟩ := List.mem_iff_getElem?.1 he
      rw [List.getElem?_modify] at hq
      obtain ⟨a, ha, rfl⟩ := Option.map_eq_some_iff.1 hq
      have hPa := hall a (List.mem_of_getElem? ha)
      split
      · rename_i hpq
        rcases belongs_of_action hact (hpq ▸ ha) with hd | ⟨f, hfa, hfr⟩
        · exact hid r hr a hPa hd
        · exact hfile r hr a f hPa hfa hfr
      · exact hPa
    · rename_i f hact
      intro e he
      rcases List.mem_append.1 he with he | he
      · exact hall e he
      · rw [List.mem_singleton.1 he]
        exact hnew r hr f _ (file_of_action hact)
    · exact hall

/-- The files in the entries after a merge are those that were there and those of the results. -/
theorem file_of_mem_mergeResults {fresh : Nat → String} {results : List ResolvedResult}
    {e : FetchEntry} {f : FileId} (he : e ∈ (mergeResults entries fresh results).entries)
    (hf : e.fileId = some f) :
    (∃ a ∈ entries, a.fileId = some f) ∨ ∃ r ∈ results, r.fileId = some f := by
  have habsorb : ∀ r ∈ results, ∀ e : FetchEntry,
      (e.fileId = some f → (∃ a ∈ entries, a.fileId = some f) ∨ ∃ r ∈ results, r.fileId = some f) →
        (e.absorb r).fileId = some f →
          (∃ a ∈ entries, a.fileId = some f) ∨ ∃ r ∈ results, r.fileId = some f := by
    intro r hr e he hf
    rw [FetchEntry.absorb, Option.or_eq_some_iff] at hf
    rcases hf with hf | ⟨-, hf⟩
    · exact Or.inr ⟨r, hr, hf⟩
    · exact he hf
  refine forall_mem_mergeResults (P := fun e => e.fileId = some f →
    (∃ a ∈ entries, a.fileId = some f) ∨ ∃ r ∈ results, r.fileId = some f)
    (fun a ha hf => Or.inl ⟨a, ha, hf⟩) (fun r hr e he _ => habsorb r hr e he)
    (fun r hr e _ he _ _ => habsorb r hr e he) (fun r hr g _ hg hf => ?_) e he hf
  obtain rfl : g = f := Option.some.inj hf
  exact Or.inr ⟨r, hr, hg⟩

/-- A step changes something unless the result is skipped. -/
theorem changed_step (fresh : Nat → String) (m : Merge) (r : ResolvedResult) :
    (step fresh m r).changed = true ↔ m.changed = true ∨ r.action m.entries ≠ .skip := by
  unfold step changed
  cases r.action m.entries with
  | update p =>
    simp only [decide_eq_true_eq, ne_eq, reduceCtorEq, not_false_eq_true, or_true, iff_true]
    omega
  | insert f =>
    simp only [decide_eq_true_eq, ne_eq, reduceCtorEq, not_false_eq_true, or_true, iff_true]
    omega
  | skip => simp

/-- A result is skipped if it has no file and names no entry. -/
theorem action_ne_skip {done : List ResolvedResult} {new : List FetchEntry} {r : ResolvedResult}
    (hnew : ∀ e ∈ new, r.dataId ≠ some e.dataId) :
    r.action (overwritten entries done ++ new) ≠ .skip ↔
      r.fileId ≠ none ∨ r.entryById? entries ≠ none := by
  rw [action_append hnew]
  cases ht : target entries done r with
  | some p =>
    have hr : r.fileId ≠ none ∨ r.entryById? entries ≠ none := by
      by_contra hr
      rw [not_or, not_not, not_not] at hr
      simp [target, hr.1, hr.2] at ht
    simp [hr]
  | none =>
    have hid : r.entryById? entries = none := (Option.or_eq_none_iff.1 ht).1
    cases hf : r.fileId with
    | none => simp [hid]
    | some f =>
      dsimp only
      cases new.findIdx? fun e => e.fileId == some f with
      | none => simp
      | some j => simp

/-- A merge changes something if a result has a file or names an entry. -/
theorem changed_iff {fresh : Nat → String} {results : List ResolvedResult}
    (hfresh : ∀ r ∈ results, ∀ i, r.dataId ≠ some (fresh i)) :
    (mergeResults entries fresh results).changed = true ↔
      ∃ r ∈ results, r.fileId ≠ none ∨ r.entryById? entries ≠ none := by
  induction results using List.reverseRecOn with
  | nil => simp [mergeResults, start, changed]
  | append_singleton results r ih =>
    have hbefore : ∀ a ∈ results, ∀ i, a.dataId ≠ some (fresh i) :=
      fun a ha => hfresh a (List.mem_append_left _ ha)
    obtain ⟨new, heq, hids, -⟩ := mergeResults_entries entries hbefore
    have hnames := not_names_new hids (hfresh r (by simp))
    rw [mergeResults_concat, changed_step, heq, action_ne_skip hnames, ih hbefore]
    simp [or_and_right, exists_or]

/-! ### Entries that stay -/

/-- What a list of results leaves of the entry that they are written over. -/
theorem foldl_absorb (results : List ResolvedResult) (e : FetchEntry) :
    results.foldl FetchEntry.absorb e =
      { e with
        fileId := (results.filterMap (·.fileId)).getLast?.or e.fileId
        fileName := (results.getLast?.map (·.fileName)).or e.fileName
        bucket := (results.getLast?.map (·.bucket)).or e.bucket
        filePath := (results.getLast?.map (·.filePath)).or e.filePath
        fileUrl := (results.filterMap (·.fileUrl)).getLast?.or e.fileUrl } := by
  induction results using List.reverseRecOn with
  | nil => simp
  | append_singleton results r ih =>
    rw [List.foldl_append, ih]
    cases hf : r.fileId <;> cases hu : r.fileUrl <;> simp [FetchEntry.absorb, hf, hu]

/-- The entry has what the last of the results brings, and the file and the URL of the last that
brings one. -/
structure Carries (e : FetchEntry) (results : List ResolvedResult) : Prop where
  file : ∀ f, (results.filterMap (·.fileId)).getLast? = some f → e.fileId = some f
  url : ∀ u, (results.filterMap (·.fileUrl)).getLast? = some u → e.fileUrl = some u
  rest : ∀ r, results.getLast? = some r →
    e.fileName = some r.fileName ∧ e.bucket = some r.bucket ∧ e.filePath = some r.filePath

theorem foldl_absorb_eq_self {results : List ResolvedResult} {e : FetchEntry} :
    results.foldl FetchEntry.absorb e = e ↔ Carries e results := by
  rw [foldl_absorb]
  constructor
  · intro h
    rw [← h]
    exact ⟨fun f hf => by simp [hf], fun u hu => by simp [hu], fun r hr => by simp [hr]⟩
  · intro h
    obtain ⟨sensor, dataId, fileId, fileName, bucket, filePath, fileUrl⟩ := e
    simp only [FetchEntry.mk.injEq, true_and]
    refine ⟨?_, ?_, ?_, ?_, ?_⟩
    · cases hf : (results.filterMap (·.fileId)).getLast? with
      | none => rfl
      | some f => exact (h.file f hf).symm
    · cases hr : results.getLast? with
      | none => rfl
      | some r => exact (h.rest r hr).1.symm
    · cases hr : results.getLast? with
      | none => rfl
      | some r => exact (h.rest r hr).2.1.symm
    · cases hr : results.getLast? with
      | none => rfl
      | some r => exact (h.rest r hr).2.2.symm
    · cases hu : (results.filterMap (·.fileUrl)).getLast? with
      | none => rfl
      | some u => exact (h.url u hu).symm

/-- The results say nothing that the entries do not say: each with a file belongs to an entry, and
each entry has what is written over it last. -/
structure Settled (entries : List FetchEntry) (results : List ResolvedResult) : Prop where
  belongs : ∀ f, ¬Homeless entries results f
  carries : ∀ p e, entries[p]? = some e → Carries e (written entries results p)

/-- A merge leaves the entries as they are just if they are settled. -/
theorem mergeResults_eq_self (fresh : Nat → String) {results : List ResolvedResult} :
    (mergeResults entries fresh results).entries = entries ↔ Settled entries results := by
  have hover : overwritten entries results = entries ↔
      ∀ p e, entries[p]? = some e → Carries e (written entries results p) := by
    constructor
    · intro h p e he
      have hp := congrArg (·[p]?) h
      simp only [overwritten, List.getElem?_mapIdx, he, Option.map_some, Option.some.injEq] at hp
      exact foldl_absorb_eq_self.1 hp
    · intro h
      apply List.ext_getElem?
      intro p
      rw [overwritten, List.getElem?_mapIdx]
      cases he : entries[p]? with
      | none => rfl
      | some e => rw [Option.map_some, foldl_absorb_eq_self.2 (h p e he)]
  rcases mergeResults_cases fresh results with ⟨hhome, heq⟩ | ⟨⟨f, hf⟩, hlt⟩
  · rw [heq, hover]
    exact ⟨fun h => ⟨hhome, h⟩, fun h => h.carries⟩
  · constructor
    · intro h
      rw [h] at hlt
      exact absurd hlt (Nat.lt_irrefl _)
    · intro h
      exact absurd hf (h.belongs f)

end Merge

end SensorTasks

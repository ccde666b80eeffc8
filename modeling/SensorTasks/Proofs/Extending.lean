import SensorTasks.Proofs.Merging

/-!
What a merge adds and what it keeps, for any supply of new ids. The entries that were there stay in
their places with their sensors and ids, and new ones come after them, one for each insertion. A
result is written over the entry that it is matched with, by its `dataId` or else by its file, and
touches no other one; what it is written over keeps a file and a URL if it had them. All of this is
told from any point of the merge on, as a result may be matched with an entry that an earlier one
has made or rewritten.
-/

namespace SensorTasks

/-! ### Matching -/

/-- The first entry with a property stands at `p`. -/
def FirstAt (P : FetchEntry → Prop) (entries : List FetchEntry) (p : Nat) : Prop :=
  ∃ e, entries[p]? = some e ∧ P e ∧ ∀ q < p, ∀ a, entries[q]? = some a → ¬P a

/-- The result names the entry at `p`: this is the first one with the `dataId` of the result. -/
def ResolvedResult.Names (r : ResolvedResult) (entries : List FetchEntry) (p : Nat) : Prop :=
  FirstAt (fun e => r.dataId = some e.dataId) entries p

/-- The rule by which results and entries are matched: the entry that the result names, or if it
names none, the first one with its file. -/
inductive ResolvedResult.Matches (r : ResolvedResult) (entries : List FetchEntry) (p : Nat) :
    Prop where
  | byId (h : r.Names entries p)
  | byFile {f : FileId} (hid : ∀ e ∈ entries, r.dataId ≠ some e.dataId) (hf : r.fileId = some f)
    (h : FirstAt (fun e => e.fileId = some f) entries p)

section

variable {entries : List FetchEntry} {r : ResolvedResult} {p : Nat}

theorem findIdx?_eq_some_iff_firstAt {P : FetchEntry → Bool} {Q : FetchEntry → Prop}
    (hPQ : ∀ e, P e = true ↔ Q e) :
    entries.findIdx? P = some p ↔ FirstAt Q entries p := by
  rw [List.findIdx?_eq_some_iff_getElem]
  constructor
  · rintro ⟨hlt, hp, hfirst⟩
    refine ⟨_, List.getElem?_eq_getElem hlt, (hPQ _).1 hp, fun q hq a ha hQ => ?_⟩
    obtain ⟨hq', rfl⟩ := List.getElem?_eq_some_iff.1 ha
    exact hfirst q hq ((hPQ _).2 hQ)
  · rintro ⟨e, he, hQ, hfirst⟩
    obtain ⟨hlt, rfl⟩ := List.getElem?_eq_some_iff.1 he
    exact ⟨hlt, (hPQ _).2 hQ, fun q hq hP =>
      hfirst q hq _ (List.getElem?_eq_getElem (Nat.lt_trans hq hlt)) ((hPQ _).1 hP)⟩

theorem ResolvedResult.entryById?_eq_some :
    r.entryById? entries = some p ↔ r.Names entries p := by
  unfold entryById? Names
  cases hd : r.dataId with
  | none => simp [FirstAt]
  | some d =>
    refine findIdx?_eq_some_iff_firstAt fun e => ?_
    rw [beq_iff_eq, Option.some.injEq]
    exact eq_comm

theorem ResolvedResult.entryById?_eq_none :
    r.entryById? entries = none ↔ ∀ e ∈ entries, r.dataId ≠ some e.dataId := by
  unfold entryById?
  cases hd : r.dataId with
  | none => simp
  | some d =>
    refine List.findIdx?_eq_none_iff.trans (forall₂_congr fun e _ => ?_)
    rw [beq_eq_false_iff_ne, ne_comm, Ne, Ne, Option.some.injEq]

theorem ResolvedResult.entryByFile?_eq_some :
    r.entryByFile? entries = some p ↔
      ∃ f, r.fileId = some f ∧ FirstAt (fun e => e.fileId = some f) entries p := by
  unfold entryByFile?
  cases hf : r.fileId with
  | none => simp
  | some f =>
    simp only [Option.some.injEq, exists_eq_left']
    exact findIdx?_eq_some_iff_firstAt fun e => by simp

/-- Results are matched by the rule. -/
theorem ResolvedResult.action_eq_update :
    r.action entries = .update p ↔ r.Matches entries p := by
  have haction : r.action entries = .update p ↔
      (r.entryById? entries).or (r.entryByFile? entries) = some p := by
    unfold action
    cases (r.entryById? entries).or (r.entryByFile? entries) with
    | none => cases r.fileId <;> simp
    | some q => simp
  rw [haction, Option.or_eq_some_iff, entryById?_eq_some, entryById?_eq_none,
    entryByFile?_eq_some]
  constructor
  · rintro (h | ⟨hid, f, hf, h⟩)
    · exact .byId h
    · exact .byFile hid hf h
  · rintro (h | ⟨hid, hf, h⟩)
    · exact Or.inl h
    · exact Or.inr ⟨hid, _, hf, h⟩

end

/-! ### One result -/

/-- What becomes of an entry: it keeps its sensor and its id, and a file and a URL if it had one. -/
structure FetchEntry.Becomes (e e' : FetchEntry) : Prop where
  label : e'.label = e.label
  file : e.fileId ≠ none → e'.fileId ≠ none
  url : e.fileUrl ≠ none → e'.fileUrl ≠ none

namespace FetchEntry

theorem Becomes.refl (e : FetchEntry) : e.Becomes e := ⟨rfl, id, id⟩

theorem Becomes.trans {e e' e'' : FetchEntry} (h : e.Becomes e') (h' : e'.Becomes e'') :
    e.Becomes e'' :=
  ⟨h'.label.trans h.label, fun hf => h'.file (h.file hf), fun hu => h'.url (h.url hu)⟩

theorem becomes_absorb (e : FetchEntry) (r : ResolvedResult) : e.Becomes (e.absorb r) where
  label := rfl
  file hf := by simp [absorb, Option.or_eq_none_iff, hf]
  url hu := by simp [absorb, Option.or_eq_none_iff, hu]

end FetchEntry

namespace Merge

variable {entries : List FetchEntry} {fresh : Nat → String} {m : Merge} {r : ResolvedResult}
  {p : Nat}

/-- What one result does to an entry. -/
theorem step_entry (fresh : Nat → String) (r : ResolvedResult) {e : FetchEntry}
    (he : m.entries[p]? = some e) :
    ∃ e', (step fresh m r).entries[p]? = some e' ∧ e.Becomes e' ∧
      (¬r.Matches m.entries p → e' = e) := by
  rw [← ResolvedResult.action_eq_update]
  unfold step
  cases r.action m.entries with
  | update q =>
    by_cases hq : q = p
    · subst hq
      exact ⟨e.absorb r, by simp [he], e.becomes_absorb r, fun hno => absurd rfl hno⟩
    · exact ⟨e, by simp [he, hq], .refl e, fun _ => rfl⟩
  | insert f =>
    have hlt := (List.getElem?_eq_some_iff.1 he).1
    exact ⟨e, by simp [List.getElem?_append_left hlt, he], .refl e, fun _ => rfl⟩
  | skip => exact ⟨e, he, .refl e, fun _ => rfl⟩

/-- Every result is counted once. -/
theorem step_count (fresh : Nat → String) (m : Merge) (r : ResolvedResult) :
    (step fresh m r).updated + (step fresh m r).inserted + (step fresh m r).skipped =
      m.updated + m.inserted + m.skipped + 1 := by
  unfold step
  cases r.action m.entries <;> dsimp only <;> omega

/-- Entries that come after the first `n` have a file, if they had one before the result came. -/
theorem step_files (fresh : Nat → String) (r : ResolvedResult) {n : Nat}
    (h : ∀ p e, n ≤ p → m.entries[p]? = some e → e.fileId ≠ none) :
    ∀ p e, n ≤ p → (step fresh m r).entries[p]? = some e → e.fileId ≠ none := by
  intro p e hp he
  cases hold : m.entries[p]? with
  | some a =>
    obtain ⟨e', he', hbecomes, -⟩ := step_entry fresh r hold
    obtain rfl := Option.some.inj (he.symm.trans he')
    exact hbecomes.file (h p a hp hold)
  | none =>
    -- the entry is the one that the result has made
    rw [List.getElem?_eq_none_iff] at hold
    unfold step at he
    cases haction : r.action m.entries with
    | update q => simp [haction, Nat.not_lt.2 hold] at he
    | insert f =>
      rw [haction] at he
      dsimp only at he
      rw [List.getElem?_append_right hold] at he
      obtain rfl := List.mem_singleton.1 (List.mem_of_getElem? he)
      exact Option.some_ne_none f
    | skip => simp [haction, Nat.not_lt.2 hold] at he

/-! ### All results -/

/-- One of the results that come after `done` is matched with the entry at `p`. -/
def Matched (entries : List FetchEntry) (fresh : Nat → String)
    (done rest : List ResolvedResult) (p : Nat) : Prop :=
  ∃ before r after, rest = before ++ r :: after ∧
    r.Matches (mergeResults entries fresh (done ++ before)).entries p

/-- What the results that come after `done` do to an entry. -/
theorem run_entry (done rest : List ResolvedResult) {e : FetchEntry}
    (he : (mergeResults entries fresh done).entries[p]? = some e) :
    ∃ e', (mergeResults entries fresh (done ++ rest)).entries[p]? = some e' ∧ e.Becomes e' ∧
      (¬Matched entries fresh done rest p → e' = e) := by
  induction rest using List.reverseRecOn with
  | nil => exact ⟨e, by rwa [List.append_nil], .refl e, fun _ => rfl⟩
  | append_singleton rest r ih =>
    obtain ⟨e₁, he₁, hbecomes₁, hsame₁⟩ := ih
    obtain ⟨e₂, he₂, hbecomes₂, hsame₂⟩ := step_entry fresh r he₁
    refine ⟨e₂, by rwa [← List.append_assoc, mergeResults_concat], hbecomes₁.trans hbecomes₂,
      fun hno => ?_⟩
    have hlast : ¬r.Matches (mergeResults entries fresh (done ++ rest)).entries p :=
      fun hr => hno ⟨rest, r, [], rfl, hr⟩
    have hearlier : ¬Matched entries fresh done rest p := by
      rintro ⟨before, a, after, rfl, ha⟩
      exact hno ⟨before, a, after ++ [r], by simp, ha⟩
    rw [hsame₂ hlast, hsame₁ hearlier]

theorem run_count (entries : List FetchEntry) (fresh : Nat → String)
    (results : List ResolvedResult) :
    (mergeResults entries fresh results).updated + (mergeResults entries fresh results).inserted +
      (mergeResults entries fresh results).skipped = results.length := by
  induction results using List.reverseRecOn with
  | nil => rfl
  | append_singleton results r ih =>
    rw [mergeResults_concat, step_count, ih, List.length_append, List.length_singleton]

theorem run_files (entries : List FetchEntry) (fresh : Nat → String)
    (results : List ResolvedResult) :
    ∀ p e, entries.length ≤ p → (mergeResults entries fresh results).entries[p]? = some e →
      e.fileId ≠ none := by
  induction results using List.reverseRecOn with
  | nil =>
    intro p e hp he
    have hnone : entries[p]? = none := List.getElem?_eq_none hp
    exact absurd (hnone.symm.trans he) (by simp)
  | append_singleton results r ih =>
    rw [mergeResults_concat]
    exact step_files fresh r ih

/-- The ids after a merge are those that were there and, in turn, new ones. -/
theorem dataIds_mergeResults (entries : List FetchEntry) (fresh : Nat → String)
    (results : List ResolvedResult) :
    (mergeResults entries fresh results).entries.map (·.dataId) = entries.map (·.dataId) ++
      (List.range (mergeResults entries fresh results).inserted).map fresh := by
  obtain ⟨added, hlabels, hids, -⟩ := labels_mergeResults entries fresh results
  have hnames := congrArg (List.map (·.2)) hlabels
  rwa [List.map_append, hids, List.map_map, List.map_map] at hnames

/-- The merge of results into entries has kept these, and added to them. -/
structure Extends (entries : List FetchEntry) (fresh : Nat → String)
    (results : List ResolvedResult) (m : Merge) : Prop where
  /-- First come the entries that were there, with their sensors and ids. -/
  kept : (m.entries.take entries.length).map FetchEntry.label = entries.map FetchEntry.label
  /-- Then come the new ones, with the new ids in turn. -/
  added : (m.entries.drop entries.length).map (·.dataId) = (List.range m.inserted).map fresh
  filed : ∀ e ∈ m.entries.drop entries.length, e.fileId ≠ none
  counted : m.updated + m.inserted + m.skipped = results.length
  becomes : ∀ done rest p e, results = done ++ rest →
    (mergeResults entries fresh done).entries[p]? = some e →
      ∃ e', m.entries[p]? = some e' ∧ e.Becomes e' ∧
        (¬Matched entries fresh done rest p → e' = e)
  unchanged : m.updated = 0 → m.inserted = 0 → m.entries = entries
  distinct : (m.entries.map (·.dataId)).Nodup ↔
    (entries.map (·.dataId)).Nodup ∧ ((List.range m.inserted).map fresh).Nodup ∧
      ∀ i < m.inserted, fresh i ∉ entries.map (·.dataId)

/-- Every merge extends the entries that it begins with, whatever the results are and wherever new
ids come from. -/
theorem merge_extends (entries : List FetchEntry) (fresh : Nat → String)
    (results : List ResolvedResult) :
    Extends entries fresh results (mergeResults entries fresh results) := by
  obtain ⟨added, hlabels, -, -⟩ := labels_mergeResults entries fresh results
  have hlen : (entries.map FetchEntry.label).length = entries.length := List.length_map _
  have hids := dataIds_mergeResults entries fresh results
  refine
    { kept := by rw [List.map_take, hlabels, List.take_left' hlen]
      added := by rw [List.map_drop, hids, List.drop_left' (List.length_map _)]
      filed := fun e he => ?_
      counted := run_count entries fresh results
      becomes := fun done rest p e hsplit he => by
        rw [hsplit]
        exact run_entry done rest he
      unchanged := fun hupdated hinserted => entries_of_not_changed fresh (by
        rw [changed, hupdated, hinserted]
        rfl)
      distinct := ?_ }
  · obtain ⟨i, hi⟩ := List.mem_iff_getElem?.1 he
    rw [List.getElem?_drop] at hi
    exact run_files entries fresh results _ e (Nat.le_add_right _ i) hi
  · rw [hids, List.nodup_append]
    refine and_congr_right fun _ => and_congr_right fun _ => ?_
    simp only [List.mem_map, List.mem_range]
    constructor
    · rintro hne i hi ⟨e, he, heq⟩
      exact hne _ ⟨e, he, rfl⟩ _ ⟨i, hi, rfl⟩ heq
    · rintro hno a ⟨e, he, rfl⟩ b ⟨i, hi, rfl⟩ heq
      exact hno i hi ⟨e, he, heq⟩

end Merge

end SensorTasks

import Mathlib.Data.List.Nodup
import SensorTasks.Proofs.Extending

/-!
Which results of a merge are lost. The file of a result comes into the entry that the result names,
or stays in the entries that have it, or comes into a new entry. From there it only goes when a
later result names the entry and brings another file. This is how two results of one merge get into
each other's way: one that is matched by its file is written over an entry that another one names.
-/

namespace SensorTasks

/-! ### Names -/

namespace ResolvedResult

variable {entries : List FetchEntry} {r : ResolvedResult} {p : Nat}

/-- Which entry a result names is told by the ids of the entries up to this one. -/
theorem names_iff : r.Names entries p ↔
    ∃ d, r.dataId = some d ∧ (entries.map (·.dataId))[p]? = some d ∧
      ∀ q < p, (entries.map (·.dataId))[q]? ≠ some d := by
  simp only [List.getElem?_map, Option.map_eq_some_iff, ne_eq]
  constructor
  · rintro ⟨e, he, hd, hfirst⟩
    refine ⟨e.dataId, hd, ⟨e, he, rfl⟩, ?_⟩
    rintro q hq ⟨a, ha, heq⟩
    exact hfirst q hq a ha (hd.trans (congrArg some heq.symm))
  · rintro ⟨-, hd, ⟨e, he, rfl⟩, hfirst⟩
    exact ⟨e, he, hd, fun q hq a ha hda =>
      hfirst q hq ⟨a, ha, Option.some.inj (hda.symm.trans hd)⟩⟩

theorem Names.dataId_eq (h : r.Names entries p) {e : FetchEntry} (he : entries[p]? = some e) :
    r.dataId = some e.dataId := by
  obtain ⟨a, ha, hd, -⟩ := h
  rwa [Option.some.inj (he.symm.trans ha)]

theorem Names.lt_length (h : r.Names entries p) : p < entries.length := by
  obtain ⟨e, he, -⟩ := h
  exact (List.getElem?_eq_some_iff.1 he).1

theorem Names.unique {q : Nat} (hp : r.Names entries p) (hq : r.Names entries q) : p = q := by
  rw [← entryById?_eq_some] at hp hq
  exact Option.some.inj (hp.symm.trans hq)

/-- Where the ids are distinct, a result names each entry that has its id. -/
theorem names_of_nodup (hids : (entries.map (·.dataId)).Nodup) {e : FetchEntry}
    (he : entries[p]? = some e) (hd : r.dataId = some e.dataId) : r.Names entries p := by
  refine ⟨e, he, hd, fun q hq a ha hda => Nat.ne_of_lt hq ?_⟩
  have hlt : q < (entries.map (·.dataId)).length := by
    rw [List.length_map]
    exact (List.getElem?_eq_some_iff.1 ha).1
  refine (List.getElem?_inj hlt hids).1 ?_
  rw [List.getElem?_map, List.getElem?_map, ha, he, Option.map_some, Option.map_some, ← hd, hda]

end ResolvedResult

namespace Merge

variable {entries : List FetchEntry} {fresh : Nat → String} {m : Merge} {r : ResolvedResult}
  {done rest results : List ResolvedResult} {p : Nat} {f : FileId}

/-- Names of entries that are there are not changed by results. -/
theorem names_run (hp : p < (mergeResults entries fresh done).entries.length) :
    r.Names (mergeResults entries fresh (done ++ rest)).entries p ↔
      r.Names (mergeResults entries fresh done).entries p := by
  have hsame : ∀ q ≤ p,
      ((mergeResults entries fresh (done ++ rest)).entries.map (·.dataId))[q]? =
        ((mergeResults entries fresh done).entries.map (·.dataId))[q]? := by
    intro q hq
    have he := List.getElem?_eq_getElem (Nat.lt_of_le_of_lt hq hp)
    obtain ⟨e', he', hbecomes, -⟩ := run_entry done rest he
    rw [List.getElem?_map, List.getElem?_map, he, he', Option.map_some, Option.map_some]
    exact congrArg (some ·.2) hbecomes.label
  rw [ResolvedResult.names_iff, ResolvedResult.names_iff, hsame p (Nat.le_refl p)]
  refine exists_congr fun d => and_congr_right fun _ => and_congr_right fun _ =>
    forall₂_congr fun q hq => ?_
  rw [hsame q (Nat.le_of_lt hq)]

/-! ### Files -/

/-- The entry at `p` has the file. -/
def Holds (entries : List FetchEntry) (p : Nat) (f : FileId) : Prop :=
  ∃ e, entries[p]? = some e ∧ e.fileId = some f

theorem holds_iff : Holds entries p f ↔ (entries.map (·.fileId))[p]? = some (some f) := by
  simp [Holds]

theorem Holds.lt_length (h : Holds entries p f) : p < entries.length := by
  obtain ⟨e, he, -⟩ := h
  exact (List.getElem?_eq_some_iff.1 he).1

theorem entryByFile?_eq_none : r.entryByFile? entries = none ↔
    ∀ f, r.fileId = some f → ∀ p, ¬Holds entries p f := by
  unfold ResolvedResult.entryByFile?
  cases hf : r.fileId with
  | none => simp
  | some f =>
    simp only [List.findIdx?_eq_none_iff, beq_eq_false_iff_ne, Option.some.injEq, forall_eq',
      Holds, not_exists, not_and]
    constructor
    · exact fun h p e he => h e (List.mem_of_getElem? he)
    · intro h e he
      obtain ⟨p, hp⟩ := List.mem_iff_getElem?.1 he
      exact h p e hp

theorem exists_holds : (∃ e ∈ entries, e.fileId = some f) ↔ ∃ p, Holds entries p f := by
  constructor
  · rintro ⟨e, he, hheld⟩
    obtain ⟨p, hp⟩ := List.mem_iff_getElem?.1 he
    exact ⟨p, e, hp, hheld⟩
  · rintro ⟨p, e, he, hheld⟩
    exact ⟨e, List.mem_of_getElem? he, hheld⟩

/-- What a result may do to the files of the entries: it brings its file to the entry that it names;
or it names none, and its file, if it has one, is there or comes into a new entry. -/
inductive FilesAfter (r : ResolvedResult) (entries entries' : List FetchEntry) : Prop where
  | named {p : Nat} (hid : r.Names entries p)
    (hfiles : entries'.map (·.fileId) = (entries.map (·.fileId)).modify p r.fileId.or)
  | kept (hid : ∀ p, ¬r.Names entries p)
    (hfound : ∀ f, r.fileId = some f → ∃ p, Holds entries p f)
    (hfiles : entries'.map (·.fileId) = entries.map (·.fileId))
  | added {f : FileId} (hid : ∀ p, ¬r.Names entries p) (hf : r.fileId = some f)
    (hno : ∀ p, ¬Holds entries p f)
    (hfiles : entries'.map (·.fileId) = entries.map (·.fileId) ++ [some f])

theorem filesAfter_step (fresh : Nat → String) (m : Merge) (r : ResolvedResult) :
    FilesAfter r m.entries (step fresh m r).entries := by
  have hunnamed (h : r.entryById? m.entries = none) : ∀ p, ¬r.Names m.entries p := by
    intro p hp
    rw [← ResolvedResult.entryById?_eq_some, h] at hp
    cases hp
  unfold step ResolvedResult.action
  cases hid : r.entryById? m.entries with
  | some p =>
    refine .named (ResolvedResult.entryById?_eq_some.1 hid) (List.ext_getElem? fun q => ?_)
    by_cases hpq : p = q <;> simp [hpq, FetchEntry.absorb, Option.map_map, Function.comp_def]
  | none =>
    rw [Option.none_or]
    cases hfile : r.entryByFile? m.entries with
    | some p =>
      -- found by its file, which the entry holds already
      obtain ⟨f, hf, e, he, hheld, -⟩ := ResolvedResult.entryByFile?_eq_some.1 hfile
      refine .kept (hunnamed hid) (fun g hg => ⟨p, e, he, hheld.trans (hf.symm.trans hg)⟩) ?_
      refine map_modify fun a ha => ?_
      rw [FetchEntry.absorb, hf, Option.some_or, ← hheld, Option.some.inj (ha.symm.trans he)]
    | none =>
      cases hf : r.fileId with
      | none => exact .kept (hunnamed hid) (fun g hg => by simp [hf] at hg) rfl
      | some f =>
        exact .added (hunnamed hid) hf (entryByFile?_eq_none.1 hfile f hf) List.map_append

/-- A result that brings another file takes a file away just from the entry that it names. -/
theorem holds_step_of_ne (hne : r.fileId ≠ some f) :
    Holds (step fresh m r).entries p f ↔
      Holds m.entries p f ∧ (r.Names m.entries p → r.fileId = none) := by
  rw [holds_iff, holds_iff]
  cases filesAfter_step fresh m r with
  | @named q hid hfiles =>
    have hnames : r.Names m.entries p ↔ q = p := ⟨hid.unique, fun hq => hq ▸ hid⟩
    rw [hfiles, hnames, List.getElem?_modify]
    by_cases hpq : q = p
    · subst hpq
      simp only [↓reduceIte, Option.map_eq_map, Option.map_eq_some_iff, Option.or_eq_some_iff,
        hne, false_or, true_implies]
      constructor
      · rintro ⟨g, hg, hnone, rfl⟩
        exact ⟨hg, hnone⟩
      · rintro ⟨hg, hnone⟩
        exact ⟨_, hg, hnone, rfl⟩
    · simp [hpq]
  | kept hid _ hfiles => simp [hfiles, hid]
  | @added g hid hf hno hfiles =>
    have hgf : g ≠ f := fun h => hne (hf.trans (congrArg some h))
    simp only [hfiles, hid, false_implies, and_true, List.getElem?_append]
    split
    · rfl
    · rename_i hle
      rw [List.getElem?_singleton, List.getElem?_eq_none (Nat.not_lt.1 hle)]
      split <;> simp [hgf]

theorem holds_step_of_names (hid : r.Names m.entries p) (hf : r.fileId = some f) :
    Holds (step fresh m r).entries p f := by
  rw [holds_iff]
  cases filesAfter_step fresh m r with
  | named hid' hfiles =>
    obtain rfl := hid'.unique hid
    have hlt := hid.lt_length
    simp [hfiles, hf, hlt]
  | kept hno => exact absurd hid (hno p)
  | added hno => exact absurd hid (hno p)

section

variable (hid : ∀ q, ¬r.Names m.entries q) (hf : r.fileId = some f)

include hid hf

/-- A result that names no entry leaves its file where it is, if it is anywhere. -/
theorem holds_step_of_unnamed {q : Nat} (hq : Holds m.entries q f) :
    Holds (step fresh m r).entries p f ↔ Holds m.entries p f := by
  rw [holds_iff, holds_iff]
  cases filesAfter_step fresh m r with
  | @named q hid' => exact absurd hid' (hid q)
  | kept _ _ hfiles => rw [hfiles]
  | added _ hg hno =>
    obtain rfl := Option.some.inj (hf.symm.trans hg)
    exact absurd hq (hno q)

/-- Otherwise the file comes into a new entry. -/
theorem holds_step_of_new (hno : ∀ q, ¬Holds m.entries q f) :
    Holds (step fresh m r).entries m.entries.length f := by
  rw [holds_iff]
  cases filesAfter_step fresh m r with
  | @named q hid' => exact absurd hid' (hid q)
  | kept _ hfound =>
    obtain ⟨q, hq⟩ := hfound f hf
    exact absurd hq (hno q)
  | added _ hg _ hfiles =>
    obtain rfl := Option.some.inj (hf.symm.trans hg)
    simp [hfiles]

end

/-- Where a file is that none of the results brings: in the entries that have it and are not named
by a result with another file. -/
theorem holds_run (hrest : ∀ a ∈ rest, a.fileId ≠ some f) :
    Holds (mergeResults entries fresh (done ++ rest)).entries p f ↔
      Holds (mergeResults entries fresh done).entries p f ∧
        ∀ a ∈ rest, a.Names (mergeResults entries fresh done).entries p → a.fileId = none := by
  induction rest using List.reverseRecOn with
  | nil => simp
  | append_singleton rest r ih =>
    rw [← List.append_assoc, mergeResults_concat, holds_step_of_ne (hrest r (by simp)),
      ih fun a ha => hrest a (List.mem_append_left _ ha), and_assoc]
    refine and_congr_right fun hheld => ?_
    rw [names_run hheld.lt_length, List.forall_mem_append, List.forall_mem_singleton]

/-! ### Results that are lost -/

/-- Each entry with the file is named by one of the results, which brings another file. -/
def Replaced (entries : List FetchEntry) (rest : List ResolvedResult) (f : FileId) : Prop :=
  ∀ p, Holds entries p f → ∃ a ∈ rest, a.Names entries p ∧ a.fileId ≠ none

/-- Once the result has come, later ones take its file from each entry. -/
def Ousted (entries : List FetchEntry) (fresh : Nat → String) (results : List ResolvedResult)
    (r : ResolvedResult) (f : FileId) : Prop :=
  ∃ done rest, results = done ++ r :: rest ∧
    Replaced (mergeResults entries fresh (done ++ [r])).entries rest f

/-- What comes to the same if no result names a new entry, told from what is there before the
merge: the result names no entry, its file is still in one when it comes, and each entry that has
the file at first is named by some result with a file. -/
structure Displaced (entries : List FetchEntry) (results : List ResolvedResult)
    (r : ResolvedResult) (f : FileId) : Prop where
  unnamed : ∀ e ∈ entries, r.dataId ≠ some e.dataId
  found : ∃ done rest, results = done ++ r :: rest ∧ ∃ e ∈ entries, e.fileId = some f ∧
    ∀ a ∈ done, a.dataId = some e.dataId → a.fileId = none
  named : ∀ e ∈ entries, e.fileId = some f →
    ∃ a ∈ results, a.dataId = some e.dataId ∧ a.fileId ≠ none

/-- What one result has and no other one. -/
theorem ne_of_nodup_filterMap {β : Type} {part : ResolvedResult → Option β} {b : β}
    (h : ((done ++ r :: rest).filterMap part).Nodup) (hr : part r = some b) :
    ∀ a ∈ done ++ rest, part a ≠ some b := by
  intro a ha hab
  rw [List.filterMap_append, List.filterMap_cons_some hr, List.nodup_middle,
    List.nodup_cons, ← List.filterMap_append] at h
  exact h.1 (List.mem_filterMap.2 ⟨a, ha, hab⟩)

/-- A result without the id of an entry or a new id names nothing. -/
theorem not_names (hr : ∀ e ∈ entries, r.dataId ≠ some e.dataId)
    (hfresh : ∀ i, r.dataId ≠ some (fresh i)) (p : Nat) :
    ¬r.Names (mergeResults entries fresh done).entries p := by
  rintro ⟨e, he, hd, -⟩
  have hmem : e.dataId ∈ (mergeResults entries fresh done).entries.map (·.dataId) :=
    List.mem_map_of_mem (List.mem_of_getElem? he)
  rw [dataIds_mergeResults, List.mem_append, List.mem_map, List.mem_map] at hmem
  rcases hmem with ⟨a, ha, heq⟩ | ⟨i, -, heq⟩
  · exact hr a ha (hd.trans (congrArg some heq.symm))
  · exact hfresh i (hd.trans (congrArg some heq.symm))

/-- The file of a result is kept just if later ones do not take it from each entry. -/
theorem held_iff (hfiles : ((done ++ r :: rest).filterMap (·.fileId)).Nodup)
    (hf : r.fileId = some f) :
    (∃ e ∈ (mergeResults entries fresh (done ++ r :: rest)).entries, e.fileId = some f) ↔
      ¬Replaced (mergeResults entries fresh (done ++ [r])).entries rest f := by
  have hrest : ∀ a ∈ rest, a.fileId ≠ some f :=
    fun a ha => ne_of_nodup_filterMap hfiles hf a (List.mem_append_right _ ha)
  have hsplit : done ++ r :: rest = (done ++ [r]) ++ rest := by simp
  rw [exists_holds, hsplit, Replaced]
  simp only [holds_run hrest]
  push Not
  rfl

theorem held_iff_not_ousted (hfiles : (results.filterMap (·.fileId)).Nodup) (hr : r ∈ results)
    (hf : r.fileId = some f) :
    (∃ e ∈ (mergeResults entries fresh results).entries, e.fileId = some f) ↔
      ¬Ousted entries fresh results r f := by
  constructor
  · rintro hheld ⟨done, rest, rfl, hall⟩
    exact (held_iff hfiles hf).1 hheld hall
  · intro hno
    obtain ⟨done, rest, rfl⟩ := List.append_of_mem hr
    exact (held_iff hfiles hf).2 fun hall => hno ⟨done, rest, rfl, hall⟩

/-- An entry that was there is named by the results that have its id. -/
theorem names_old (hids : (entries.map (·.dataId)).Nodup) {e : FetchEntry}
    (he : entries[p]? = some e) :
    r.Names (mergeResults entries fresh done).entries p ↔ r.dataId = some e.dataId := by
  have hrun := @names_run entries fresh r [] done p (List.getElem?_eq_some_iff.1 he).1
  rw [List.nil_append] at hrun
  rw [hrun]
  exact ⟨fun h => h.dataId_eq he, ResolvedResult.names_of_nodup hids he⟩

/-- A file that no result has come with is where it was, in the entries that have not been given
another one. -/
theorem holds_old (hids : (entries.map (·.dataId)).Nodup) (hdone : ∀ a ∈ done, a.fileId ≠ some f) :
    Holds (mergeResults entries fresh done).entries p f ↔
      ∃ e, entries[p]? = some e ∧ e.fileId = some f ∧
        ∀ a ∈ done, a.dataId = some e.dataId → a.fileId = none := by
  have hrun := @holds_run entries fresh [] done p f hdone
  rw [List.nil_append] at hrun
  rw [hrun]
  constructor
  · rintro ⟨⟨e, he, hheld⟩, hkept⟩
    exact ⟨e, he, hheld, fun a ha hd => hkept a ha (ResolvedResult.names_of_nodup hids he hd)⟩
  · rintro ⟨e, he, hheld, hkept⟩
    exact ⟨⟨e, he, hheld⟩, fun a ha hname => hkept a ha (hname.dataId_eq he)⟩

/-- A result that names an entry is not ousted. -/
theorem unnamed_of_replaced (hids : (entries.map (·.dataId)).Nodup)
    (hnames : ((done ++ r :: rest).filterMap (·.dataId)).Nodup) (hf : r.fileId = some f)
    (hall : Replaced (mergeResults entries fresh (done ++ [r])).entries rest f) :
    ∀ e ∈ entries, r.dataId ≠ some e.dataId := by
  intro e he hd
  obtain ⟨p, hp⟩ := List.mem_iff_getElem?.1 he
  have hheld : Holds (mergeResults entries fresh (done ++ [r])).entries p f := by
    rw [mergeResults_concat]
    exact holds_step_of_names ((names_old hids hp).2 hd) hf
  obtain ⟨a, ha, hname, -⟩ := hall p hheld
  rw [names_old hids hp] at hname
  exact ne_of_nodup_filterMap hnames hd a (List.mem_append_right _ ha) hname

/-- A result that comes into a new entry is not ousted if no result has the id of this. -/
theorem found_of_replaced (hf : r.fileId = some f)
    (hfresh : ∀ a ∈ rest, ∀ i, a.dataId ≠ some (fresh i))
    (hno : ∀ q, ¬r.Names (mergeResults entries fresh done).entries q)
    (hall : Replaced (mergeResults entries fresh (done ++ [r])).entries rest f) :
    ∃ q, Holds (mergeResults entries fresh done).entries q f := by
  by_contra hnone
  rw [not_exists] at hnone
  have hnew : Holds (mergeResults entries fresh (done ++ [r])).entries
      (mergeResults entries fresh done).entries.length f := by
    rw [mergeResults_concat]
    exact holds_step_of_new hno hf hnone
  obtain ⟨a, ha, hname, -⟩ := hall _ hnew
  obtain ⟨d, hd, hat, -⟩ := ResolvedResult.names_iff.1 hname
  have hle : (entries.map (·.dataId)).length ≤
      (mergeResults entries fresh done).entries.length := by
    have hlen := congrArg List.length (dataIds_mergeResults entries fresh done)
    rw [List.length_append, List.length_map] at hlen
    omega
  rw [dataIds_mergeResults, List.getElem?_append_right hle] at hat
  obtain ⟨i, -, rfl⟩ := List.mem_map.1 (List.mem_of_getElem? hat)
  exact hfresh a ha i hd

section

variable (hids : (entries.map (·.dataId)).Nodup)
  (hfiles : ((done ++ r :: rest).filterMap (·.fileId)).Nodup) (hf : r.fileId = some f)
  (hno : ∀ q, ¬r.Names (mergeResults entries fresh done).entries q)

include hids hfiles hf

/-- Where the file of a result is that is first to bring it. -/
theorem holds_before : Holds (mergeResults entries fresh done).entries p f ↔
    ∃ e, entries[p]? = some e ∧ e.fileId = some f ∧
      ∀ a ∈ done, a.dataId = some e.dataId → a.fileId = none :=
  holds_old hids fun a ha => ne_of_nodup_filterMap hfiles hf a (List.mem_append_left _ ha)

include hno

/-- A result that names no entry, and whose file is in some entry, leaves it where it is. -/
theorem holds_after {q : Nat} (hq : Holds (mergeResults entries fresh done).entries q f) :
    Holds (mergeResults entries fresh (done ++ [r])).entries p f ↔
      ∃ e, entries[p]? = some e ∧ e.fileId = some f ∧
        ∀ a ∈ done, a.dataId = some e.dataId → a.fileId = none := by
  rw [mergeResults_concat, holds_step_of_unnamed hno hf hq, holds_before hids hfiles hf]

theorem named_of_replaced {q : Nat} (hq : Holds (mergeResults entries fresh done).entries q f)
    (hall : Replaced (mergeResults entries fresh (done ++ [r])).entries rest f) :
    ∀ e ∈ entries, e.fileId = some f →
      ∃ a ∈ done ++ r :: rest, a.dataId = some e.dataId ∧ a.fileId ≠ none := by
  intro e he hheld
  by_contra hkept
  push Not at hkept
  obtain ⟨p, hp⟩ := List.mem_iff_getElem?.1 he
  have hstill : Holds (mergeResults entries fresh (done ++ [r])).entries p f :=
    (holds_after hids hfiles hf hno hq).2 ⟨e, hp, hheld, fun a ha => hkept a (by simp [ha])⟩
  obtain ⟨a, ha, hname, hne⟩ := hall p hstill
  exact hne (hkept a (by simp [ha]) ((names_old hids hp).1 hname))

theorem replaced_of_named {q : Nat} (hq : Holds (mergeResults entries fresh done).entries q f)
    (hunnamed : ∀ e ∈ entries, r.dataId ≠ some e.dataId)
    (hnamed : ∀ e ∈ entries, e.fileId = some f →
      ∃ a ∈ done ++ r :: rest, a.dataId = some e.dataId ∧ a.fileId ≠ none) :
    Replaced (mergeResults entries fresh (done ++ [r])).entries rest f := by
  intro p hp
  obtain ⟨e, he, hheld, hkept⟩ := (holds_after hids hfiles hf hno hq).1 hp
  have hmem := List.mem_of_getElem? he
  obtain ⟨a, ha, hd, hne⟩ := hnamed e hmem hheld
  -- neither an earlier result nor this one names the entry and brings a file
  rcases List.mem_append.1 ha with ha | ha
  · exact absurd (hkept a ha hd) hne
  · rcases List.mem_cons.1 ha with rfl | ha
    · exact absurd hd (hunnamed e hmem)
    · exact ⟨a, ha, (names_old hids he).2 hd, hne⟩

end

theorem ousted_iff_displaced (hids : (entries.map (·.dataId)).Nodup)
    (hnames : (results.filterMap (·.dataId)).Nodup)
    (hfiles : (results.filterMap (·.fileId)).Nodup)
    (hfresh : ∀ a ∈ results, ∀ i, a.dataId ≠ some (fresh i)) (hr : r ∈ results)
    (hf : r.fileId = some f) :
    Ousted entries fresh results r f ↔ Displaced entries results r f := by
  constructor
  · rintro ⟨done, rest, rfl, hall⟩
    have hunnamed := unnamed_of_replaced hids hnames hf hall
    have hno : ∀ q, ¬r.Names (mergeResults entries fresh done).entries q :=
      not_names hunnamed (hfresh r hr)
    obtain ⟨q, hq⟩ := found_of_replaced hf (fun a ha => hfresh a (by simp [ha])) hno hall
    obtain ⟨e, he, hheld, hkept⟩ := (holds_before hids hfiles hf).1 hq
    exact ⟨hunnamed, ⟨done, rest, rfl, e, List.mem_of_getElem? he, hheld, hkept⟩,
      named_of_replaced hids hfiles hf hno hq hall⟩
  · rintro ⟨hunnamed, ⟨done, rest, rfl, e, he, hheld, hkept⟩, hnamed⟩
    have hno : ∀ q, ¬r.Names (mergeResults entries fresh done).entries q :=
      not_names hunnamed (hfresh r hr)
    obtain ⟨p, hp⟩ := List.mem_iff_getElem?.1 he
    have hq : Holds (mergeResults entries fresh done).entries p f :=
      (holds_before hids hfiles hf).2 ⟨e, hp, hheld, hkept⟩
    exact ⟨done, rest, rfl, replaced_of_named hids hfiles hf hno hq hunnamed hnamed⟩

/-- Where neither the ids of the entries repeat nor those of the results nor their files, a merge
keeps the file of every result that is not ousted, and of no other one. Which these are is told by
what is there before, if no result has the id of a new entry. -/
theorem file_kept_iff (hids : (entries.map (·.dataId)).Nodup)
    (hnames : (results.filterMap (·.dataId)).Nodup)
    (hfiles : (results.filterMap (·.fileId)).Nodup) :
    (∀ r ∈ results, ∀ f, r.fileId = some f →
      ((∃ e ∈ (mergeResults entries fresh results).entries, e.fileId = some f) ↔
        ¬Ousted entries fresh results r f)) ∧
    ((∀ r ∈ results, ∀ i, r.dataId ≠ some (fresh i)) → ∀ r ∈ results, ∀ f, r.fileId = some f →
      (Ousted entries fresh results r f ↔ Displaced entries results r f)) :=
  ⟨fun _ hr _ hf => held_iff_not_ousted hfiles hr hf,
    fun hfresh _ hr _ hf => ousted_iff_displaced hids hnames hfiles hfresh hr hf⟩

namespace Sample

def newId (i : Nat) : String := "generated-" ++ toString (i + 1)

def filed (dataId : String) (file : FileId) : FetchEntry :=
  ⟨"s1", dataId, some file, none, none, none, none⟩

def result (dataId : Option String) (file : FileId) : ResolvedResult :=
  ⟨"s1", dataId, some file, file ++ ".csv", "b", "p/" ++ file ++ ".csv", none⟩

theorem not_newId (i : Nat) : "d1" ≠ newId i := by
  intro h
  have hfirst := congrArg (·.toList.head?) h
  simp [newId] at hfirst

/-- No result has a new id if they have no other id than one that is there. -/
theorem unused {results : List ResolvedResult}
    (h : ∀ r ∈ results, r.dataId = none ∨ r.dataId = some "d1") :
    ∀ r ∈ results, ∀ i, r.dataId ≠ some (newId i) := by
  intro r hr i heq
  rcases h r hr with hd | hd <;> rw [hd] at heq
  · cases heq
  · exact not_newId i (Option.some.inj heq)

end Sample

/-- A result that is matched by its file is written over the entry that the next one names. -/
theorem unnamed_ousted :
    let entries := [Sample.filed "d1" "f1"]
    let results := [Sample.result none "f1", Sample.result (some "d1") "f2"]
    (entries.map (·.dataId)).Nodup ∧ (results.filterMap (·.dataId)).Nodup ∧
      (results.filterMap (·.fileId)).Nodup ∧
      (∀ r ∈ results, ∀ i, r.dataId ≠ some (Sample.newId i)) ∧
      ∃ r ∈ results, ∃ f, r.fileId = some f ∧
        ¬∃ e ∈ (mergeResults entries Sample.newId results).entries, e.fileId = some f :=
  ⟨by decide, by decide, by decide, Sample.unused (by decide), Sample.result none "f1", by decide,
    "f1", rfl, by decide⟩

/-- The same results in the other order keep both files. -/
theorem kept_in_other_order :
    let entries := [Sample.filed "d1" "f1"]
    let results := [Sample.result (some "d1") "f2", Sample.result none "f1"]
    (entries.map (·.dataId)).Nodup ∧ (results.filterMap (·.dataId)).Nodup ∧
      (results.filterMap (·.fileId)).Nodup ∧
      (∀ r ∈ results, ∀ i, r.dataId ≠ some (Sample.newId i)) ∧
      ∀ r ∈ results, ∀ f, r.fileId = some f →
        ∃ e ∈ (mergeResults entries Sample.newId results).entries, e.fileId = some f := by
  intro entries results
  have hids : (entries.map (·.dataId)).Nodup := by decide
  have hnames : (results.filterMap (·.dataId)).Nodup := by decide
  have hfiles : (results.filterMap (·.fileId)).Nodup := by decide
  have hunused : ∀ r ∈ results, ∀ i, r.dataId ≠ some (Sample.newId i) :=
    Sample.unused (by decide)
  obtain ⟨hkept, hinput⟩ := @file_kept_iff entries Sample.newId results hids hnames hfiles
  refine ⟨hids, hnames, hfiles, hunused, fun r hr f hf => (hkept r hr f hf).2 ?_⟩
  rw [hinput hunused r hr f hf]
  rintro ⟨hunnamed, ⟨done, rest, hsplit, e, he, -, hbefore⟩, -⟩
  obtain rfl := List.mem_singleton.1 he
  rcases List.mem_pair.1 hr with rfl | rfl
  · exact hunnamed _ (List.mem_singleton_self _) rfl
  · cases done with
    | nil => exact absurd (List.cons.inj hsplit).1 (by decide)
    | cons a done =>
      obtain ⟨rfl, -⟩ := List.cons.inj hsplit
      exact absurd (hbefore _ List.mem_cons_self rfl) (by decide)

end Merge

end SensorTasks

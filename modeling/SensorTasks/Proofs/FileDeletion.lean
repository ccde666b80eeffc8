import SensorTasks.Proofs.FileIndex

/-!
Deleting files. Several files may have the same key in the index, which then leads to the one that
was created last. Deleting a file takes its keys out of the index without looking at where they
lead. So all other files stay as they are, and all of them are found as before that do not share a
key with the deleted one; but a file that has taken the key of an older one over is not found any
more when the older one is deleted.
-/

namespace SensorTasks

open Ledger

/-! ### What a deletion leaves -/

namespace Ledger

variable {l : Ledger} {id : FileId}

/-- The keys of the file with an id, wherever the index leads from them. -/
def keysOf (l : Ledger) (id : FileId) : List String :=
  match l.file? id with
  | none => []
  | some f => indexKeys f

theorem keysOf_of_file? {f : File} (h : l.file? id = some f) : l.keysOf id = indexKeys f := by
  rw [keysOf, h]

theorem file?_deleteFile (l : Ledger) (id b : FileId) :
    (l.deleteFile id).2.file? b = if b = id then none else l.file? b := by
  unfold deleteFile
  cases hf : l.file? id with
  | none =>
    dsimp only
    split
    · rename_i he
      rw [he, hf]
    · rfl
  | some f =>
    dsimp only [file?]
    rw [Table.get?_erase]
    by_cases he : b = id
    · rw [if_pos he, if_pos (he ▸ rfl)]
    · rw [if_neg he, if_neg fun hkey => he (key_file_injective hkey)]

theorem fileIndex_deleteFile (l : Ledger) (id : FileId) (key : String) :
    (l.deleteFile id).2.fileIndex.get? key =
      if key ∈ l.keysOf id then none else l.fileIndex.get? key := by
  unfold deleteFile keysOf
  cases l.file? id with
  | none => simp
  | some f => exact get?_foldl_erase (indexKeys f) l.fileIndex key

/-- Nothing is found any more under the keys of a deleted file, and under other keys the same as
before. -/
theorem Indexed.fileOf?_deleteFile (h : l.Indexed) (id : FileId) (task : TaskId)
    (sensor : SensorId) (name : String) :
    (l.deleteFile id).2.fileOf? task sensor name =
      if Key.fileOf task sensor name ∈ l.keysOf id then none
      else l.fileOf? task sensor name := by
  unfold fileOf?
  rw [fileIndex_deleteFile]
  split
  · rfl
  · rename_i hkey
    refine Option.bind_congr fun i hi => ?_
    rw [file?_deleteFile, if_neg]
    rintro rfl
    obtain ⟨f, hf, hkey'⟩ := h.fileIndex hi
    exact hkey (keysOf_of_file? hf ▸ hkey')

/-! ### The order of files -/

/-- The ids of the files are some of those up to `next`, and the index leads from a key to the
youngest file that has it, if it leads anywhere. -/
structure Dated (l : Ledger) (next : Nat) : Prop where
  number : ∀ {id f}, l.file? id = some f → ∃ n < next, id = FreshId.text n
  youngest : ∀ {key m n f}, l.fileIndex.get? key = some (FreshId.text n) →
    l.file? (FreshId.text m) = some f → key ∈ indexKeys f → m ≤ n

namespace Dated

variable {next : Nat} {f g : File}

theorem empty (next : Nat) : Dated .empty next where
  number h := by cases h
  youngest h := by cases h

/-- A file may be put again with changes that leave where it comes from. -/
theorem putFile (h : l.Dated next) (hg : l.file? f.id = some g) (horigin : g.origin = f.origin) :
    (l.putFile f).Dated next where
  number {id a} ha := by
    rw [file?_putFile] at ha
    split at ha
    · rename_i hid
      exact h.number (hid ▸ hg)
    · exact h.number ha
  youngest {key m n a} hi ha hkey := by
    rw [file?_putFile] at ha
    split at ha
    · rename_i hid
      obtain rfl := Option.some.inj ha
      rw [← File.indexKeys_congr horigin] at hkey
      exact h.youngest hi (hid ▸ hg) hkey
    · exact h.youngest hi ha hkey

theorem exposeFiles (h : l.Dated next) (hl : l.Indexed) (ids : List FileId) (p : Platform)
    (now : Instant) : (l.exposeFiles ids p now).2.Dated next :=
  exposeFiles_keeps (k := File.origin) (K := fun l => l.Dated next) (fun _ _ _ => rfl)
    (fun _ _ _ hl => hl.putFile) (fun hf => hl.file_id hf) h ids p now

theorem deleteFile (h : l.Dated next) (id : FileId) : (l.deleteFile id).2.Dated next where
  number {b f} hf := by
    rw [file?_deleteFile] at hf
    split at hf
    · cases hf
    · exact h.number hf
  youngest {key m n f} hi hf hkey := by
    rw [file?_deleteFile] at hf
    split at hf
    · cases hf
    · rw [fileIndex_deleteFile] at hi
      split at hi
      · cases hi
      · exact h.youngest hi hf hkey

/-- The next file is younger than all others. -/
theorem createFile (h : l.Dated next) (hid : f.id = FreshId.text next) :
    (l.createFile f).Dated (next + 1) := by
  have hold : ∀ {m a}, l.file? (FreshId.text m) = some a → m < next := by
    intro m a ha
    obtain ⟨n, hn, he⟩ := h.number ha
    rwa [FreshId.text_injective he]
  have hindex : ∀ key, (l.createFile f).fileIndex.get? key =
      if key ∈ indexKeys f then some f.id else l.fileIndex.get? key :=
    get?_foldl_insert (indexKeys f) f.id l.fileIndex
  refine ⟨fun {id a} ha => ?_, fun {key m n a} hi ha hkey => ?_⟩
  · rw [file?_createFile] at ha
    split at ha
    · rename_i he
      exact ⟨next, Nat.lt_succ_self next, he.trans hid⟩
    · obtain ⟨n, hn, he⟩ := h.number ha
      exact ⟨n, Nat.lt_succ_of_lt hn, he⟩
  · rw [hindex, hid] at hi
    rw [file?_createFile, hid] at ha
    split at hi
    · obtain rfl := FreshId.text_injective (Option.some.inj hi)
      split at ha
      · rename_i he
        exact Nat.le_of_eq (FreshId.text_injective he)
      · exact Nat.le_of_lt (hold ha)
    · rename_i hnot
      split at ha
      · obtain rfl := Option.some.inj ha
        exact absurd hkey hnot
      · exact h.youngest hi ha hkey

/-- What is found under a key of another file is younger than that. -/
theorem younger_of_key (h : l.Dated next) (hl : l.Indexed) {a : FileId} {task : TaskId}
    {sensor : SensorId} {name : String} (hkey : Key.fileOf task sensor name ∈ l.keysOf a)
    (hf : l.fileOf? task sensor name = some f) (hne : f.id ≠ a) :
    ∃ m n, m < n ∧ a = FreshId.text m ∧ f.id = FreshId.text n := by
  obtain ⟨g, hg⟩ : ∃ g, l.file? a = some g := by
    unfold keysOf at hkey
    split at hkey
    · cases hkey
    · exact ⟨_, ‹_›⟩
  rw [keysOf_of_file? hg] at hkey
  obtain ⟨i, hi, hif⟩ := Option.bind_eq_some_iff.1 hf
  obtain rfl := hl.file_id hif
  obtain ⟨m, -, rfl⟩ := h.number hg
  obtain ⟨n, -, hn⟩ := h.number hif
  have hle : m ≤ n := h.youngest (hn ▸ hi) hg hkey
  exact ⟨m, n, Nat.lt_of_le_of_ne hle fun he => hne (hn.trans (he ▸ rfl)), rfl, hn⟩

end Dated

end Ledger

namespace World

/-- The worlds that creating, changing and deleting files leads to from an empty ledger, while time
goes by. -/
inductive FileCalls : World → Prop where
  | new (capacity : Nat) (clock : Instant) : FileCalls (.new capacity clock)
  | create {w : World} (h : FileCalls w) (new : NewFile) :
    FileCalls ((Command.createFile new).run w).2
  | update {w : World} (h : FileCalls w) (id : FileId) (p : FilePatch) :
    FileCalls ((Command.updateFile id p).run w).2
  | expose {w : World} (h : FileCalls w) (ids : List FileId) (p : Platform) :
    FileCalls ((Command.exposeFiles ids p).run w).2
  | delete {w : World} (h : FileCalls w) (id : FileId) :
    FileCalls ((Command.deleteFile id).run w).2
  | later {w : World} (h : FileCalls w) (clock : Instant) : FileCalls { w with clock := clock }

namespace FileCalls

variable {w : World}

theorem reachable (h : w.FileCalls) : w.Reachable := by
  induction h with
  | new capacity clock => exact .new capacity clock
  | create _ new ih => exact ih.command (c := .createFile new) trivial
  | update _ id p ih => exact ih.command (c := .updateFile id p) trivial
  | expose _ ids p ih => exact ih.command (c := .exposeFiles ids p) trivial
  | delete _ id ih => exact ih.command (c := .deleteFile id) trivial
  | later _ clock ih => exact ih.outside rfl (Nat.le_refl _)

theorem dated (h : w.FileCalls) : w.ledger.Dated w.nextNumber := by
  induction h with
  | new capacity clock => exact .empty _
  | create _ new ih => exact ih.createFile rfl
  | @update w hw id p ih =>
    refine commit_induction (motive := fun v => v.ledger.Dated v.nextNumber) ih fun f l hl => ?_
    obtain ⟨old, hold, rfl, rfl⟩ := updateFile_eq_ok hl
    exact ih.putFile (hw.reachable.consistent.indexed.file?_patched hold p w.clock) rfl
  | expose hw ids p ih => exact ih.exposeFiles hw.reachable.consistent.indexed ids p _
  | delete _ id ih => exact ih.deleteFile id
  | later _ clock ih => exact ih

end FileCalls

variable {w : World}

/-- However files are created, changed and deleted: deleting one leaves the documents of all others
as they are. A file that was found under a task, a sensor and a name is found as before unless the
deleted one has the same key; then it is not found any more. That only happens to a file that is
younger than the one that is deleted. -/
theorem found_after_delete_iff (h : w.FileCalls) (a : FileId) :
    (∀ b, b ≠ a → ((Command.deleteFile a).run w).2.ledger.file? b = w.ledger.file? b) ∧
      ∀ task sensor name f, w.ledger.fileOf? task sensor name = some f → f.id ≠ a →
        (((Command.deleteFile a).run w).2.ledger.fileOf? task sensor name = some f ↔
          Key.fileOf task sensor name ∉ w.ledger.keysOf a) ∧
        (Key.fileOf task sensor name ∈ w.ledger.keysOf a →
          ((Command.deleteFile a).run w).2.ledger.fileOf? task sensor name = none ∧
          ∃ m n, m < n ∧ a = FreshId.text m ∧ f.id = FreshId.text n) := by
  have hl := h.reachable.consistent.indexed
  have hrun : ((Command.deleteFile a).run w).2.ledger = (w.ledger.deleteFile a).2 := rfl
  refine ⟨fun b hb => ?_, fun task sensor name f hf hne => ?_⟩
  · rw [hrun, file?_deleteFile, if_neg hb]
  · rw [hrun, hl.fileOf?_deleteFile, hf]
    exact ⟨by simp, fun hkey => ⟨if_pos hkey, h.dated.younger_of_key hl hkey hf hne⟩⟩

namespace Sample

/-- A file that the task has created for one sensor. -/
def filed (sensor : SensorId) (name : String) : NewFile :=
  ⟨name, ⟨"files", name⟩, ⟨[sensor], none, none, none, none, []⟩, some "t1", none, none, .empty⟩

/-- The world after files have been created for these sensors under these names. -/
def archive (slots : List (SensorId × String)) : World :=
  slots.foldl (fun w slot => ((Command.createFile (filed slot.1 slot.2)).run w).2)
    (.new 8 .epoch)

end Sample

/-- Of two files under the same key the younger one is found, and none when the older one is
deleted. -/
theorem younger_twin_lost :
    let w := Sample.archive [("s1", "a.csv"), ("s1", "a.csv")]
    let v := ((Command.deleteFile (FreshId.text 1)).run w).2
    w.FileCalls ∧
      (w.ledger.fileOf? "t1" "s1" "a.csv").map (·.id) = some (FreshId.text 2) ∧
      v.ledger.file? (FreshId.text 2) = w.ledger.fileOf? "t1" "s1" "a.csv" ∧
      v.ledger.fileOf? "t1" "s1" "a.csv" = none :=
  ⟨.create (.create (.new _ _) (Sample.filed "s1" "a.csv")) (Sample.filed "s1" "a.csv"),
    by decide, rfl, rfl⟩

/-- Deleting a file under another name, or for another sensor, leaves what is found. -/
theorem found_after_delete_other :
    let w := Sample.archive [("s1", "a.csv"), ("s1", "a.csv"), ("s1", "b.csv"), ("s2", "a.csv")]
    ∃ f, f.id = FreshId.text 2 ∧ w.ledger.fileOf? "t1" "s1" "a.csv" = some f ∧
      ∀ a ∈ [FreshId.text 3, FreshId.text 4],
        ((Command.deleteFile a).run w).2.ledger.fileOf? "t1" "s1" "a.csv" = some f := by
  intro w
  have hcalls : w.FileCalls := .create (.create (.create (.create (.new _ _)
    (Sample.filed "s1" "a.csv")) (Sample.filed "s1" "a.csv")) (Sample.filed "s1" "b.csv"))
    (Sample.filed "s2" "a.csv")
  obtain ⟨f, hf⟩ : ∃ f, w.ledger.fileOf? "t1" "s1" "a.csv" = some f :=
    Option.isSome_iff_exists.1 (by decide)
  have hid : f.id = FreshId.text 2 := by
    have hfound : (w.ledger.fileOf? "t1" "s1" "a.csv").map (·.id) = some (FreshId.text 2) := by
      decide
    rw [hf] at hfound
    exact Option.some.inj hfound
  refine ⟨f, hid, hf, fun a ha => ?_⟩
  have hother : FreshId.text 2 ≠ a ∧ Key.fileOf "t1" "s1" "a.csv" ∉ w.ledger.keysOf a := by
    simp only [List.mem_cons, List.not_mem_nil, or_false] at ha
    rcases ha with rfl | rfl <;> exact ⟨by decide, by decide⟩
  exact (((found_after_delete_iff hcalls a).2 "t1" "s1" "a.csv" f hf (hid ▸ hother.1)).1).2 hother.2

end World

end SensorTasks

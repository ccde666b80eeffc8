import SensorTasks.Proofs.Ownership

/-!
The index of the files. A file that a task has created for a sensor stands in it under the task, the
sensor and the name, with a separator between them. The ids of tasks and sensors are free of
separators, so a key is one of a single task, sensor and name, and it does not matter what the name
holds. As long as no file is created for a key that has one, the index leads from every key to the
one file that has it.
-/

namespace SensorTasks

/-! ### Keys -/

namespace Ledger.Key

/-- The id has no separator in it. -/
def Plain (id : String) : Prop := Char.ofNat 0x1F ∉ id.toList

instance : DecidablePred Plain := fun id => inferInstanceAs (Decidable (_ ∉ id.toList))

/-- A text is cut at its first separator in one way. -/
theorem cut_unique {x : Char} {a a' b b' : List Char} (ha : x ∉ a) (ha' : x ∉ a')
    (h : a ++ x :: b = a' ++ x :: b') : a = a' ∧ b = b' := by
  induction a generalizing a' with
  | nil =>
    cases a' with
    | nil => exact ⟨rfl, (List.cons.inj h).2⟩
    | cons c a' => exact absurd ((List.cons.inj h).1 ▸ List.mem_cons_self) ha'
  | cons c a ih =>
    cases a' with
    | nil => exact absurd ((List.cons.inj h).1 ▸ List.mem_cons_self) ha
    | cons c' a' =>
      obtain ⟨hc, h⟩ := List.cons.inj h
      obtain ⟨hab, hb⟩ :=
        ih (fun hx => ha (List.mem_cons_of_mem c hx)) (fun hx => ha' (List.mem_cons_of_mem c' hx)) h
      exact ⟨by rw [hc, hab], hb⟩

theorem toList_fileOf (task : TaskId) (sensor : SensorId) (name : String) :
    (fileOf task sensor name).toList = "file_task:".toList ++
      (task.toList ++ Char.ofNat 0x1F :: (sensor.toList ++ Char.ofNat 0x1F :: name.toList)) := by
  have h : fileOf task sensor name =
      "file_task:" ++ (task ++ separator ++ sensor ++ separator ++ name) := rfl
  simp [h, separator, String.toList_append]

/-- A key tells the task, the sensor and the name, if only the name may hold separators. -/
theorem fileOf_injective {task task' : TaskId} {sensor sensor' : SensorId} {name name' : String}
    (ht : Plain task) (ht' : Plain task') (hs : Plain sensor) (hs' : Plain sensor')
    (h : fileOf task sensor name = fileOf task' sensor' name') :
    task = task' ∧ sensor = sensor' ∧ name = name' := by
  have hlist := congrArg String.toList h
  rw [toList_fileOf, toList_fileOf] at hlist
  obtain ⟨htask, hrest⟩ := cut_unique ht ht' (List.append_cancel_left hlist)
  obtain ⟨hsensor, hname⟩ := cut_unique hs hs' hrest
  exact ⟨String.toList_inj.1 htask, String.toList_inj.1 hsensor, String.toList_inj.1 hname⟩

end Ledger.Key

open Ledger Ledger.Key

theorem Text.digitChar_of_mem_hexDigits {n : Nat} {c : Char} (h : c ∈ Text.hexDigits n) :
    ∃ d < 16, c = Nat.digitChar d := by
  induction n using Nat.strongRecOn with
  | _ n ih =>
    unfold Text.hexDigits at h
    rw [Nat.toDigits_eq_if (by decide)] at h
    split at h
    · rename_i hn
      exact ⟨n, hn, List.mem_singleton.1 h⟩
    · rcases List.mem_append.1 h with h | h
      · exact ih (n / 16) (by omega) h
      · exact ⟨n % 16, Nat.mod_lt _ (by decide), List.mem_singleton.1 h⟩

/-- The ids that are given out have no separators. -/
theorem FreshId.plain_text (n : Nat) : Plain (FreshId.text n) := by
  have hdigit : ∀ d < 16, Nat.digitChar d ≠ Char.ofNat 0x1F := by decide
  have hzero : Char.ofNat 0x1F ≠ '0' := by decide
  unfold FreshId.text Plain
  simp only [String.toList_append, String.toList_ofList, Text.zeroPad, List.mem_append]
  rintro (h | h | h)
  · exact absurd h (by decide)
  · exact hzero (List.eq_of_mem_replicate h)
  · obtain ⟨d, hd, hc⟩ := Text.digitChar_of_mem_hexDigits h
    exact hdigit d hd hc.symm

/-! ### Where files come from -/

/-- What a file was created for: the task, the sensors and the name. -/
def File.origin (f : File) : Option TaskId × List SensorId × String :=
  (f.createdByTask, f.metadata.sensors, f.name)

/-- If a task has created the file, then for one sensor. -/
def File.OfOneSensor (f : File) : Prop :=
  ∀ task, f.createdByTask = some task →
    Plain task ∧ ∃ sensor, Plain sensor ∧ f.metadata.sensors = [sensor]

/-- The key of a file that a task has created for one sensor. -/
def Ledger.fileKey? (f : File) : Option String := (indexKeys f).head?

namespace File

variable {f g : File} {task : TaskId} {sensor : SensorId} {name : String}

theorem indexKeys_congr (h : f.origin = g.origin) : indexKeys f = indexKeys g := by
  simp only [origin, Prod.mk.injEq] at h
  unfold indexKeys
  rw [h.1, h.2.1, h.2.2]

theorem OfOneSensor.congr (hf : f.OfOneSensor) (h : f.origin = g.origin) : g.OfOneSensor := by
  simp only [origin, Prod.mk.injEq] at h
  unfold OfOneSensor
  rw [← h.1, ← h.2.1]
  exact hf

/-- A file stands in the index under one key at most. -/
theorem OfOneSensor.indexKeys_eq (hf : f.OfOneSensor) : indexKeys f = (fileKey? f).toList := by
  unfold fileKey? indexKeys
  cases htask : f.createdByTask with
  | none => rfl
  | some task =>
    obtain ⟨-, sensor, -, hsensors⟩ := hf task htask
    simp [hsensors]

/-- The key tells what the file was created for. -/
theorem OfOneSensor.fileKey?_eq_some (hf : f.OfOneSensor) (ht : Plain task) (hs : Plain sensor) :
    fileKey? f = some (Key.fileOf task sensor name) ↔ f.origin = (some task, [sensor], name) := by
  unfold fileKey? indexKeys origin
  cases htask : f.createdByTask with
  | none => simp
  | some task' =>
    obtain ⟨ht', sensor', hs', hsensors⟩ := hf task' htask
    simp only [hsensors, List.map_cons, List.head?_cons, Option.some.injEq, Prod.mk.injEq,
      List.cons.injEq, and_true]
    constructor
    · exact fileOf_injective ht' ht hs' hs
    · rintro ⟨rfl, rfl, rfl⟩
      rfl

end File

/-! ### The index -/

namespace Ledger

/-- The index leads from the key of every file to it, and nowhere else. -/
structure Filed (l : Ledger) : Prop where
  index : IsIndex Key.file (·.id) fileKey? l.files l.fileIndex
  files : l.files.All File.OfOneSensor

namespace Filed

variable {l : Ledger} {f g : File}

theorem empty : Filed .empty := ⟨.empty, .empty⟩

theorem congr {l' : Ledger} (h : l.Filed) (hfiles : l'.files = l.files)
    (hindex : l'.fileIndex = l.fileIndex) : l'.Filed := by
  refine ⟨?_, hfiles ▸ h.files⟩
  rw [hfiles, hindex]
  exact h.index

/-- A file may be put again with changes that leave where it comes from. -/
theorem putFile (h : l.Filed) (hg : l.file? f.id = some g) (horigin : g.origin = f.origin) :
    (l.putFile f).Filed where
  index := h.index.replace hg (key_file_injective (h.index.keyed hg)).symm
    (by rw [fileKey?, fileKey?, File.indexKeys_congr horigin])
  files := h.files.insert _ ((h.files _ g hg).congr horigin)

theorem exposeFiles (h : l.Filed) (ids : List FileId) (p : Platform) (now : Instant) :
    (l.exposeFiles ids p now).2.Filed :=
  exposeFiles_keeps (k := File.origin) (fun _ _ _ => rfl) (fun _ _ _ hl => hl.putFile)
    (fun hf => (key_file_injective (h.index.keyed hf)).symm) h ids p now

theorem deleteFile (h : l.Filed) (id : FileId) : (l.deleteFile id).2.Filed := by
  unfold Ledger.deleteFile
  split
  · exact h
  · rename_i f hf
    obtain rfl := key_file_injective (h.index.keyed hf)
    rw [(h.files _ f hf).indexKeys_eq]
    exact ⟨h.index.erase hf, h.files.erase _⟩

/-- A file may be created under a key that has none. -/
theorem createFile (h : l.Filed) (hone : f.OfOneSensor) (hid : l.file? f.id = none)
    (hkey : ∀ key, fileKey? f = some key → l.fileIndex.contains key = false) :
    (l.createFile f).Filed := by
  refine ⟨?_, h.files.insert _ hone⟩
  unfold Ledger.createFile
  rw [hone.indexKeys_eq]
  cases hk : fileKey? f with
  | none => exact h.index.insert_unnamed hid hk
  | some key => exact h.index.insert hid (hkey key hk) hk

/-! ### What is found -/

variable {task : TaskId} {sensor : SensorId} {name : String}

/-- What is found is the file that the task has created for the sensor under the name. -/
theorem fileOf?_eq_some (h : l.Filed) (ht : Plain task) (hs : Plain sensor) :
    l.fileOf? task sensor name = some f ↔
      f ∈ l.files.values ∧ f.origin = (some task, [sensor], name) := by
  refine h.index.lookup_eq_some.trans (and_congr_right fun hf => ?_)
  obtain ⟨key, hf⟩ := Table.mem_values.1 hf
  exact (h.files key f hf).fileKey?_eq_some ht hs

/-- Going through all files finds the same, and nothing else. -/
theorem filter_origin (h : l.Filed) (ht : Plain task) (hs : Plain sensor) (name : String) :
    l.files.values.filter (·.origin = (some task, [sensor], name)) =
      (l.fileOf? task sensor name).toList := by
  refine h.index.filter_eq (n := Key.fileOf task sensor name) fun f hf => ?_
  obtain ⟨key, hf⟩ := Table.mem_values.1 hf
  rw [decide_eq_true_iff, (h.files key f hf).fileKey?_eq_some ht hs]

/-- A key under which no file is found is a new one. -/
theorem contains_eq_false (h : l.Filed) (hnone : l.fileOf? task sensor name = none) :
    l.fileIndex.contains (Key.fileOf task sensor name) = false := by
  refine Bool.eq_false_iff.2 fun hkey => ?_
  obtain ⟨f, hf⟩ := h.index.exists_of_contains hkey
  exact Option.some_ne_none f (hf.symm.trans hnone)

end Filed

end Ledger

/-! ### Commands -/

namespace World

/-- The index of the files is exact, and nothing has an id with a separator in it. -/
structure Filed (w : World) : Prop where
  filed : w.ledger.Filed
  unused : ∀ id, ¬Plain id → w.Unused id

namespace Filed

variable {v w : World}

theorem new (capacity : Nat) (clock : Instant) : (World.new capacity clock).Filed :=
  ⟨.empty, fun _ _ => ⟨rfl, rfl, rfl⟩⟩

theorem outside (h : w.Filed) (hl : v.ledger = w.ledger) : v.Filed :=
  ⟨hl ▸ h.filed, fun id hid => by
    obtain ⟨ht, hs, hg⟩ := h.unused id hid
    exact ⟨hl ▸ ht, hl ▸ hs, hl ▸ hg⟩⟩

theorem plain_task (h : w.Filed) {id : TaskId} {t : Task} (ht : w.ledger.task? id = some t) :
    Plain id := by
  refine Decidable.not_not.1 fun hid => ?_
  rw [(h.unused id hid).task] at ht
  cases ht

theorem plain_sensor (h : w.Filed) {id : SensorId} {s : Sensor}
    (hs : w.ledger.sensor? id = some s) : Plain id := by
  refine Decidable.not_not.1 fun hid => ?_
  rw [(h.unused id hid).sensor] at hs
  cases hs

theorem putTask (h : w.Filed) {t : Task} (ht : Plain t.id) :
    Filed { w with ledger := w.ledger.putTask t } := by
  refine ⟨⟨h.filed.index, h.filed.files⟩, fun id hid => ?_⟩
  obtain ⟨htask, hsensor, hgroup⟩ := h.unused id hid
  refine ⟨?_, hsensor, hgroup⟩
  rw [Ledger.task?_putTask, if_neg, htask]
  rintro rfl
  exact hid ht

/-- Every command keeps the index exact that creates no file of a task, if the ids of new documents
have no separators. -/
theorem run (h : w.Filed) (hw : w.Consistent) {c : Command}
    (hid : ∀ id, c.newId? = some id → Plain id)
    (hfile : ∀ new, c = .createFile new → new.createdByTask = none) : (c.run w).2.Filed := by
  refine ⟨?_, fun id hplain => (h.unused id hplain).run hw fun hc => hplain (hid id hc)⟩
  have hl := h.filed
  by_cases hwrites : c.writes? = some .file
  · cases c with
    | createFile new =>
      have hnone : fileKey? (File.ofNew new (FreshId.text w.nextNumber) w.clock) = none := by
        simp [fileKey?, indexKeys, File.ofNew, hfile new rfl]
      refine hl.createFile (fun task htask => ?_) hw.next_file fun key hkey => ?_
      · exact absurd (htask.symm.trans (hfile new rfl)) (Option.some_ne_none task)
      · exact absurd (hkey.symm.trans hnone) (Option.some_ne_none key)
    | updateFile id p =>
      refine commit_induction (motive := (·.ledger.Filed)) hl fun f l hrun => ?_
      obtain ⟨old, hold, rfl, rfl⟩ := updateFile_eq_ok hrun
      exact hl.putFile (hw.indexed.file?_patched hold p w.clock) rfl
    | exposeFiles ids p => exact hl.exposeFiles ids p _
    | deleteFile id => exact hl.deleteFile id
    | _ => cases hwrites
  · obtain ⟨hfiles, hindex⟩ := (c.agreesBut_run w).files hwrites
    exact hl.congr hfiles hindex

end Filed

end World

end SensorTasks

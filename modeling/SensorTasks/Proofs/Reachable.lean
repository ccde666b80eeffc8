import SensorTasks.Proofs.Index
import SensorTasks.Program.Command

/-!
The worlds that commands lead to. New ids are made from numbers that are given out once, so a
command brings no id that is still to be given out, and a new document no id that is in use. In
every world that is reached so, the indexes fit the documents, and no document has an id that is
still to be given out.
-/

namespace SensorTasks

/-! ### New ids -/

namespace FreshId

/-- The number that digits stand for. -/
def value (digits : List Char) : Nat :=
  digits.foldl (fun n c => 16 * n + (Text.hexValue c).getD 0) 0

theorem value_append_singleton (digits : List Char) (c : Char) :
    value (digits ++ [c]) = 16 * value digits + (Text.hexValue c).getD 0 := by
  simp [value]

theorem hexValue_digitChar : ∀ d < 16, Text.hexValue (Nat.digitChar d) = some d := by
  decide

theorem value_hexDigits (n : Nat) : value (Text.hexDigits n) = n := by
  induction n using Nat.strongRecOn with
  | _ n ih =>
    unfold Text.hexDigits
    rw [Nat.toDigits_eq_if (by decide)]
    split
    · rename_i h
      simp [value, hexValue_digitChar n h]
    · have hd := hexValue_digitChar (n % 16) (Nat.mod_lt _ (by decide))
      have hq := ih (n / 16) (by omega)
      unfold Text.hexDigits at hq
      rw [value_append_singleton, hq, hd]
      simp only [Option.getD_some]
      omega

theorem value_zeroPad (width : Nat) (digits : List Char) :
    value (Text.zeroPad width digits) = value digits := by
  unfold Text.zeroPad
  induction width - digits.length with
  | zero => rfl
  | succ k ih => simpa [List.replicate_succ, value, Text.hexValue] using ih

/-- An id is made from one number only. -/
theorem text_injective {m n : Nat} (h : text m = text n) : m = n := by
  have hdigits := String.ofList_injective ((String.append_right_inj _).1 h)
  rw [← value_hexDigits m, ← value_hexDigits n, ← value_zeroPad 12, hdigits, value_zeroPad]

theorem text_ne_empty (n : Nat) : text n ≠ "" := by
  unfold text
  rw [Ne, String.append_eq_empty_iff]
  exact fun h => absurd h.1 (by decide)

end FreshId

/-- The id is not one that is still to be given out. -/
def World.Old (w : World) (id : String) : Prop := ∀ n, id = FreshId.text n → n < w.nextNumber

namespace World

theorem Old.mono {w v : World} {id : String} (h : w.Old id) (hv : w.nextNumber ≤ v.nextNumber) :
    v.Old id :=
  fun n hn => Nat.lt_of_lt_of_le (h n hn) hv

theorem old_text {w : World} {n : Nat} (h : n < w.nextNumber) : w.Old (FreshId.text n) := by
  intro m hm
  rw [← FreshId.text_injective hm]
  exact h

theorem not_old_text {w : World} {n : Nat} (h : w.nextNumber ≤ n) : ¬w.Old (FreshId.text n) :=
  fun ho => Nat.not_lt.2 h (ho n rfl)

end World

/-! ### What documents hold -/

namespace Table

variable {α : Type} {P : α → Prop} {t : Table α}

/-- Everything in the table has a property. -/
def All (P : α → Prop) (t : Table α) : Prop := ∀ k a, t.get? k = some a → P a

theorem All.empty : (empty : Table α).All P := fun _ _ h => by cases h

theorem All.insert (h : t.All P) (key : String) {a : α} (ha : P a) : (t.insert key a).All P := by
  intro k b hb
  rw [get?_insert] at hb
  split at hb
  · cases hb
    exact ha
  · exact h k b hb

theorem All.erase (h : t.All P) (key : String) : (t.erase key).All P := by
  intro k b hb
  rw [get?_erase] at hb
  split at hb
  · cases hb
  · exact h k b hb

theorem All.imp {Q : α → Prop} (h : t.All P) (hPQ : ∀ a, P a → Q a) : t.All Q :=
  fun k a ha => hPQ a (h k a ha)

end Table

namespace Task

/-- The entries of a fetch; other work has none. -/
def entries (t : Task) : List FetchEntry :=
  match t.fetch? with
  | some w => w.data
  | none => []

/-- The ids in a task have a property: its own and those of its files. -/
def IdsAre (P : String → Prop) (t : Task) : Prop :=
  P t.id ∧ ∀ e ∈ t.entries, ∀ f, e.fileId = some f → P f

end Task

namespace TaskPatch

variable {p : TaskPatch} {now : Instant} {t : Task}

@[simp] theorem apply_id : (p.apply now t).id = t.id := rfl

@[simp] theorem apply_type : (p.apply now t).type = t.type := by
  unfold Task.type apply
  cases t.work <;> rfl

theorem apply_entries_of_none (h : p.fetchEntries = none) :
    (p.apply now t).entries = t.entries := by
  unfold Task.entries Task.fetch? apply
  cases t.work <;> simp [Work.withEntries, h]

theorem apply_entries {data : List FetchEntry} (h : p.fetchEntries = some data)
    (ht : t.type = .dataFetch) : (p.apply now t).entries = data := by
  unfold Task.type at ht
  unfold Task.entries Task.fetch? apply
  cases hw : t.work with
  | fetch w => simp [Work.withEntries, h]
  | upload w => simp [hw, Work.type] at ht
  | sync => simp [hw, Work.type] at ht

/-- The entries come from the task or from the patch. -/
theorem mem_apply_entries {e : FetchEntry} (h : e ∈ (p.apply now t).entries) :
    e ∈ t.entries ∨ ∃ data, p.fetchEntries = some data ∧ e ∈ data := by
  cases hp : p.fetchEntries with
  | none =>
    rw [apply_entries_of_none hp] at h
    exact Or.inl h
  | some data =>
    by_cases ht : t.type = .dataFetch
    · rw [apply_entries hp ht] at h
      exact Or.inr ⟨data, rfl, h⟩
    · unfold Task.type at ht
      unfold Task.entries Task.fetch? apply at h
      cases hw : t.work with
      | fetch w => simp [hw, Work.type] at ht
      | upload w => simp [hw, Work.withEntries] at h
      | sync => simp [hw, Work.withEntries] at h

end TaskPatch

theorem Task.IdsAre.apply {P : String → Prop} {t : Task} {p : TaskPatch} {now : Instant}
    (h : t.IdsAre P)
    (hp : ∀ data, p.fetchEntries = some data → ∀ e ∈ data, ∀ f, e.fileId = some f → P f) :
    (p.apply now t).IdsAre P := by
  refine ⟨h.1, fun e he f hf => ?_⟩
  rcases TaskPatch.mem_apply_entries he with he | ⟨data, hd, he⟩
  · exact h.2 e he f hf
  · exact hp data hd e he f hf

namespace Ledger

/-- All ids in the ledger have a property. -/
structure IdsAre (P : String → Prop) (l : Ledger) : Prop where
  tasks : l.tasks.All (·.IdsAre P)
  files : l.files.All fun f => P f.id
  sensors : l.sensors.All fun s => P s.id
  groups : l.groups.All fun g => P g.id

namespace IdsAre

variable {P Q : String → Prop} {l : Ledger}

theorem empty : IdsAre P .empty := ⟨.empty, .empty, .empty, .empty⟩

theorem imp (h : l.IdsAre P) (hPQ : ∀ id, P id → Q id) : l.IdsAre Q where
  tasks := h.tasks.imp fun _ ht => ⟨hPQ _ ht.1, fun e he f hf => hPQ _ (ht.2 e he f hf)⟩
  files := h.files.imp fun f => hPQ f.id
  sensors := h.sensors.imp fun s => hPQ s.id
  groups := h.groups.imp fun g => hPQ g.id

theorem putTask (h : l.IdsAre P) {t : Task} (ht : t.IdsAre P) : (l.putTask t).IdsAre P :=
  ⟨h.tasks.insert _ ht, h.files, h.sensors, h.groups⟩

theorem putTasks (h : l.IdsAre P) {ts : List Task} {change : Task → Task}
    (hts : ∀ t ∈ ts, (change t).IdsAre P) :
    (ts.foldl (fun l t => l.putTask (change t)) l).IdsAre P := by
  induction ts generalizing l with
  | nil => exact h
  | cons t ts ih =>
    exact ih (h.putTask (hts t List.mem_cons_self)) fun u hu => hts u (List.mem_cons_of_mem t hu)

theorem setModes (h : l.IdsAre P) (ids : List TaskId) (mode : TaskMode) (now : Instant) :
    (l.setModes ids mode now).2.IdsAre P := by
  refine h.putTasks fun t ht => ?_
  obtain ⟨id, -, hid⟩ := List.mem_filterMap.1 (List.mem_filter.1 ht).1
  exact (h.tasks _ t hid).apply fun data hd => by cases hd

theorem putFile (h : l.IdsAre P) {f : File} (hf : P f.id) : (l.putFile f).IdsAre P :=
  ⟨h.tasks, h.files.insert _ hf, h.sensors, h.groups⟩

theorem putFiles (h : l.IdsAre P) {fs : List File} {change : File → File}
    (hfs : ∀ f ∈ fs, P (change f).id) :
    (fs.foldl (fun l f => l.putFile (change f)) l).IdsAre P := by
  induction fs generalizing l with
  | nil => exact h
  | cons f fs ih =>
    exact ih (h.putFile (hfs f List.mem_cons_self)) fun g hg => hfs g (List.mem_cons_of_mem f hg)

theorem exposeFiles (h : l.IdsAre P) (ids : List FileId) (p : Platform) (now : Instant) :
    (l.exposeFiles ids p now).2.IdsAre P := by
  refine h.putFiles fun f hf => ?_
  obtain ⟨id, -, hid⟩ := List.mem_filterMap.1 (List.mem_filter.1 hf).1
  exact h.files _ f hid

theorem putGroup (h : l.IdsAre P) {g : Group} (hg : P g.id) : (l.putGroup g).IdsAre P :=
  ⟨h.tasks, h.files, h.sensors, h.groups.insert _ hg⟩

theorem createTask (h : l.IdsAre P) {t : Task} (ht : t.IdsAre P) {l' : Ledger}
    (hl : l.createTask t = .ok l') : l'.IdsAre P := by
  obtain ⟨-, rfl⟩ := createTask_eq_ok hl
  exact ⟨h.tasks.insert _ ht, h.files, h.sensors, h.groups⟩

theorem updateTask (h : l.IdsAre P) {id : TaskId} {p : TaskPatch} {now : Instant} {t : Task}
    {l' : Ledger} (hl : l.updateTask id p now = .ok (t, l'))
    (hp : ∀ data, p.fetchEntries = some data → ∀ e ∈ data, ∀ f, e.fileId = some f → P f) :
    l'.IdsAre P := by
  obtain ⟨old, hold, rfl, rfl⟩ := updateTask_eq_ok hl
  exact h.putTask ((h.tasks _ old hold).apply hp)

theorem createFile (h : l.IdsAre P) {f : File} (hf : P f.id) : (l.createFile f).IdsAre P :=
  ⟨h.tasks, h.files.insert _ hf, h.sensors, h.groups⟩

theorem updateFile (h : l.IdsAre P) {id : FileId} {p : FilePatch} {now : Instant} {f : File}
    {l' : Ledger} (hl : l.updateFile id p now = .ok (f, l')) : l'.IdsAre P := by
  obtain ⟨old, hold, rfl, rfl⟩ := updateFile_eq_ok hl
  exact h.putFile (h.files _ old hold)

theorem deleteFile (h : l.IdsAre P) (id : FileId) : (l.deleteFile id).2.IdsAre P := by
  unfold Ledger.deleteFile
  split
  · exact h
  · exact ⟨h.tasks, h.files.erase _, h.sensors, h.groups⟩

theorem createSensor (h : l.IdsAre P) {s : Sensor} (hs : P s.id) {l' : Ledger}
    (hl : l.createSensor s = .ok l') : l'.IdsAre P := by
  obtain ⟨-, rfl⟩ := createSensor_eq_ok hl
  exact ⟨h.tasks, h.files, h.sensors.insert _ hs, h.groups⟩

theorem createGroup (h : l.IdsAre P) {g : Group} (hg : P g.id) {l' : Ledger}
    (hl : l.createGroup g = .ok l') : l'.IdsAre P := by
  rcases createGroup_eq_ok hl with ⟨-, rfl⟩ | ⟨object, -, -, rfl⟩
  · exact h.putGroup hg
  · exact ⟨h.tasks, h.files, h.sensors, h.groups.insert _ hg⟩

theorem addMembers (h : l.IdsAre P) {id : GroupId} {sensors : List SensorId}
    {groups : List GroupId} {g : Group} {l' : Ledger}
    (hl : l.addMembers id sensors groups = .ok (g, l')) : l'.IdsAre P := by
  obtain ⟨old, hold, rfl, rfl⟩ := addMembers_eq_ok hl
  exact h.putGroup (h.groups _ old hold)

end IdsAre

end Ledger

/-! ### Commands -/

namespace Command

/-- The command brings no id that is still to be given out, and for a new document none in use. -/
def Fresh (w : World) : Command → Prop
  | createTask t => w.ledger.task? t.id = none ∧ t.IdsAre w.Old
  | updateTask _ p =>
    ∀ data, p.fetchEntries = some data → ∀ e ∈ data, ∀ f, e.fileId = some f → w.Old f
  | createSensor s => w.ledger.sensor? s.id = none ∧ w.Old s.id
  | createGroup g => w.ledger.group? g.id = none ∧ w.Old g.id
  | _ => True

theorem le_nextNumber (c : Command) (w : World) : w.nextNumber ≤ (c.run w).2.nextNumber := by
  have hcommit {α : Type} (r : Except Ledger.LedgerError (α × Ledger)) :
      w.nextNumber ≤ (w.commit r).2.nextNumber :=
    World.commit_induction (motive := (w.nextNumber ≤ ·.nextNumber)) (Nat.le_refl _)
      fun _ _ _ => Nat.le_refl _
  have hunit (r : Except Ledger.LedgerError Ledger) :
      w.nextNumber ≤ (w.commitUnit r).2.nextNumber :=
    World.commitUnit_induction (motive := (w.nextNumber ≤ ·.nextNumber)) (Nat.le_refl _)
      fun _ _ => Nat.le_refl _
  cases c with
  | createTask | createSensor | createGroup => exact hunit _
  | updateTask | updateFile | addMembers => exact hcommit _
  | reserve | createFile | publish => exact Nat.le_add_right _ _
  | _ => exact Nat.le_refl _

end Command

namespace World

/-- The indexes fit the documents, and no id in the ledger is still to be given out. -/
structure Consistent (w : World) : Prop where
  indexed : w.ledger.Indexed
  old : w.ledger.IdsAre w.Old

namespace Consistent

variable {w : World}

theorem new (capacity : Nat) (clock : Instant) : (World.new capacity clock).Consistent :=
  ⟨.empty, .empty⟩

/-- Only the ledger matters, and how many ids have been given out. -/
theorem outside (h : w.Consistent) {v : World} (hl : v.ledger = w.ledger)
    (hn : w.nextNumber ≤ v.nextNumber) : v.Consistent := by
  refine ⟨hl ▸ h.indexed, ?_⟩
  rw [hl]
  exact h.old.imp fun id hid => hid.mono hn

/-- The ids of the files in the entries of a task have been given out. -/
theorem entry_old (h : w.Consistent) {id : TaskId} {t : Task} (ht : w.ledger.task? id = some t)
    {e : FetchEntry} (he : e ∈ t.entries) {f : FileId} (hf : e.fileId = some f) : w.Old f :=
  (h.old.tasks _ t ht).2 e he f hf

theorem task_new (h : w.Consistent) {id : TaskId} (hid : ¬w.Old id) : w.ledger.task? id = none := by
  cases ht : w.ledger.task? id with
  | none => rfl
  | some t => exact absurd (h.indexed.task_id ht ▸ (h.old.tasks _ t ht).1) hid

theorem file_new (h : w.Consistent) {id : FileId} (hid : ¬w.Old id) : w.ledger.file? id = none := by
  cases hf : w.ledger.file? id with
  | none => rfl
  | some f => exact absurd (h.indexed.file_id hf ▸ h.old.files _ f hf) hid

theorem sensor_new (h : w.Consistent) {id : SensorId} (hid : ¬w.Old id) :
    w.ledger.sensor? id = none := by
  cases hs : w.ledger.sensor? id with
  | none => rfl
  | some s => exact absurd (h.indexed.sensor_id hs ▸ h.old.sensors _ s hs) hid

theorem group_new (h : w.Consistent) {id : GroupId} (hid : ¬w.Old id) :
    w.ledger.group? id = none := by
  cases hg : w.ledger.group? id with
  | none => rfl
  | some g => exact absurd (h.indexed.group_id hg ▸ h.old.groups _ g hg) hid

/-- The next file has a new id. -/
theorem next_file (h : w.Consistent) : w.ledger.file? (FreshId.text w.nextNumber) = none :=
  h.file_new (not_old_text (Nat.le_refl _))

/-- Fresh commands keep a world consistent. -/
theorem run (h : w.Consistent) {c : Command} (hc : c.Fresh w) : (c.run w).2.Consistent := by
  cases c with
  | createTask t =>
    exact commitUnit_induction h fun l hl =>
      ⟨h.indexed.createTask hc.1 hl, h.old.createTask hc.2 hl⟩
  | updateTask id p =>
    exact commit_induction h fun t l hl => ⟨h.indexed.updateTask hl, h.old.updateTask hl hc⟩
  | setModes ids mode => exact ⟨h.indexed.setModes ids mode _, h.old.setModes ids mode _⟩
  | createFile new =>
    have hnew : ∀ b, w.ledger.file? (FreshId.text w.nextNumber) = some b →
        Ledger.indexKeys b =
          Ledger.indexKeys (File.ofNew new (FreshId.text w.nextNumber) w.clock) := by
      rw [h.next_file]
      intro b hb
      cases hb
    have hold : w.ledger.IdsAre ((Command.createFile new).run w).2.Old :=
      h.old.imp fun id hid => hid.mono (Nat.le_succ w.nextNumber)
    exact ⟨h.indexed.createFile hnew, hold.createFile (old_text (Nat.lt_succ_self _))⟩
  | updateFile id p =>
    exact commit_induction h fun f l hl => ⟨h.indexed.updateFile hl, h.old.updateFile hl⟩
  | exposeFiles ids p => exact ⟨h.indexed.exposeFiles ids p _, h.old.exposeFiles ids p _⟩
  | deleteFile id => exact ⟨h.indexed.deleteFile id, h.old.deleteFile id⟩
  | createSensor s =>
    exact commitUnit_induction h fun l hl =>
      ⟨h.indexed.createSensor hc.1 hl, h.old.createSensor hc.2 hl⟩
  | createGroup g =>
    exact commitUnit_induction h fun l hl =>
      ⟨h.indexed.createGroup hc.1 hl, h.old.createGroup hc.2 hl⟩
  | addMembers id sensors groups =>
    exact commit_induction h fun g l hl => ⟨h.indexed.addMembers hl, h.old.addMembers hl⟩
  | reserve n => exact h.outside rfl (Nat.le_add_right _ _)
  | publish exchange key payload => exact h.outside rfl (Nat.le_add_right _ _)
  | count counter => exact h.outside rfl (Nat.le_refl _)
  | _ => exact h

end Consistent

/-- The worlds that fresh commands lead to, while others may use the bus, give out ids, count
messages and let time go by. -/
inductive Reachable : World → Prop where
  | new (capacity : Nat) (clock : Instant) : Reachable (.new capacity clock)
  | command {w : World} (h : Reachable w) {c : Command} (hc : c.Fresh w) : Reachable (c.run w).2
  | outside {w v : World} (h : Reachable w) (hl : v.ledger = w.ledger)
    (hn : w.nextNumber ≤ v.nextNumber) : Reachable v

theorem Reachable.consistent {w : World} (h : w.Reachable) : w.Consistent := by
  induction h with
  | new capacity clock => exact .new capacity clock
  | command _ hc ih => exact ih.run hc
  | outside _ hl hn ih => exact ih.outside hl hn

end World

end SensorTasks

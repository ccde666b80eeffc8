import Mathlib.Data.List.Nodup
import SensorTasks.Ledger.Basic

/-!
Indexes that fit their documents. A table of documents has an index over some name of theirs: every
document stands under its own id, the index leads from the name of a document to it, and nowhere
else. An index that fits makes the named documents unique. The operations of the ledger keep the
indexes of the tasks, the sensors and the groups fitting; the index of the files only never leads
to a file with other keys.
-/

namespace SensorTasks

namespace Ledger

/-- `docs` keeps documents under their ids, and `index` their ids under their names. -/
structure IsIndex {α : Type} (docKey : String → String) (id : α → String)
    (name? : α → Option String) (docs : Table α) (index : Table String) : Prop where
  keyed : ∀ {k a}, docs.get? k = some a → k = docKey (id a)
  complete : ∀ {k a n}, docs.get? k = some a → name? a = some n → index.get? n = some (id a)
  sound : ∀ {n i}, index.get? n = some i →
    ∃ a, docs.get? (docKey i) = some a ∧ id a = i ∧ name? a = some n

namespace IsIndex

variable {α : Type} {docKey : String → String} {id : α → String} {name? : α → Option String}
  {docs : Table α} {index : Table String}

theorem empty : IsIndex docKey id name? .empty .empty where
  keyed h := by cases h
  complete h := by cases h
  sound h := by cases h

/-- No two documents have the same name. -/
theorem unique (h : IsIndex docKey id name? docs index) {k k' n : String} {a b : α}
    (ha : docs.get? k = some a) (hb : docs.get? k' = some b) (na : name? a = some n)
    (nb : name? b = some n) : a = b := by
  have hid : id a = id b := by
    have h' := h.complete ha na
    rw [h.complete hb nb] at h'
    exact (Option.some.inj h').symm
  have hk : k = k' := by rw [h.keyed ha, h.keyed hb, hid]
  rw [hk, hb] at ha
  exact (Option.some.inj ha).symm

/-- What is found by a name has it. -/
theorem lookup (h : IsIndex docKey id name? docs index) {n : String} {a : α}
    (ha : (index.get? n).bind (fun i => docs.get? (docKey i)) = some a) :
    docs.get? (docKey (id a)) = some a ∧ name? a = some n := by
  obtain ⟨i, hi, ha⟩ := Option.bind_eq_some_iff.1 ha
  obtain ⟨b, hb, rfl, nb⟩ := h.sound hi
  obtain rfl : b = a := Option.some.inj (hb.symm.trans ha)
  exact ⟨hb, nb⟩

/-- What has a name is found by it. -/
theorem lookup_of_name (h : IsIndex docKey id name? docs index) {k n : String} {a : α}
    (ha : docs.get? k = some a) (na : name? a = some n) :
    (index.get? n).bind (fun i => docs.get? (docKey i)) = some a := by
  rw [h.complete ha na, Option.bind_some, ← h.keyed ha, ha]

/-- Nothing has a name that is found nowhere. -/
theorem not_named (h : IsIndex docKey id name? docs index) {k n : String} {a : α}
    (hn : index.contains n = false) (ha : docs.get? k = some a) : name? a ≠ some n := by
  intro na
  rw [Table.contains, h.complete ha na] at hn
  cases hn

/-- A name that the index has is one that something has. -/
theorem exists_of_contains (h : IsIndex docKey id name? docs index) {n : String}
    (hn : index.contains n = true) :
    ∃ a, (index.get? n).bind (fun i => docs.get? (docKey i)) = some a := by
  rw [Table.contains, Option.isSome_iff_exists] at hn
  obtain ⟨i, hi⟩ := hn
  obtain ⟨a, ha, -⟩ := h.sound hi
  exact ⟨a, by rw [hi, Option.bind_some, ha]⟩

theorem mem_values (h : IsIndex docKey id name? docs index) {a : α} :
    a ∈ docs.values ↔ docs.get? (docKey (id a)) = some a := by
  rw [Table.mem_values]
  constructor
  · rintro ⟨key, ha⟩
    rw [← h.keyed ha, ha]
  · exact fun ha => ⟨_, ha⟩

/-- A name leads to the documents that have it. -/
theorem lookup_eq_some (h : IsIndex docKey id name? docs index) {n : String} {a : α} :
    (index.get? n).bind (fun i => docs.get? (docKey i)) = some a ↔
      a ∈ docs.values ∧ name? a = some n := by
  rw [h.mem_values]
  exact ⟨h.lookup, fun ⟨ha, na⟩ => h.lookup_of_name ha na⟩

theorem contains_eq_true (h : IsIndex docKey id name? docs index) {n : String} :
    index.contains n = true ↔ ∃ a ∈ docs.values, name? a = some n := by
  constructor
  · intro hn
    obtain ⟨a, ha⟩ := h.exists_of_contains hn
    exact ⟨a, h.lookup_eq_some.1 ha⟩
  · rintro ⟨a, ha, na⟩
    rw [Table.contains, h.complete (h.mem_values.1 ha) na]
    rfl

theorem nodup_values (h : IsIndex docKey id name? docs index) : docs.values.Nodup := by
  refine docs.distinct.of_map.map_on ?_
  rintro ⟨k, a⟩ ha ⟨k', b⟩ hb (rfl : a = b)
  rw [h.keyed (Table.mem_rows.1 ha), h.keyed (Table.mem_rows.1 hb)]

/-- Going through all documents finds the one that a name leads to. -/
theorem filter_eq (h : IsIndex docKey id name? docs index) {n : String} {p : α → Bool}
    (hp : ∀ a ∈ docs.values, p a = true ↔ name? a = some n) :
    docs.values.filter p = ((index.get? n).bind fun i => docs.get? (docKey i)).toList := by
  generalize ho : ((index.get? n).bind fun i => docs.get? (docKey i)) = o
  have hperm : (docs.values.filter p).Perm o.toList := by
    refine (List.perm_ext_iff_of_nodup (h.nodup_values.filter p) ?_).2 fun a => ?_
    · cases o <;> simp
    · rw [Option.mem_toList, ← ho, h.lookup_eq_some, List.mem_filter]
      exact and_congr_right fun ha => hp a ha
  cases o with
  | none => exact hperm.eq_nil
  | some a => exact List.perm_singleton.1 hperm

/-- A new document with a new name. -/
theorem insert (h : IsIndex docKey id name? docs index) {a : α} {n : String}
    (hnew : docs.get? (docKey (id a)) = none) (hn : index.contains n = false)
    (na : name? a = some n) :
    IsIndex docKey id name? (docs.insert (docKey (id a)) a) (index.insert n (id a)) where
  keyed {k b} hb := by
    rw [Table.get?_insert] at hb
    split at hb
    · cases hb
      assumption
    · exact h.keyed hb
  complete {k b m} hb nb := by
    rw [Table.get?_insert] at hb ⊢
    split at hb
    · cases hb
      rw [if_pos (Option.some.inj (nb.symm.trans na))]
    · rw [if_neg, h.complete hb nb]
      rintro rfl
      exact h.not_named hn hb nb
  sound {m i} hi := by
    rw [Table.get?_insert] at hi
    split at hi
    · cases hi
      subst m
      exact ⟨a, Table.get?_insert_self .., rfl, na⟩
    · obtain ⟨b, hb, hid, nb⟩ := h.sound hi
      refine ⟨b, ?_, hid, nb⟩
      rw [Table.get?_insert_of_ne, hb]
      intro he
      rw [he, hnew] at hb
      cases hb

/-- A new document without a name. -/
theorem insert_unnamed (h : IsIndex docKey id name? docs index) {a : α}
    (hnew : docs.get? (docKey (id a)) = none) (na : name? a = none) :
    IsIndex docKey id name? (docs.insert (docKey (id a)) a) index where
  keyed {k b} hb := by
    rw [Table.get?_insert] at hb
    split at hb
    · cases hb
      assumption
    · exact h.keyed hb
  complete {k b m} hb nb := by
    rw [Table.get?_insert] at hb
    split at hb
    · cases hb
      rw [na] at nb
      cases nb
    · exact h.complete hb nb
  sound {m i} hi := by
    obtain ⟨b, hb, hid, nb⟩ := h.sound hi
    refine ⟨b, ?_, hid, nb⟩
    rw [Table.get?_insert_of_ne, hb]
    intro he
    rw [he, hnew] at hb
    cases hb

/-- A document in place of one with the same id and the same name. -/
theorem replace (h : IsIndex docKey id name? docs index) {a b : α}
    (hb : docs.get? (docKey (id a)) = some b) (hid : id b = id a) (hname : name? b = name? a) :
    IsIndex docKey id name? (docs.insert (docKey (id a)) a) index where
  keyed {k c} hc := by
    rw [Table.get?_insert] at hc
    split at hc
    · cases hc
      assumption
    · exact h.keyed hc
  complete {k c m} hc nc := by
    rw [Table.get?_insert] at hc
    split at hc
    · cases hc
      rw [← hid]
      exact h.complete hb (hname.trans nc)
    · exact h.complete hc nc
  sound {m i} hi := by
    obtain ⟨c, hc, hid', nc⟩ := h.sound hi
    by_cases he : docKey i = docKey (id a)
    · rw [he, hb] at hc
      obtain rfl := Option.some.inj hc
      exact ⟨a, by rw [he, Table.get?_insert_self], by rw [← hid, hid'], by rw [← hname, nc]⟩
    · exact ⟨c, by rw [Table.get?_insert_of_ne he, hc], hid', nc⟩

/-- A document and its name are removed. -/
theorem erase (h : IsIndex docKey id name? docs index) {a : α}
    (ha : docs.get? (docKey (id a)) = some a) :
    IsIndex docKey id name? (docs.erase (docKey (id a)))
      ((name? a).toList.foldl Table.erase index) where
  keyed {k b} hb := by
    rw [Table.get?_erase] at hb
    split at hb
    · cases hb
    · exact h.keyed hb
  complete {k b n} hb nb := by
    rw [Table.get?_erase] at hb
    split at hb
    · cases hb
    · rename_i hk
      have hn : name? a ≠ some n := by
        intro na
        obtain rfl := h.unique ha hb na nb
        exact hk (h.keyed hb)
      cases hname : name? a with
      | none => exact h.complete hb nb
      | some m =>
        rw [Option.toList_some, List.foldl_cons, List.foldl_nil, Table.get?_erase, if_neg]
        · exact h.complete hb nb
        · rintro rfl
          exact hn hname
  sound {n i} hi := by
    have hi' : index.get? n = some i ∧ name? a ≠ some n := by
      cases hname : name? a with
      | none =>
        rw [hname] at hi
        exact ⟨hi, by simp⟩
      | some m =>
        rw [hname, Option.toList_some, List.foldl_cons, List.foldl_nil, Table.get?_erase] at hi
        split at hi
        · cases hi
        · rename_i hnm
          exact ⟨hi, fun he => hnm (Option.some.inj he).symm⟩
    obtain ⟨b, hb, hid, nb⟩ := h.sound hi'.1
    refine ⟨b, ?_, hid, nb⟩
    rw [Table.get?_erase, if_neg, hb]
    intro he
    rw [he, ha] at hb
    obtain rfl := Option.some.inj hb
    exact hi'.2 nb

end IsIndex

/-! ### The indexes of the ledger -/

theorem key_task_injective {a b : String} (h : Key.task a = Key.task b) : a = b :=
  String.append_right_inj _ |>.1 h

theorem key_file_injective {a b : String} (h : Key.file a = Key.file b) : a = b :=
  String.append_right_inj _ |>.1 h

theorem key_sensor_injective {a b : String} (h : Key.sensor a = Key.sensor b) : a = b :=
  String.append_right_inj _ |>.1 h

theorem key_group_injective {a b : String} (h : Key.group a = Key.group b) : a = b :=
  String.append_right_inj _ |>.1 h

theorem key_groupOf_injective {a b : String} (h : Key.groupOf a = Key.groupOf b) : a = b :=
  String.append_right_inj _ |>.1 h

theorem task?_putTask (l : Ledger) (t : Task) (id : TaskId) :
    (l.putTask t).task? id = if id = t.id then some t else l.task? id := by
  unfold task? putTask
  rw [Table.get?_insert]
  by_cases h : id = t.id
  · rw [h, if_pos rfl, if_pos rfl]
  · rw [if_neg h, if_neg fun hk => h (key_task_injective hk)]

theorem file?_putFile (l : Ledger) (f : File) (id : FileId) :
    (l.putFile f).file? id = if id = f.id then some f else l.file? id := by
  unfold file? putFile
  rw [Table.get?_insert]
  by_cases h : id = f.id
  · rw [h, if_pos rfl, if_pos rfl]
  · rw [if_neg h, if_neg fun hk => h (key_file_injective hk)]

theorem group?_putGroup (l : Ledger) (g : Group) (id : GroupId) :
    (l.putGroup g).group? id = if id = g.id then some g else l.group? id := by
  unfold group? putGroup
  rw [Table.get?_insert]
  by_cases h : id = g.id
  · rw [h, if_pos rfl, if_pos rfl]
  · rw [if_neg h, if_neg fun hk => h (key_group_injective hk)]

theorem task?_createTask {l l' : Ledger} {t : Task} (h : l.createTask t = .ok l') (id : TaskId) :
    l'.task? id = if id = t.id then some t else l.task? id := by
  obtain ⟨-, rfl⟩ := createTask_eq_ok h
  exact task?_putTask l t id

theorem sensor?_createSensor {l l' : Ledger} {s : Sensor} (h : l.createSensor s = .ok l')
    (id : SensorId) : l'.sensor? id = if id = s.id then some s else l.sensor? id := by
  obtain ⟨-, rfl⟩ := createSensor_eq_ok h
  refine (Table.get?_insert ..).trans ?_
  by_cases hid : id = s.id
  · rw [if_pos hid, if_pos (congrArg _ hid)]
  · rw [if_neg hid, if_neg fun hk => hid (key_sensor_injective hk)]
    rfl

theorem group?_createGroup {l l' : Ledger} {g : Group} (h : l.createGroup g = .ok l')
    (id : GroupId) : l'.group? id = if id = g.id then some g else l.group? id := by
  rcases createGroup_eq_ok h with ⟨-, rfl⟩ | ⟨object, -, -, rfl⟩ <;> exact group?_putGroup l g id

/-- A change of modes touches the tasks only. -/
theorem setModes_tasks (l : Ledger) (ids : List TaskId) (mode : TaskMode) (now : Instant) :
    (l.setModes ids mode now).2 = { l with tasks := (l.setModes ids mode now).2.tasks } := by
  have hfold : ∀ (ts : List Task) (change : Task → Task) (l : Ledger),
      ts.foldl (fun l t => l.putTask (change t)) l =
        { l with tasks := (ts.foldl (fun l t => l.putTask (change t)) l).tasks } := by
    intro ts change
    induction ts with
    | nil => exact fun _ => rfl
    | cons t ts ih => exact fun l => ih (l.putTask (change t))
  exact hfold _ _ l

/-- Putting tasks again changes none that has another id. -/
theorem task?_foldl_putTask {ts : List Task} {change : Task → Task} {l : Ledger} {id : TaskId}
    (hts : ∀ t ∈ ts, (change t).id ≠ id) :
    (ts.foldl (fun l t => l.putTask (change t)) l).task? id = l.task? id := by
  induction ts generalizing l with
  | nil => rfl
  | cons t ts ih =>
    rw [List.foldl_cons, ih fun u hu => hts u (List.mem_cons_of_mem t hu), task?_putTask,
      if_neg fun h => hts t List.mem_cons_self h.symm]

/-- A change of modes brings no task that was not there. -/
theorem task?_setModes_eq_none {l : Ledger} (hid : ∀ {id t}, l.task? id = some t → t.id = id)
    {id : TaskId} (h : l.task? id = none) (ids : List TaskId) (mode : TaskMode) (now : Instant) :
    (l.setModes ids mode now).2.task? id = none := by
  refine (task?_foldl_putTask fun t ht he => ?_).trans h
  obtain ⟨tid, -, ht⟩ := List.mem_filterMap.1 (List.mem_filter.1 ht).1
  have he : tid = id := (hid ht).symm.trans he
  exact Option.some_ne_none t (ht.symm.trans (he ▸ h))

/-- Exposing files touches the files only. -/
theorem exposeFiles_files (l : Ledger) (ids : List FileId) (p : Platform) (now : Instant) :
    (l.exposeFiles ids p now).2 = { l with files := (l.exposeFiles ids p now).2.files } := by
  have hfold : ∀ (fs : List File) (change : File → File) (l : Ledger),
      fs.foldl (fun l f => l.putFile (change f)) l =
        { l with files := (fs.foldl (fun l f => l.putFile (change f)) l).files } := by
    intro fs change
    induction fs with
    | nil => exact fun _ => rfl
    | cons f fs ih => exact fun l => ih (l.putFile (change f))
  exact hfold _ _ l

/-- Files that are known are exposed by putting them again, with changes that keep their ids and
what `k` tells of them. -/
theorem exposeFiles_keeps {β : Type} {k : File → β} {K : Ledger → Prop}
    (hk : ∀ f visibility now,
      k { f with visibility := visibility, updatedAt := now } = k f)
    (hput : ∀ l f g, K l → l.file? f.id = some g → k g = k f → K (l.putFile f)) {l : Ledger}
    (hid : ∀ {id f}, l.file? id = some f → f.id = id) (h : K l) (ids : List FileId) (p : Platform)
    (now : Instant) : K (l.exposeFiles ids p now).2 := by
  unfold exposeFiles
  have hknown : ∀ f ∈ (l.filesOf ids).filter fun f => !f.visibility.isExposedTo p,
      ∃ g, l.file? f.id = some g ∧ k g = k f := by
    intro f hf
    obtain ⟨id, -, hf⟩ := List.mem_filterMap.1 (List.mem_filter.1 hf).1
    exact ⟨f, by rw [hid hf, hf], rfl⟩
  generalize (l.filesOf ids).filter _ = fs at hknown
  dsimp only
  clear hid
  induction fs generalizing l with
  | nil => exact h
  | cons f fs ih =>
    obtain ⟨g, hg, hgf⟩ := hknown f List.mem_cons_self
    refine ih (hput l _ g h hg (hgf.trans (hk f _ _).symm)) fun f' hf' => ?_
    obtain ⟨g', hg', hgf'⟩ := hknown f' (List.mem_cons_of_mem f hf')
    rw [file?_putFile]
    by_cases he : f'.id = f.id
    · rw [if_pos he]
      rw [he, hg] at hg'
      obtain rfl := Option.some.inj hg'
      exact ⟨_, rfl, by rw [hk, ← hgf, hgf']⟩
    · rw [if_neg he]
      exact ⟨g', hg', hgf'⟩

/-- Erasing keys of an index leaves the others as they are. -/
theorem get?_foldl_erase (keys : List String) (index : Table FileId) (k : String) :
    (keys.foldl Table.erase index).get? k = if k ∈ keys then none else index.get? k := by
  induction keys generalizing index with
  | nil => simp
  | cons key keys ih =>
    rw [List.foldl_cons, ih, Table.get?_erase]
    by_cases hk : k ∈ keys <;> by_cases he : k = key <;> simp [hk, he]

/-- Inserting keys into an index that lead to one id leaves the others as they are. -/
theorem get?_foldl_insert (keys : List String) (id : FileId) (index : Table FileId) (k : String) :
    (keys.foldl (fun index key => index.insert key id) index).get? k =
      if k ∈ keys then some id else index.get? k := by
  induction keys generalizing index with
  | nil => simp
  | cons key keys ih =>
    rw [List.foldl_cons, ih, Table.get?_insert]
    by_cases hk : k ∈ keys <;> by_cases he : k = key <;> simp [hk, he]

theorem file?_createFile (l : Ledger) (f : File) (id : FileId) :
    (l.createFile f).file? id = if id = f.id then some f else l.file? id :=
  file?_putFile l f id

/-- The tables of the ledger fit each other. -/
structure Indexed (l : Ledger) : Prop where
  tasks : IsIndex Key.task (·.id) (fun t => some (Key.taskName t.name)) l.tasks l.taskNames
  sensors : IsIndex Key.sensor (·.id) (fun s => some (sensorKey s)) l.sensors l.sensorIndex
  groups :
    IsIndex Key.group (·.id) (fun g => g.managedObjectId.map Key.groupOf) l.groups l.groupIndex
  files : ∀ {k f}, l.files.get? k = some f → k = Key.file f.id
  fileIndex : ∀ {k i}, l.fileIndex.get? k = some i → ∃ f, l.file? i = some f ∧ k ∈ indexKeys f

namespace Indexed

variable {l : Ledger}

theorem empty : Indexed .empty where
  tasks := .empty
  sensors := .empty
  groups := .empty
  files h := by cases h
  fileIndex h := by cases h

/-! ### What is found -/

theorem task_id (h : l.Indexed) {id : TaskId} {t : Task} (ht : l.task? id = some t) : t.id = id :=
  (key_task_injective (h.tasks.keyed ht)).symm

theorem file_id (h : l.Indexed) {id : FileId} {f : File} (hf : l.file? id = some f) : f.id = id :=
  (key_file_injective (h.files hf)).symm

theorem sensor_id (h : l.Indexed) {id : SensorId} {s : Sensor} (hs : l.sensor? id = some s) :
    s.id = id :=
  (key_sensor_injective (h.sensors.keyed hs)).symm

theorem group_id (h : l.Indexed) {id : GroupId} {g : Group} (hg : l.group? id = some g) :
    g.id = id :=
  (key_group_injective (h.groups.keyed hg)).symm

/-! ### Tasks -/

theorem putTask (h : l.Indexed) {t b : Task} (hb : l.task? t.id = some b) (hn : b.name = t.name) :
    (l.putTask t).Indexed where
  tasks := h.tasks.replace hb (h.task_id hb) (by rw [hn])
  sensors := h.sensors
  groups := h.groups
  files := h.files
  fileIndex := h.fileIndex

/-- Tasks that are known may be put again with changes that keep their ids and names. -/
theorem putTasks (h : l.Indexed) {ts : List Task} {change : Task → Task}
    (hid : ∀ t, (change t).id = t.id) (hname : ∀ t, (change t).name = t.name)
    (hts : ∀ t ∈ ts, ∃ b, l.task? t.id = some b ∧ b.name = t.name) :
    (ts.foldl (fun l t => l.putTask (change t)) l).Indexed := by
  induction ts generalizing l with
  | nil => exact h
  | cons t ts ih =>
    obtain ⟨b, hb, hn⟩ := hts t List.mem_cons_self
    refine ih (h.putTask (by rw [hid, hb]) (by rw [hname, hn])) fun u hu => ?_
    obtain ⟨c, hc, hcn⟩ := hts u (List.mem_cons_of_mem t hu)
    rw [task?_putTask, hid]
    by_cases he : u.id = t.id
    · rw [if_pos he]
      rw [he, hb] at hc
      obtain rfl := Option.some.inj hc
      exact ⟨_, rfl, by rw [hname, ← hn, hcn]⟩
    · rw [if_neg he]
      exact ⟨c, hc, hcn⟩

theorem setModes (h : l.Indexed) (ids : List TaskId) (mode : TaskMode) (now : Instant) :
    (l.setModes ids mode now).2.Indexed := by
  refine h.putTasks (fun _ => rfl) (fun _ => rfl) fun t ht => ?_
  obtain ⟨id, -, hid⟩ := List.mem_filterMap.1 (List.mem_filter.1 ht).1
  exact ⟨t, by rw [h.task_id hid, hid], rfl⟩

theorem createTask (h : l.Indexed) {t : Task} {l' : Ledger} (hnew : l.task? t.id = none)
    (hl : l.createTask t = .ok l') : l'.Indexed := by
  obtain ⟨hn, rfl⟩ := createTask_eq_ok hl
  exact {
    tasks := h.tasks.insert hnew hn rfl
    sensors := h.sensors
    groups := h.groups
    files := h.files
    fileIndex := h.fileIndex }

theorem updateTask (h : l.Indexed) {id : TaskId} {p : TaskPatch} {now : Instant} {t : Task}
    {l' : Ledger} (hl : l.updateTask id p now = .ok (t, l')) : l'.Indexed := by
  obtain ⟨old, hold, rfl, rfl⟩ := updateTask_eq_ok hl
  exact h.putTask (b := old) ((congrArg l.task? (h.task_id hold)).trans hold) rfl

/-- A task is changed in its place. -/
theorem task?_updateTask (h : l.Indexed) {id : TaskId} {p : TaskPatch} {now : Instant} {t : Task}
    {l' : Ledger} (hl : l.updateTask id p now = .ok (t, l')) (i : TaskId) :
    l'.task? i = if i = id then some t else l.task? i := by
  obtain ⟨old, hold, rfl, rfl⟩ := updateTask_eq_ok hl
  rw [← h.task_id hold]
  exact task?_putTask l _ i

/-! ### Files -/

/-- A file may be put in place of nothing, or of one with the same keys. -/
theorem putFile (h : l.Indexed) {f : File}
    (hb : ∀ b, l.file? f.id = some b → indexKeys b = indexKeys f) : (l.putFile f).Indexed where
  tasks := h.tasks
  sensors := h.sensors
  groups := h.groups
  files {k g} hg := by
    simp only [Ledger.putFile, Table.get?_insert] at hg
    split at hg
    · cases hg
      assumption
    · exact h.files hg
  fileIndex {k i} hi := by
    obtain ⟨g, hg, hk⟩ := h.fileIndex hi
    by_cases he : i = f.id
    · subst he
      exact ⟨f, Table.get?_insert_self .., hb g hg ▸ hk⟩
    · refine ⟨g, ?_, hk⟩
      simp only [Ledger.file?, Ledger.putFile]
      rw [Table.get?_insert_of_ne fun hk => he (key_file_injective hk)]
      exact hg

theorem exposeFiles (h : l.Indexed) (ids : List FileId) (p : Platform) (now : Instant) :
    (l.exposeFiles ids p now).2.Indexed := by
  refine exposeFiles_keeps (k := indexKeys) (fun _ _ _ => rfl) (fun l f g hl hg hk => ?_)
    h.file_id h ids p now
  exact hl.putFile fun b hb => by rw [← Option.some.inj (hg.symm.trans hb), hk]

/-- A changed file takes the place of the file that it was. -/
theorem file?_patched (h : l.Indexed) {id : FileId} {f : File} (hf : l.file? id = some f)
    (p : FilePatch) (now : Instant) : l.file? (p.apply now f).id = some f := by
  rw [show (p.apply now f).id = f.id from rfl, h.file_id hf, hf]

theorem updateFile (h : l.Indexed) {id : FileId} {p : FilePatch} {now : Instant} {f : File}
    {l' : Ledger} (hl : l.updateFile id p now = .ok (f, l')) : l'.Indexed := by
  obtain ⟨old, hold, rfl, rfl⟩ := updateFile_eq_ok hl
  refine h.putFile fun b hb => ?_
  obtain rfl := Option.some.inj ((h.file?_patched hold p now).symm.trans hb)
  rfl

/-- Keys may lead to a file that has them. -/
theorem addKeys (h : l.Indexed) {f : File} (hf : l.file? f.id = some f) {keys : List String}
    (hkeys : keys ⊆ indexKeys f) :
    Indexed { l with
      fileIndex := keys.foldl (fun index key => index.insert key f.id) l.fileIndex } := by
  induction keys generalizing l with
  | nil => exact h
  | cons key keys ih =>
    rw [List.cons_subset] at hkeys
    refine ih (l := { l with fileIndex := l.fileIndex.insert key f.id }) ?_ hf hkeys.2
    exact {
      tasks := h.tasks
      sensors := h.sensors
      groups := h.groups
      files := h.files
      fileIndex := fun {k i} hi => by
        simp only [Table.get?_insert] at hi
        split at hi
        · cases hi
          subst k
          exact ⟨f, hf, hkeys.1⟩
        · exact h.fileIndex hi }

theorem createFile (h : l.Indexed) {f : File}
    (hb : ∀ b, l.file? f.id = some b → indexKeys b = indexKeys f) : (l.createFile f).Indexed :=
  (h.putFile hb).addKeys (Table.get?_insert_self ..) (List.Subset.refl _)

/-- A new file is found under its keys, and under other keys what was found there before. -/
theorem fileOf?_createFile (h : l.Indexed) {f : File} (hnew : l.file? f.id = none) (task : TaskId)
    (sensor : SensorId) (name : String) :
    (l.createFile f).fileOf? task sensor name =
      if Key.fileOf task sensor name ∈ indexKeys f then some f
      else l.fileOf? task sensor name := by
  have hindex : (l.createFile f).fileIndex.get? (Key.fileOf task sensor name) = _ :=
    get?_foldl_insert (indexKeys f) f.id l.fileIndex _
  unfold fileOf?
  rw [hindex]
  split
  · rw [Option.bind_some, file?_createFile, if_pos rfl]
  · cases hi : l.fileIndex.get? (Key.fileOf task sensor name) with
    | none => rfl
    | some i =>
      rw [Option.bind_some, Option.bind_some, file?_createFile, if_neg]
      rintro rfl
      obtain ⟨g, hg, -⟩ := h.fileIndex hi
      rw [hnew] at hg
      cases hg

/-- A file that is found under a key is stored under its id. -/
theorem file?_of_fileOf? (h : l.Indexed) {task : TaskId} {sensor : SensorId} {name : String}
    {f : File} (hf : l.fileOf? task sensor name = some f) : l.file? f.id = some f := by
  obtain ⟨i, -, hf⟩ := Option.bind_eq_some_iff.1 hf
  rw [h.file_id hf, hf]

theorem deleteFile (h : l.Indexed) (id : FileId) : (l.deleteFile id).2.Indexed := by
  unfold Ledger.deleteFile
  split
  · exact h
  · rename_i f hf
    exact {
      tasks := h.tasks
      sensors := h.sensors
      groups := h.groups
      files := fun {k g} hg => by
        simp only [Table.get?_erase] at hg
        split at hg
        · cases hg
        · exact h.files hg
      fileIndex := fun {k i} hi => by
        simp only [get?_foldl_erase] at hi
        split at hi
        · cases hi
        · rename_i hk
          obtain ⟨g, hg, hkg⟩ := h.fileIndex hi
          refine ⟨g, ?_, hkg⟩
          simp only [Ledger.file?, Table.get?_erase]
          rw [if_neg]
          · exact hg
          · intro he
            rw [key_file_injective he, hf] at hg
            cases hg
            exact hk hkg }

/-! ### Sensors and groups -/

theorem createSensor (h : l.Indexed) {s : Sensor} {l' : Ledger} (hnew : l.sensor? s.id = none)
    (hl : l.createSensor s = .ok l') : l'.Indexed := by
  obtain ⟨hn, rfl⟩ := createSensor_eq_ok hl
  exact {
    tasks := h.tasks
    sensors := h.sensors.insert hnew hn rfl
    groups := h.groups
    files := h.files
    fileIndex := h.fileIndex }

theorem createGroup (h : l.Indexed) {g : Group} {l' : Ledger} (hnew : l.group? g.id = none)
    (hl : l.createGroup g = .ok l') : l'.Indexed := by
  rcases createGroup_eq_ok hl with ⟨hobject, rfl⟩ | ⟨object, hobject, hn, rfl⟩
  · exact {
      tasks := h.tasks
      sensors := h.sensors
      groups := h.groups.insert_unnamed hnew (by rw [hobject]; rfl)
      files := h.files
      fileIndex := h.fileIndex }
  · exact {
      tasks := h.tasks
      sensors := h.sensors
      groups := h.groups.insert hnew hn (by rw [hobject]; rfl)
      files := h.files
      fileIndex := h.fileIndex }

theorem putGroup (h : l.Indexed) {g b : Group} (hb : l.group? g.id = some b)
    (hn : b.managedObjectId = g.managedObjectId) : (l.putGroup g).Indexed where
  tasks := h.tasks
  sensors := h.sensors
  groups := h.groups.replace hb (h.group_id hb) (by rw [hn])
  files := h.files
  fileIndex := h.fileIndex

theorem addMembers (h : l.Indexed) {id : GroupId} {sensors : List SensorId}
    {groups : List GroupId} {g : Group} {l' : Ledger}
    (hl : l.addMembers id sensors groups = .ok (g, l')) : l'.Indexed := by
  obtain ⟨old, hold, rfl, rfl⟩ := addMembers_eq_ok hl
  exact h.putGroup (b := old) ((congrArg l.group? (h.group_id hold)).trans hold) rfl

/-- A group gets its members in its place. -/
theorem group?_addMembers (h : l.Indexed) {id : GroupId} {sensors : List SensorId}
    {groups : List GroupId} {g : Group} {l' : Ledger}
    (hl : l.addMembers id sensors groups = .ok (g, l')) (i : GroupId) :
    l'.group? i = if i = id then some g else l.group? i := by
  obtain ⟨old, hold, rfl, rfl⟩ := addMembers_eq_ok hl
  rw [← h.group_id hold]
  exact group?_putGroup l _ i

end Indexed

end Ledger

end SensorTasks

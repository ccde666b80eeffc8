import Mathlib.Data.List.Forall2
import SensorTasks.Proofs.FetchReport
import SensorTasks.Proofs.Lookup
import SensorTasks.Proofs.Renaming

/-!
Handlings of reports that take turns. A handling reads its task, looks up or creates the files of
its results, and changes the task in the end, by one command that knows nothing of what happened in
between. Two handlings may create two files for the same sensor and name; so files that are new are
told apart by the keys that they are found under, and those that were known by their ids. Told apart
this way, the files of the results are known before anything is done.
-/

namespace SensorTasks

open Message Inbox

namespace World

/-- The key of a file, seen from an earlier world: its own if the file was known there, or else the
one that it is found under. -/
def fileKey (w v : World) (id : FileId) : String :=
  match w.ledger.file? id, v.ledger.file? id with
  | none, some f => (Ledger.indexKeys f).headD (Ledger.Key.file id)
  | _, _ => Ledger.Key.file id

/-- The key of the file of a result, seen from the world before it is handled; there is none for an
unknown sensor. -/
def resultKey (w : World) (task : TaskId) (r : FetchResult) : Option String :=
  (w.ledger.sensor? r.sensorId).map fun s =>
    match w.ledger.fileOf? task s.id r.fileName with
    | some f => Ledger.Key.file f.id
    | none => Ledger.Key.fileOf task s.id r.fileName

/-- What handlings of reports about a task leave of the world: more files, all of which have new ids
and are found under one key. -/
structure Handled (w : World) (task : TaskId) (v : World) : Prop where
  grown : w.MoreFiles v
  new : ∀ {id f}, v.ledger.file? id = some f → w.ledger.file? id = none → ¬w.Old id
  found : ∀ {sensor name f}, v.ledger.fileOf? task sensor name = some f →
    w.ledger.fileOf? task sensor name = some f ∨
      w.ledger.fileOf? task sensor name = none ∧ w.ledger.file? f.id = none ∧
        Ledger.indexKeys f = [Ledger.Key.fileOf task sensor name]
  task : ∃ t, v.ledger.task? task = some t ∧ t.type = .dataFetch

theorem key_fileOf_ne_file (task : TaskId) (sensor : SensorId) (name : String) (id : FileId) :
    Ledger.Key.fileOf task sensor name ≠ Ledger.Key.file id := by
  intro h
  have hdata := congrArg (fun s : String => s.toList[4]?) h
  simp [Ledger.Key.fileOf, Ledger.Key.file] at hdata

namespace Handled

variable {w u v : World} {task : TaskId} {r : FetchResult} {f : File} {s : Sensor}

theorem start (hw : w.Consistent) {t : Task} (ht : w.ledger.task? task = some t)
    (htype : t.type = .dataFetch) : Handled w task w where
  grown := .refl hw
  new hf hnone := by
    rw [hnone] at hf
    cases hf
  found hf := Or.inl hf
  task := ⟨t, ht, htype⟩

/-- A file whose id was given out is told by its own key. -/
theorem fileKey_of_old (h : Handled w task v) {id : FileId} (hid : w.Old id) :
    w.fileKey v id = Ledger.Key.file id := by
  unfold fileKey
  cases hw : w.ledger.file? id with
  | some f => rfl
  | none =>
    cases hv : v.ledger.file? id with
    | none => rfl
    | some f => exact absurd hid (h.new hv hw)

/-- What is found for a result has the key that was foreseen. -/
theorem fileKey_of_found (h : Handled w task v) (hw : w.Consistent)
    (hs : w.ledger.sensor? r.sensorId = some s)
    (hf : v.ledger.fileOf? task s.id r.fileName = some f) :
    some (w.fileKey v f.id) = w.resultKey task r := by
  rw [resultKey, hs, Option.map_some]
  rcases h.found hf with hknown | ⟨hnone, hnew, hkeys⟩
  · simp only [hknown, fileKey, hw.indexed.file?_of_fileOf? hknown]
  · simp only [hnone, fileKey, hnew, h.grown.consistent.indexed.file?_of_fileOf? hf, hkeys,
      List.headD_cons]

/-- The key of a file that is known stays the same. -/
theorem fileKey_later {id : FileId} (hu : ∃ f, u.ledger.file? id = some f)
    (huv : ∀ id f, u.ledger.file? id = some f → v.ledger.file? id = some f) :
    w.fileKey v id = w.fileKey u id := by
  obtain ⟨f, hf⟩ := hu
  rw [fileKey, fileKey, hf, huv id f hf]

theorem of_ledger (h : Handled w task u) (hl : v.ledger = u.ledger)
    (hn : u.nextNumber ≤ v.nextNumber) : Handled w task v where
  grown :=
    { consistent := h.grown.consistent.outside hl hn
      number := Nat.le_trans h.grown.number hn
      sensors := by rw [hl, h.grown.sensors]
      file := fun hf => by rw [hl, h.grown.file hf]
      fileOf := fun hf => by rw [hl, h.grown.fileOf hf] }
  new hf := h.new (hl ▸ hf)
  found hf := h.found (hl ▸ hf)
  task := hl ▸ h.task

/-- A new file under a key that was not known. -/
theorem createFile (h : Handled w task u) (hw : w.Consistent) {new : NewFile} {sensor : SensorId}
    {name : String} (hnone : w.ledger.fileOf? task sensor name = none)
    (hkeys : ∀ id now, Ledger.indexKeys (File.ofNew new id now) =
      [Ledger.Key.fileOf task sensor name]) :
    Handled w task ((Command.createFile new).run u).2 := by
  have hu := h.grown.consistent
  have hnew : ¬w.Old (FreshId.text u.nextNumber) := World.not_old_text h.grown.number
  have hfile : ∀ id, ((Command.createFile new).run u).2.ledger.file? id =
      if id = FreshId.text u.nextNumber then
        some (File.ofNew new (FreshId.text u.nextNumber) u.clock) else u.ledger.file? id :=
    fun id => Ledger.file?_createFile _ _ _
  have hfileOf : ∀ task' sensor' name',
      ((Command.createFile new).run u).2.ledger.fileOf? task' sensor' name' =
        if Ledger.Key.fileOf task' sensor' name' = Ledger.Key.fileOf task sensor name then
          some (File.ofNew new (FreshId.text u.nextNumber) u.clock)
        else u.ledger.fileOf? task' sensor' name' := fun task' sensor' name' => by
    refine (hu.indexed.fileOf?_createFile hu.next_file task' sensor' name').trans ?_
    simp only [hkeys, List.mem_singleton]
  -- under the key of the new file nothing was known
  have hsame : ∀ {task' sensor' name'},
      Ledger.Key.fileOf task' sensor' name' = Ledger.Key.fileOf task sensor name →
        w.ledger.fileOf? task' sensor' name' = none := by
    intro task' sensor' name' he
    rw [← hnone, Ledger.fileOf?, Ledger.fileOf?, he]
  refine ⟨⟨hu.run (c := .createFile new) trivial,
    Nat.le_trans h.grown.number (Command.le_nextNumber (.createFile new) u), h.grown.sensors,
    fun {id f} hf => ?_, fun {task' sensor' name' f} hf => ?_⟩, fun {id f} hf hwf => ?_,
    fun {sensor' name' f} hf => ?_, h.task⟩
  · rw [hfile, if_neg, h.grown.file hf]
    rintro rfl
    rw [hw.file_new hnew] at hf
    cases hf
  · rw [hfileOf, if_neg, h.grown.fileOf hf]
    intro he
    rw [hsame he] at hf
    cases hf
  · rw [hfile] at hf
    split at hf
    · subst id
      exact hnew
    · exact h.new hf hwf
  · rw [hfileOf] at hf
    split at hf
    · rename_i he
      obtain rfl := Option.some.inj hf
      exact Or.inr ⟨hsame he, hw.file_new hnew, (hkeys _ _).trans (congrArg (fun k => [k]) he.symm)⟩
    · exact h.found hf

/-- Changing tasks leaves the files as they are. -/
theorem updateTask (h : Handled w task u) {p : TaskPatch}
    (hfresh : (Command.updateTask task p).Fresh u) :
    Handled w task ((Command.updateTask task p).run u).2 := by
  obtain ⟨t, ht, htype⟩ := h.task
  have hv := h.grown.consistent.run hfresh
  have hid := h.grown.consistent.indexed.task_id ht
  rw [Command.run_updateTask ht] at hv ⊢
  refine ⟨⟨hv, h.grown.number, h.grown.sensors, h.grown.file, h.grown.fileOf⟩, h.new, h.found,
    p.apply u.clock t, ?_, TaskPatch.apply_type.trans htype⟩
  rw [Ledger.task?_putTask, TaskPatch.apply_id, if_pos hid.symm]

end Handled

end World

/-! ### The rules -/

def Command.isUpdate : Command → Bool
  | updateTask _ _ => true
  | _ => false

/-- What a handling may count on. -/
def handlings (w : World) (task : TaskId) : Rely where
  holds := World.Handled w task
  later u v := u.nextNumber ≤ v.nextNumber ∧
    ∀ id f, u.ledger.file? id = some f → v.ledger.file? id = some f
  refl _ := ⟨Nat.le_refl _, fun _ _ h => h⟩
  trans h h' := ⟨Nat.le_trans h.1 h'.1, fun id f hf => h'.2 id f (h.2 id f hf)⟩

namespace FetchReport

/-- The result has the file that was foreseen. -/
structure Foreseen (w v : World) (task : TaskId) (r : FetchResult) (a : ResolvedResult) :
    Prop where
  eq : a = Report.resolved r a.fileId
  key : a.fileId.map (w.fileKey v) = w.resultKey task r
  file : ∀ f, a.fileId = some f → ∃ g, v.ledger.file? f = some g

/-- The entries that a handling puts in place come of those that it saw and of its results. -/
def Merges (w v : World) (m : FetchReport) (seen : List FetchEntry)
    (entries : Option (List FetchEntry)) : Prop :=
  ∃ fresh rs, List.Forall₂ (Foreseen w v m.task) m.results rs ∧ (∀ i, ¬w.Old (fresh i)) ∧
    entries = let merge := mergeResults seen fresh rs
      if merge.changed then some merge.entries else none

/-- The rules of a handling: it looks up its task first, then other things, and changes the task
last. -/
def mayHandle (w : World) (m : FetchReport) : Rules := fun past v c =>
  c.Fresh v ∧ (∀ e ∈ past, e.command.isUpdate = false) ∧
    ((past = [] ∧ c = .findTask m.task) ∨
      (past ≠ [] ∧ c.isLookup = true ∧ ∀ id, c ≠ .findTask id) ∨
      (past ≠ [] ∧ ∃ new sensor name, c = .createFile new ∧
        w.ledger.fileOf? m.task sensor name = none ∧
        ∀ id now, Ledger.indexKeys (File.ofNew new id now) =
          [Ledger.Key.fileOf m.task sensor name]) ∨
      ∃ t now entries, c = .updateTask m.task (m.patch now entries) ∧
        Event.mk (.findTask m.task) (some t) ∈ past ∧ m.Merges w v t.entries entries)

/-- What is wanted of a handling: it has changed the task, if it has results. -/
def handled (m : FetchReport) : Goal (Except ConsumeError Unit) := fun past _ _ =>
  m.results ≠ [] → ∃ e ∈ past, e.command.isUpdate = true

/-- The task has been looked up and not been changed yet. -/
structure Ready (m : FetchReport) (t : Task) (past : List Event) (v : World) : Prop where
  id : t.id = m.task
  seen : Event.mk (.findTask m.task) (some t) ∈ past
  unchanged : ∀ e ∈ past, e.command.isUpdate = false
  old : ∀ e ∈ t.entries, ∀ f, e.fileId = some f → v.Old f

variable {w u v : World} {m : FetchReport} {t : Task} {past : List Event} {r : FetchResult}
  {a : ResolvedResult}

theorem Foreseen.later (h : Foreseen w u m.task r a) (huv : (handlings w m.task).later u v) :
    Foreseen w v m.task r a := by
  refine ⟨h.eq, ?_, fun f hf => ?_⟩
  · rw [← h.key]
    cases hf : a.fileId with
    | none => rfl
    | some f => exact congrArg some (World.Handled.fileKey_later (h.file f hf) huv.2)
  · obtain ⟨g, hg⟩ := h.file f hf
    exact ⟨g, huv.2 f g hg⟩

theorem Merges.later {seen : List FetchEntry} {entries : Option (List FetchEntry)}
    (h : m.Merges w u seen entries) (huv : (handlings w m.task).later u v) :
    m.Merges w v seen entries := by
  obtain ⟨fresh, rs, hrs, hfresh, hentries⟩ := h
  exact ⟨fresh, rs, hrs.imp fun _ _ h => h.later huv, hfresh, hentries⟩

theorem Ready.later (h : m.Ready t past u) (huv : u.nextNumber ≤ v.nextNumber) :
    m.Ready t past v :=
  ⟨h.id, h.seen, h.unchanged, fun e he f hf => (h.old e he f hf).mono huv⟩

theorem Ready.append (h : m.Ready t past u) {e : Event} (he : e.command.isUpdate = false) :
    m.Ready t (past ++ [e]) u := by
  refine ⟨h.id, List.mem_append_left _ h.seen, fun d hd => ?_, h.old⟩
  rcases List.mem_append.1 hd with hd | hd
  · exact h.unchanged d hd
  · rw [List.mem_singleton.1 hd, he]

theorem Ready.ne_nil (h : m.Ready t past u) : past ≠ [] := List.ne_nil_of_mem h.seen

/-- Lookups, but for those of tasks, are allowed once the task has been looked up. -/
theorem Ready.mayLookUp (h : m.Ready t past u) {c : Command} (hc : c.isLookup = true)
    (hne : ∀ id, c ≠ .findTask id) (v : World) : mayHandle w m past v c :=
  ⟨Command.fresh_of_isLookup hc v, h.unchanged, Or.inr (Or.inl ⟨h.ne_nil, hc, hne⟩)⟩

/-! ### A handling keeps to its rules -/

theorem fileFor_ensures (hw : w.Consistent) (h : m.Ready t past u) {s : Sensor}
    (hs : w.ledger.sensor? r.sensorId = some s) :
    (Report.fileFor t s r).Ensures (handlings w m.task) (mayHandle w m)
      (fun past' v f => m.Ready t past' v ∧ (∃ g, v.ledger.file? f.id = some g) ∧
        some (w.fileKey v f.id) = w.resultKey m.task r) past u := by
  -- what is found now is still there later
  have hlater : ∀ {past' v f}, m.Ready t past' v → World.Handled w m.task v →
      v.ledger.fileOf? m.task s.id r.fileName = some f →
      ∀ x, (handlings w m.task).later v x → m.Ready t past' x ∧
        (∃ g, x.ledger.file? f.id = some g) ∧ some (w.fileKey x f.id) = w.resultKey m.task r := by
    intro past' v f hready hv hf x hvx
    have hfile := hv.grown.consistent.indexed.file?_of_fileOf? hf
    refine ⟨hready.later hvx.1, ⟨f, hvx.2 _ _ hfile⟩, ?_⟩
    rw [World.Handled.fileKey_later ⟨f, hfile⟩ hvx.2, hv.fileKey_of_found hw hs hf]
  unfold Report.fileFor
  refine Action.Ensures.perform fun v hv huv =>
    ⟨(h.later huv.1).mayLookUp rfl (fun _ h => by cases h) v, fun _ _ => ?_⟩
  have hv : World.Handled w m.task v := hv
  have hready := (h.later huv.1).append
    (e := ⟨.findFileOf t.id s.id r.fileName, v.ledger.fileOf? t.id s.id r.fileName⟩) rfl
  simp only [Command.run]
  rw [h.id] at hready ⊢
  cases hf : v.ledger.fileOf? m.task s.id r.fileName with
  | some f =>
    rw [hf] at hready
    exact Action.Ensures.pure fun x _ hvx => hlater hready hv hf x hvx
  | none =>
    rw [hf] at hready
    intro x hx hvx
    have hx : World.Handled w m.task x := hx
    have hnone : w.ledger.fileOf? m.task s.id r.fileName = none := by
      cases hknown : w.ledger.fileOf? m.task s.id r.fileName with
      | none => rfl
      | some f =>
        rw [hv.grown.fileOf hknown] at hf
        cases hf
    have hkeys : ∀ id now, Ledger.indexKeys (File.ofNew (Report.newFile t s r) id now) =
        [Ledger.Key.fileOf m.task s.id r.fileName] := fun id now => by
      rw [Report.indexKeys_newFile, h.id]
    refine ⟨⟨trivial, hready.unchanged, Or.inr (Or.inr (Or.inl ⟨hready.ne_nil, _, _, _, rfl, hnone,
      hkeys⟩))⟩, fun hy hxy y _ hyy => ?_⟩
    refine hlater ((hready.later (Nat.le_trans hvx.1 hxy.1)).append rfl) hy ?_ y hyy
    exact (hx.grown.consistent.indexed.fileOf?_createFile hx.grown.consistent.next_file _ _ _).trans
      (if_pos (by simp [hkeys]))

theorem resolve_ensures (hw : w.Consistent) (h : m.Ready t past u) (r : FetchResult) :
    (Report.resolve t r).Ensures (handlings w m.task) (mayHandle w m)
      (fun past' v a => m.Ready t past' v ∧ Foreseen w v m.task r a) past u := by
  unfold Report.resolve
  refine Action.Ensures.perform fun v hv huv =>
    ⟨(h.later huv.1).mayLookUp rfl (fun _ h => by cases h) v, fun _ _ => ?_⟩
  have hv : World.Handled w m.task v := hv
  have hready := (h.later huv.1).append
    (e := ⟨.findSensor r.sensorId, v.ledger.sensor? r.sensorId⟩) rfl
  simp only [Command.run]
  rw [hv.grown.sensor?] at hready ⊢
  cases hs : w.ledger.sensor? r.sensorId with
  | none =>
    rw [hs] at hready
    refine Action.Ensures.pure fun x _ hvx => ⟨hready.later hvx.1, rfl, ?_, fun f hf => ?_⟩
    · rw [World.resultKey, hs]
      rfl
    · cases hf
  | some s =>
    rw [hs] at hready
    refine (fileFor_ensures hw hready hs).bind fun f past' x _ hvx hf => ?_
    obtain ⟨hready', hfile, hkey⟩ := hf
    refine Action.Ensures.pure fun y _ hxy => ⟨hready'.later hxy.1, ?_⟩
    refine Foreseen.later ⟨rfl, hkey, fun g hg => ?_⟩ hxy
    exact Option.some.inj hg ▸ hfile

theorem resolveAll_ensures (hw : w.Consistent) (h : m.Ready t past u) (rs : List FetchResult) :
    (Report.resolveAll t rs).Ensures (handlings w m.task) (mayHandle w m)
      (fun past' v as => m.Ready t past' v ∧ List.Forall₂ (Foreseen w v m.task) rs as) past u := by
  induction rs generalizing past u with
  | nil => exact Action.Ensures.pure fun v _ huv => ⟨h.later huv.1, .nil⟩
  | cons r rs ih =>
    unfold Report.resolveAll
    refine (resolve_ensures hw h r).bind fun a past' v _ _ ha => ?_
    refine (ih ha.1).bind fun as past'' x _ hvx has => ?_
    refine Action.Ensures.pure fun y _ hxy => ⟨has.1.later hxy.1, .cons ?_ ?_⟩
    · exact (ha.2.later hvx).later hxy
    · exact has.2.imp fun _ _ h => h.later hxy

/-- The files of the results have ids that were given out. -/
theorem foreseen_old (hv : World.Handled w m.task v) {rs : List FetchResult}
    {as : List ResolvedResult} (h : List.Forall₂ (Foreseen w v m.task) rs as) :
    ∀ a ∈ as, ∀ f, a.fileId = some f → v.Old f := by
  intro a ha f hf
  obtain ⟨i, hi⟩ := List.mem_iff_getElem?.1 ha
  obtain ⟨hlen, hall⟩ := List.forall₂_iff_get.1 h
  obtain ⟨hlt, rfl⟩ := List.getElem?_eq_some_iff.1 hi
  obtain ⟨g, hg⟩ := (hall i (hlen ▸ hlt) hlt).file f hf
  have hold : v.Old g.id := hv.grown.consistent.old.files _ g hg
  rwa [hv.grown.consistent.indexed.file_id hg] at hold

theorem reconcile_ensures (hw : w.Consistent) (h : m.Ready t past u) :
    (Report.reconcile t m.results).Ensures (handlings w m.task) (mayHandle w m)
      (fun past' v entries => m.Ready t past' v ∧ m.Merges w v t.entries entries ∧
        ∀ data, entries = some data → ∀ e ∈ data, ∀ f, e.fileId = some f → v.Old f) past u := by
  unfold Report.reconcile
  refine (resolveAll_ensures hw h m.results).bind fun as past' v _ _ has => ?_
  refine Action.Ensures.perform fun x hx hvx =>
    ⟨(has.1.later hvx.1).mayLookUp rfl (fun _ h => by cases h) x, fun _ hxy => ?_⟩
  have hx : World.Handled w m.task x := hx
  have hready := ((has.1.later hvx.1).append
    (e := ⟨.reserve as.length, x.nextNumber⟩) rfl)
  have hforeseen := has.2.imp fun _ _ h => h.later hvx
  refine Action.Ensures.pure fun z _ hyz => ?_
  have hxz := (handlings w m.task).trans hxy hyz
  refine ⟨hready.later hxz.1, Merges.later ⟨fun i => FreshId.text (x.nextNumber + i), as, hforeseen,
    fun i => ?_, rfl⟩ hxz, fun data hdata e he f hf => ?_⟩
  · exact World.not_old_text (Nat.le_trans hx.grown.number (Nat.le_add_right _ i))
  · refine World.Old.mono ?_ hxz.1
    have hdata : (if (mergeResults t.entries _ as).changed then
      some (mergeResults t.entries _ as).entries else none) = some data := hdata
    split at hdata
    · obtain rfl := Option.some.inj hdata
      exact merge_old hready.old (foreseen_old hx hforeseen) e he f hf
    · cases hdata

/-- The last command of a handling. -/
theorem update_obeys (h : m.Ready t past u) (now : Instant) {entries : Option (List FetchEntry)}
    (hmerges : m.Merges w u t.entries entries)
    (hold : ∀ data, entries = some data → ∀ e ∈ data, ∀ f, e.fileId = some f → u.Old f) :
    (m.update t now entries).run.Obeys (handlings w m.task) (mayHandle w m) m.handled past u := by
  rw [update_program, h.id]
  intro v hv huv
  have hready := h.later huv.1
  refine ⟨⟨fun data hd e he f hf => (hold data hd e he f hf).mono huv.1, hready.unchanged,
    Or.inr (Or.inr (Or.inr ⟨t, now, entries, rfl, hready.seen, hmerges.later huv⟩))⟩,
    fun _ _ => ?_⟩
  have hdone : ∀ answer, ∃ e ∈ past ++ [Event.mk (.updateTask m.task (m.patch now entries)) answer],
      e.command.isUpdate = true :=
    fun answer => ⟨_, List.mem_append_right _ (List.mem_singleton_self _), rfl⟩
  cases (Command.run (.updateTask m.task (m.patch now entries)) v).1 with
  | ok _ => exact fun _ _ _ _ => hdone _
  | error _ => exact fun _ _ _ _ => hdone _

theorem apply_obeys (hw : w.Consistent) (h : m.Ready t past u) (now : Instant) :
    (m.apply t now).run.Obeys (handlings w m.task) (mayHandle w m) m.handled past u := by
  cases hrs : FetchResult.listDecoder.fromValue m.body with
  | error e =>
    rw [apply_of_error hrs]
    intro _ _ _ hne
    exact absurd (results_of_error hrs) hne
  | ok rs =>
    have hresults := results_of_ok hrs
    rw [apply_of_ok hrs, ← hresults]
    by_cases hempty : m.results.isEmpty
    · rw [if_pos hempty]
      refine update_obeys h now ⟨fun i => FreshId.text (w.nextNumber + i), [], ?_, fun i => ?_, rfl⟩
        fun data hd => by cases hd
      · rw [List.isEmpty_iff.1 hempty]
        exact .nil
      · exact World.not_old_text (Nat.le_add_right _ i)
    · rw [if_neg hempty, Action.run_bind]
      refine Program.Obeys.bind (Program.Obeys.mono (Action.Ensures.mapError
        (reconcile_ensures hw h) fun past' v x entries _ hvx hpost => ?_)
        (fun _ _ _ _ h => h) fun past' v res _ hres => ?_)
      · refine ⟨hpost.1.later hvx.1, hpost.2.1.later hvx, fun data hd e he f hf => ?_⟩
        exact (hpost.2.2 data hd e he f hf).mono hvx.1
      · cases res with
        | ok entries => exact update_obeys hres.1 now hres.2.1 hres.2.2
        | error e => exact hres.elim

/-- A handling keeps to its rules, whatever other handlings do. -/
theorem handle_obeys (hw : w.Consistent) :
    m.handle.Obeys (handlings w m.task) (mayHandle w m) m.handled [] w := by
  rw [handle_eq, Action.run_perform_bind]
  intro v hv _
  have hv : World.Handled w m.task v := hv
  obtain ⟨t, ht, htype⟩ := hv.task
  refine ⟨⟨trivial, by simp, Or.inl ⟨rfl, rfl⟩⟩, fun _ _ => ?_⟩
  simp only [Command.run, ht, List.nil_append]
  rw [if_pos htype, Action.run_perform_bind]
  have hready : m.Ready t [⟨.findTask m.task, some t⟩] v := by
    refine ⟨hv.grown.consistent.indexed.task_id ht, by simp, by simp [Command.isUpdate],
      fun e he f hf => ?_⟩
    exact hv.grown.consistent.entry_old ht he hf
  intro x _ hvx
  have hready' := hready.later hvx.1
  refine ⟨hready'.mayLookUp rfl (fun _ h => by cases h) x, fun _ _ => ?_⟩
  exact apply_obeys hw (hready'.append rfl) x.clock

/-! ### Handlings that take turns -/

/-- A handling that takes turns with others. -/
abbrev Handler := Thread (Except ConsumeError Unit)

theorem kept_of_mayHandle (hw : w.Consistent) (hv : World.Handled w m.task v) {c : Command}
    (ha : mayHandle w m past v c) :
    World.Handled w m.task (c.run v).2 ∧ (handlings w m.task).later v (c.run v).2 := by
  have hn := c.le_nextNumber v
  obtain ⟨hfresh, -, ⟨-, rfl⟩ | ⟨-, hlook, -⟩ | ⟨-, new, sensor, name, rfl, hnone, hkeys⟩ |
    ⟨t, now, entries, rfl, -⟩⟩ := ha
  · exact ⟨hv, hn, fun _ _ h => h⟩
  · have hl := Command.ledger_of_isLookup hlook v
    exact ⟨hv.of_ledger hl hn, hn, fun id f hf => by rw [hl, hf]⟩
  · refine ⟨hv.createFile hw hnone hkeys, hn, fun id f hf => ?_⟩
    refine (Ledger.file?_createFile _ _ _).trans ((if_neg ?_).trans hf)
    rintro rfl
    exact absurd (hv.grown.consistent.next_file.symm.trans hf) (by simp)
  · refine ⟨hv.updateTask hfresh, hn, fun id f hf => ?_⟩
    obtain ⟨u, hu, -⟩ := hv.task
    rw [Command.run_updateTask hu]
    exact hf

section Turns

variable {task : TaskId} {ms : List FetchReport} {ts : List Handler}

/-- The rules of the handlings of some reports. -/
def mayHandleAll (w : World) (ms : List FetchReport) (i : Nat) : Rules := fun past v c =>
  ∃ m, ms[i]? = some m ∧ mayHandle w m past v c

/-- What is wanted of the handlings of some reports. -/
def handledAll (ms : List FetchReport) (i : Nat) : Goal (Except ConsumeError Unit) :=
  fun past v res => ∃ m, ms[i]? = some m ∧ m.handled past v res

/-- Handlings of reports about one task keep to their rules together. -/
theorem lawful_of_steps (hw : w.Consistent) (ht : w.ledger.task? task = some t)
    (htype : t.type = .dataFetch) (hms : ∀ m ∈ ms, m.task = task)
    {J : List Handler × World → Prop}
    (keptJ : ∀ ts v i past c next m, ts[i]? = some ⟨past, .call c next⟩ →
      Thread.Lawful (handlings w task) (mayHandleAll w ms) (handledAll ms) (ts, v) → J (ts, v) →
      ms[i]? = some m → mayHandle w m past v c →
      J (ts.set i (Thread.after past c next v), (c.run v).2))
    (run : Thread.Steps (ms.map fun m => Thread.start m.handle, w) (ts, v))
    (hJ : J (ms.map fun m => Thread.start m.handle, w)) :
    Thread.Lawful (handlings w task) (mayHandleAll w ms) (handledAll ms) (ts, v) ∧ J (ts, v) := by
  have hlawful : Thread.Lawful (handlings w task) (mayHandleAll w ms) (handledAll ms)
      (ms.map fun m => Thread.start m.handle, w) := by
    refine Thread.Lawful.start (World.Handled.start hw ht htype) fun i m hm => ?_
    obtain rfl := hms m (List.mem_of_getElem? hm)
    exact (handle_obeys hw).mono (fun _ _ _ _ h => ⟨m, hm, h⟩) fun _ _ _ _ h => ⟨m, hm, h⟩
  obtain ⟨hl, hJ', -⟩ := run.lawful (J := J) (fun ts v i past c next hi hl hJ ha => by
    obtain ⟨m, hm, ha⟩ := ha
    obtain rfl := hms m (List.mem_of_getElem? hm)
    have hkept := kept_of_mayHandle hw hl.holds ha
    exact ⟨hkept.1, hkept.2, keptJ ts v i past c next m hi hl hJ hm ha⟩) hlawful hJ
  exact ⟨hl, hJ'⟩

end Turns

/-! ### One handling by itself -/

theorem steps_alone (m : FetchReport) (w : World) :
    ∃ past, Thread.Steps ([m].map fun m => Thread.start m.handle, w)
      ([⟨past, .done (m.handle.run w).1⟩], (m.handle.run w).2) :=
  Thread.Steps.finish (i := 0) rfl

theorem handled_alone (hw : w.Consistent) (ht : w.ledger.task? m.task = some t)
    (htype : t.type = .dataFetch) : World.Handled w m.task (m.handle.run w).2 := by
  obtain ⟨past, hrun⟩ := steps_alone m w
  have hl := lawful_of_steps (J := fun _ => True) hw ht htype
    (fun a ha => by rw [List.mem_singleton.1 ha]) (fun _ _ _ _ _ _ _ _ _ _ _ _ => trivial) hrun
    trivial
  exact hl.1.holds

/-- Handling messages one at a time leads from reachable worlds to reachable ones. -/
theorem handle_reachable (hw : w.Reachable) (ht : w.ledger.task? m.task = some t)
    (htype : t.type = .dataFetch) : (m.handle.run w).2.Reachable := by
  obtain ⟨past, hrun⟩ := steps_alone m w
  exact (lawful_of_steps (J := fun s => s.2.Reachable) hw.consistent ht htype
    (fun a ha => by rw [List.mem_singleton.1 ha])
    (fun _ _ _ _ _ _ _ _ _ hJ _ ha => .command hJ ha.1) hrun hw).2

/-! ### A task that fetches -/

namespace Sample

def clock : Instant := (Instant.ofSecond? 0 0).get (by decide)

def sensor : Sensor :=
  ⟨FreshId.text 0, "Boiler", none, "100", "Boiler", "c8y_Temperature", none, .empty⟩

/-- A task with one entry, which has no file yet. -/
def fetching : Task where
  id := FreshId.text 1
  name := "fetch"
  status := .notStarted
  mode := .enabled
  initiatedByUser := "ada"
  metadata := ⟨clock, none, none, none, none, none, none⟩
  work := .fetch ⟨[⟨sensor.id, FreshId.text 2, none, none, none, none, none⟩], clock, none, none⟩
  attributes := .empty
  createdAt := clock
  updatedAt := clock

def world : World :=
  let reserved := ((Command.reserve 3).run (.new 8 clock)).2
  ((Command.createTask fetching).run ((Command.createSensor sensor).run reserved).2).2

theorem world_reachable : world.Reachable := by
  have hreserved := World.Reachable.command (c := .reserve 3) (.new 8 clock) trivial
  have hsensor := hreserved.command (c := .createSensor sensor) ⟨rfl, World.old_text (by decide)⟩
  refine hsensor.command (c := .createTask fetching) ⟨rfl, World.old_text (by decide), ?_⟩
  intro e he f hf
  rw [List.mem_singleton.1 he] at hf
  cases hf

/-- A file of the sensor that a report brings. -/
def brought (dataId : Option String) (name : String) : FetchResult :=
  ⟨sensor.id, dataId, name, "files", name, none, none, none⟩

def message (results : List FetchResult) : Payload :=
  .document (StatusReport.toJson FetchResult.listToJson
    ⟨fetching.id, .dataFetch, .done, none, none, none, some results⟩)

/-- A report that brings the file `a.csv` for the entry and another one. -/
def early : FetchReport :=
  (ofMessage? .taskStatus (message [brought (FreshId.text 2) "a.csv", brought none "c.csv"])).get
    (by decide +kernel)

/-- A report that names `a.csv` without the entry and brings the file `b.csv` for the entry. -/
def late : FetchReport :=
  (ofMessage? .taskStatusDataFetchResult
    (message [brought none "a.csv", brought (FreshId.text 2) "b.csv"])).get (by decide +kernel)

theorem early_task : early.task = fetching.id := by decide +kernel

theorem late_task : late.task = early.task := by decide +kernel

theorem world_task : world.ledger.task? early.task = some fetching := by
  rw [early_task]
  rfl

end Sample

end FetchReport

end SensorTasks

import SensorTasks.Proofs.Aliases
import SensorTasks.Proofs.FileIndex
import SensorTasks.Proofs.LastWrite
import SensorTasks.Proofs.MarkedFiles

/-!
What a message about one task leaves alone. It changes no other task; it brings new files, which it
enters in the index under keys of its task only; and of the files there were it changes none, unless
it reports that an upload is done, which exposes the files of the upload. Which files these are and
to which platform does not depend on anything but the task.
-/

namespace SensorTasks

open Message Inbox Ledger Ledger.Key

/-! ### What may change -/

/-- The key is that of a file of one of the tasks. -/
def Ledger.Key.OfTasks (ids : List TaskId) (key : String) : Prop :=
  ∃ id ∈ ids, Plain id ∧ ∃ sensor name, key = Key.fileOf id sensor name

/-- A key is one of a single task. -/
theorem Ledger.Key.OfTasks.not_of_disjoint {ids ids' : List TaskId} {key : String}
    (h : OfTasks ids key) (hdisjoint : ids.Disjoint ids') : ¬OfTasks ids' key := by
  rintro ⟨id', hid', hplain', sensor', name', hkey'⟩
  obtain ⟨id, hid, hplain, sensor, name, hkey⟩ := h
  have hlist := congrArg String.toList (hkey.symm.trans hkey')
  rw [toList_fileOf, toList_fileOf] at hlist
  obtain ⟨htask, -⟩ := cut_unique hplain hplain' (List.append_cancel_left hlist)
  exact hdisjoint hid (String.toList_inj.1 htask ▸ hid')

/-- The file when an upload is done, if it is one of its files. -/
def File.exposedBy (upload : Option UploadWork) (now : Instant) (f : File) : File :=
  match upload with
  | none => f
  | some u =>
    if f.id ∈ u.files.map (·.fileId) ∧ f.visibility.isExposedTo u.platform = false then
      { f with visibility := f.visibility.exposeTo u.platform, updatedAt := now }
    else f

namespace World

/-- The second world comes of the first one: the listed tasks may have changed, files with keys of
theirs may have come, and the files there were have changed as is told. -/
structure Affects (ids : List TaskId) (change : File → File) (w v : World) : Prop where
  consistent : v.Consistent
  number : w.nextNumber ≤ v.nextNumber
  task : ∀ id, id ∉ ids → v.ledger.task? id = w.ledger.task? id
  file : ∀ id, w.Old id → v.ledger.file? id = (w.ledger.file? id).map change
  index : ∀ key, OfTasks ids key ∨ v.ledger.fileIndex.get? key = w.ledger.fileIndex.get? key
  others : v.ledger.others = w.ledger.others

namespace Affects

variable {ids : List TaskId} {change change' : File → File} {u v w : World}

theorem refl (hw : w.Consistent) : w.Affects ids id w :=
  ⟨hw, Nat.le_refl _, fun _ _ => rfl, fun _ _ => Option.map_id.symm ▸ rfl, fun _ => Or.inr rfl, rfl⟩

theorem trans (h : u.Affects ids change v) (h' : v.Affects ids change' w) :
    u.Affects ids (change' ∘ change) w where
  consistent := h'.consistent
  number := Nat.le_trans h.number h'.number
  task id hid := (h'.task id hid).trans (h.task id hid)
  file id hid := by rw [h'.file id (hid.mono h.number), h.file id hid, Option.map_map]
  index key := by
    rcases h.index key with hkey | hkey
    · exact Or.inl hkey
    · exact (h'.index key).imp_right fun hkey' => hkey'.trans hkey
  others := h'.others.trans h.others

/-- Another number is given out. -/
theorem reserve (hw : w.Consistent) (n : Nat) :
    w.Affects ids id ((Command.reserve n).run w).2 := by
  have h : w.Affects ids id w := .refl hw
  exact ⟨hw.run (c := .reserve n) trivial, (Command.reserve n).le_nextNumber w, h.task, h.file,
    h.index, h.others⟩

/-- A new file that one of the tasks has created for one sensor. -/
theorem createFile (hw : w.Consistent) {new : NewFile} {task : TaskId} {sensor : SensorId}
    (htask : task ∈ ids) (hplain : Plain task)
    (hkeys : indexKeys (File.ofNew new (FreshId.text w.nextNumber) w.clock) =
      [Key.fileOf task sensor new.name]) :
    w.Affects ids id ((Command.createFile new).run w).2 where
  consistent := hw.run (c := .createFile new) trivial
  number := (Command.createFile new).le_nextNumber w
  task _ _ := rfl
  file id hid := by
    rw [Option.map_id, id_eq]
    refine (file?_createFile _ _ id).trans (if_neg ?_)
    rintro rfl
    exact not_old_text (Nat.le_refl _) hid
  index key := by
    have hindex : ((Command.createFile new).run w).2.ledger.fileIndex.get? key = _ :=
      get?_foldl_insert _ _ w.ledger.fileIndex key
    simp only [hkeys, List.mem_singleton] at hindex
    by_cases hkey : key = Key.fileOf task sensor new.name
    · exact Or.inl ⟨task, htask, hplain, sensor, new.name, hkey⟩
    · exact Or.inr (hindex.trans (if_neg hkey))
  others := rfl

/-- One of the tasks is patched. -/
theorem putTask {t : Task} (hid : t.id ∈ ids)
    (h : World.Consistent { w with ledger := w.ledger.putTask t }) :
    w.Affects ids id { w with ledger := w.ledger.putTask t } := by
  refine ⟨h, Nat.le_refl _, fun id hne => ?_, fun id _ => Option.map_id.symm ▸ rfl,
    fun _ => Or.inr rfl, rfl⟩
  rw [Ledger.task?_putTask, if_neg]
  rintro rfl
  exact hne hid

/-- The files of an upload are exposed. -/
theorem exposeFiles (hw : w.Consistent) (u : UploadWork) :
    w.Affects ids (File.exposedBy (some u) w.clock)
      ((Command.exposeFiles (u.files.map (·.fileId)) u.platform).run w).2 where
  consistent := hw.run (c := .exposeFiles _ _) trivial
  number := (Command.exposeFiles _ _).le_nextNumber w
  task id _ := by
    unfold Ledger.task?
    rw [Command.tasks_of_keepsTasks (c := .exposeFiles _ _) rfl]
  file id _ := by
    refine (file?_exposeFiles hw.indexed.file_id _ _ _ id).trans ?_
    cases hf : w.ledger.file? id with
    | none => rfl
    | some f =>
      rw [Option.map_some, Option.map_some, File.exposedBy, hw.indexed.file_id hf]
  index key := by
    refine Or.inr ?_
    simp only [Command.run]
    rw [exposeFiles_files]
  others := by
    simp only [Command.run]
    rw [exposeFiles_files]
    rfl

end Affects

end World

/-! ### Results -/

namespace Inbox.Report

variable {v w : World} {t : Task} {r : FetchResult} {file : Option FileId}

/-- The file that a result of a task gets, and the world after that. -/
inductive Resolved (w : World) (t : Task) (r : FetchResult) : Option FileId → World → Prop where
  | unknown (hs : w.ledger.sensor? r.sensorId = none) : Resolved w t r none w
  | known {s : Sensor} {f : FileId} (hs : w.ledger.sensor? r.sensorId = some s)
    (hf : w.ledger.fileIndex.get? (Key.fileOf t.id s.id r.fileName) = some f) :
    Resolved w t r (some f) w
  | created {s : Sensor} (hs : w.ledger.sensor? r.sensorId = some s)
    (hf : w.ledger.fileIndex.get? (Key.fileOf t.id s.id r.fileName) = none) :
    Resolved w t r (some (FreshId.text w.nextNumber))
      ((Command.createFile (newFile t s r)).run w).2

theorem Resolved.run (hw : w.Consistent) (h : Resolved w t r file v) :
    (resolve t r).run.run w = (.ok (resolved r file), v) := by
  unfold resolve
  rw [Action.run_perform_bind_run]
  simp only [Command.run]
  cases h with
  | unknown hs =>
    rw [hs]
    rfl
  | @known s f hs hf =>
    obtain ⟨g, hg, -⟩ := hw.indexed.fileIndex hf
    have hfound : v.ledger.fileOf? t.id s.id r.fileName = some g := by
      rw [Ledger.fileOf?, hf, Option.bind_some, hg]
    rw [hs]
    dsimp only
    rw [Action.run_bind_run]
    unfold fileFor
    rw [Action.run_perform_bind_run]
    simp only [Command.run, hfound]
    rw [← hw.indexed.file_id hg]
    rfl
  | @created s hs hf =>
    have hfound : w.ledger.fileOf? t.id s.id r.fileName = none := by
      rw [Ledger.fileOf?, hf, Option.bind_none]
    rw [hs]
    dsimp only
    rw [Action.run_bind_run]
    unfold fileFor
    rw [Action.run_perform_bind_run]
    simp only [Command.run, hfound]
    rfl

theorem exists_resolved (w : World) (t : Task) (r : FetchResult) :
    ∃ file v, Resolved w t r file v := by
  cases hs : w.ledger.sensor? r.sensorId with
  | none => exact ⟨_, _, .unknown hs⟩
  | some s =>
    cases hf : w.ledger.fileIndex.get? (Key.fileOf t.id s.id r.fileName) with
    | none => exact ⟨_, _, .created hs hf⟩
    | some f => exact ⟨_, _, .known hs hf⟩

/-- What is known of a run that resolves a result. -/
theorem resolved_of_run (hw : w.Consistent) {a : ResolvedResult}
    (h : (resolve t r).run.run w = (.ok a, v)) : ∃ file, a = resolved r file ∧
      Resolved w t r file v := by
  obtain ⟨file, v', hresolved⟩ := exists_resolved w t r
  obtain ⟨hok, rfl⟩ := Prod.mk.inj (h.symm.trans (hresolved.run hw))
  exact ⟨file, Except.ok.inj hok, hresolved⟩

theorem Resolved.affects (hw : w.Consistent) (ht : Plain t.id) (h : Resolved w t r file v) :
    w.Affects [t.id] id v := by
  cases h with
  | unknown hs => exact .refl hw
  | known hs hf => exact .refl hw
  | created hs hf =>
    exact .createFile hw (List.mem_singleton_self _) ht (indexKeys_newFile r _ _)

theorem resolveAll_affects (hw : w.Consistent) (ht : Plain t.id) {rs : List FetchResult}
    {as : List ResolvedResult} (h : (resolveAll t rs).run.run w = (.ok as, v)) :
    w.Affects [t.id] id v := by
  induction rs generalizing w as with
  | nil =>
    cases h
    exact .refl hw
  | cons r rs ih =>
    obtain ⟨a, u, ha, h⟩ := Action.run_bind_eq_ok.1 h
    obtain ⟨bs, u', hbs, h⟩ := Action.run_bind_eq_ok.1 h
    cases h
    obtain ⟨file, -, hresolved⟩ := resolved_of_run hw ha
    have hu := hresolved.affects hw ht
    exact hu.trans (ih hu.consistent hbs)

theorem reconcile_affects (hw : w.Consistent) (ht : Plain t.id) {rs : List FetchResult}
    {entries : Option (List FetchEntry)} (h : (reconcile t rs).run.run w = (.ok entries, v)) :
    w.Affects [t.id] id v := by
  obtain ⟨as, u, has, h⟩ := Action.run_bind_eq_ok.1 h
  have hu := resolveAll_affects hw ht has
  rw [Action.run_perform_bind_run] at h
  cases h
  exact hu.trans (.reserve hu.consistent as.length)

/-! ### Reports -/

/-- The upload that is done if a report with the content is about the task. -/
def Content.upload? (t : Task) : Content → Option UploadWork
  | .uploaded => t.upload?
  | _ => none

theorem applyContent_affects (hw : w.Consistent) (ht : Plain t.id) {c : Content}
    (hobjects : ∀ j, c ≠ .objects j) {p q : TaskPatch}
    (h : (applyContent t p c).run.run w = (.ok (some q), v)) :
    w.Affects [t.id] (File.exposedBy (c.upload? t) w.clock) v := by
  cases c with
  | results j =>
    obtain ⟨rs, u, hu, h⟩ := Action.run_bind_eq_ok.1 h
    rcases decode_run FetchResult.listDecoder .taskStatus j with ⟨e, -, hd⟩ | ⟨a, -, hd⟩ <;>
      rw [hd] at hu
    · cases hu
    · cases hu
      split at h
      · cases h
        exact .refl hw
      · obtain ⟨entries, u, hentries, h⟩ := Action.run_bind_eq_ok.1 h
        cases h
        exact reconcile_affects hw ht hentries
  | uploaded =>
    obtain ⟨⟨⟩, u, hu, h⟩ := Action.run_bind_eq_ok.1 h
    cases h
    unfold exposeUploaded at hu
    unfold Content.upload?
    cases hupload : t.upload? with
    | none =>
      rw [hupload] at hu
      cases hu
      exact .refl hw
    | some upload =>
      rw [hupload] at hu
      cases hu
      exact .exposeFiles hw upload
  | objects j => exact absurd rfl (hobjects j)
  | objectAmount j =>
    obtain ⟨n, u, hu, h⟩ := Action.run_bind_eq_ok.1 h
    rcases decode_run objectAmountDecoder .taskStatus j with ⟨e, -, hd⟩ | ⟨a, -, hd⟩ <;>
      rw [hd] at hu
    · cases hu
    · cases hu
      cases h
      exact .refl hw
  | nothing =>
    cases h
    exact .refl hw
  | unknown => cases h

end Inbox.Report

/-! ### Messages -/

/-- An action that keeps to the rules and runs alone leaves a consistent world. -/
theorem Action.Complies.consistent_run {ε α : Type} {a : Action ε α}
    (h : a.Complies .consistency) {w : World} (hw : w.Consistent) :
    (a.run.run w).2.Consistent :=
  (Program.Obeys.alone (K := fun _ => True) (h [] w) (fun _ _ _ h => h)
    (fun _ _ _ _ _ _ => trivial) hw trivial).1

namespace Inbox.TaskMessage

variable {w : World}

/-- The upload that the message reports to be done. -/
def upload? (l : Ledger) : TaskMessage → Option UploadWork
  | report m =>
    match l.task? m.taskId with
    | none => none
    | some t => if t.type = m.taskType then (Report.content m).upload? t else none
  | _ => none

/-- The message is a report or a failure, and carries no objects of a platform. -/
def Simple : TaskMessage → Prop
  | report m => ∀ j, Report.content m ≠ .objects j
  | failure _ => True
  | modes _ => False

theorem upload?_report {m : StatusReport Json} {t : Task} (ht : w.ledger.task? m.taskId = some t)
    (htype : t.type = m.taskType) :
    (report m).upload? w.ledger = (Report.content m).upload? t := by
  simp only [upload?, ht]
  exact if_pos htype

/-- What is reported to be done by a report that is not applied is no upload. -/
theorem upload?_of_dropped (hw : w.Consistent) {m : StatusReport Json}
    (h : ∀ t', ((Report.status m).run.run w).1 ≠ .ok (some t')) :
    (report m).upload? w.ledger = none := by
  simp only [upload?]
  split
  · rfl
  · rename_i t ht
    split
    · rename_i htype
      cases hc : Report.content m with
      | uploaded =>
        obtain ⟨t', ht'⟩ := (Report.status_applied_iff hw m).2
          ⟨⟨t, ht, htype⟩, by rw [hc]; exact nofun, by rw [hc]; rfl⟩
        exact absurd ht' (h t')
      | _ => rfl
    · rfl

theorem affects_report (hw : w.Consistent) {m : StatusReport Json} (hm : (report m).Simple)
    (hplain : ∀ t, w.ledger.task? m.taskId = some t → Plain t.id) :
    w.Affects [m.taskId] (File.exposedBy ((report m).upload? w.ledger) w.clock)
      ((report m).handle.run.run w).2 := by
  have hconsistent := (Report.complies_status Rely.consistency_orderly m).consistent_run hw
  rw [handle_report_run]
  rcases Report.status_run hw m with ⟨hworld, hnot⟩ | ⟨t, p, v, ht, htype, -, -, hrun, hstatus⟩
  · rw [hworld, upload?_of_dropped hw hnot]
    exact .refl hw
  · have hid := hw.indexed.task_id ht
    rw [hstatus] at hconsistent ⊢
    rw [upload?_report ht htype, ← hid]
    exact (Report.applyContent_affects hw (hplain t ht) hm hrun).trans
      (.putTask (t := p.apply v.clock t) (List.mem_singleton_self _) hconsistent)

theorem handle_failure_run (f : Failure) (w : World) :
    ((failure f).handle.run.run w).2 = ((Report.failure f).run.run w).2 := by
  unfold handle
  rw [Action.run_bind_run]
  rcases (Report.failure f).run.run w with ⟨⟨e⟩ | ⟨t⟩, v⟩ <;> rfl

theorem affects_failure (hw : w.Consistent) (f : Failure) :
    w.Affects [f.taskId] id ((failure f).handle.run.run w).2 := by
  have hconsistent := (Report.complies_failure f).consistent_run hw
  rw [handle_failure_run]
  rcases Report.failure_run w f with ⟨-, hrun⟩ | ⟨t, ht, hrun⟩
  · rw [hrun]
    exact .refl hw
  · have hid : t.id ∈ [f.taskId] := List.mem_singleton.2 (hw.indexed.task_id ht)
    rw [hrun] at hconsistent ⊢
    exact .putTask (t := (Report.failurePatch f w.clock).apply w.clock t) hid hconsistent

/-- What a message changes besides its task is told by the upload that it reports to be done. -/
theorem affects (hw : w.Consistent) {m : TaskMessage} (hm : m.Simple)
    (hplain : ∀ id ∈ m.names, ∀ t, w.ledger.task? id = some t → Plain t.id) :
    w.Affects m.names (File.exposedBy (m.upload? w.ledger) w.clock) (m.handle.run.run w).2 := by
  cases m with
  | report m => exact affects_report hw hm (hplain _ (List.mem_singleton_self _))
  | failure f => exact affects_failure hw f
  | modes m => exact hm.elim

end Inbox.TaskMessage

end SensorTasks

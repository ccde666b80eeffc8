import SensorTasks.Proofs.MarkedFiles
import SensorTasks.Proofs.ResultFiles

/-!
The files that the entries of a task name, when one operation follows another. A file is created for
the sensor of a result, but the result is written over the entry that has its `dataId`, and nobody
compares the sensors. So the file that an entry names was created by its task, for its sensor or for
one that a result has named together with the `dataId` of the entry.
-/

namespace SensorTasks

open Message Inbox Ledger Ledger.Key

/-! ### Files and entries -/

/-- The file was created by the task for the sensor. -/
def File.MadeFor (f : File) (task : TaskId) (sensor : SensorId) : Prop :=
  f.createdByTask = some task ∧ f.metadata.sensors = [sensor]

theorem File.MadeFor.congr {f g : File} {task : TaskId} {sensor : SensorId}
    (h : f.MadeFor task sensor) (horigin : g.origin = f.origin) : g.MadeFor task sensor := by
  simp only [File.origin, Prod.mk.injEq] at horigin
  exact ⟨horigin.1.trans h.1, horigin.2.1.trans h.2⟩

/-- A file that was there before a command is of the same origin after it. -/
theorem World.FilesKnown.origin_run {w : World} (h : w.FilesKnown) (c : Command) {id : FileId}
    (hid : w.Old id) {g : File} (hg : (c.run w).2.ledger.file? id = some g) :
    ∃ f, w.ledger.file? id = some f ∧ g.origin = f.origin := by
  cases h.after_run c hg with
  | same hg => exact ⟨g, hg, rfl⟩
  | created hnew => exact absurd hid hnew
  | patched _ hf hg => exact ⟨_, hf, hg ▸ rfl⟩
  | exposed _ hf _ _ hg => exact ⟨_, hf, hg ▸ rfl⟩

/-- The sensors that the results for a task have named together with a `dataId`. -/
abbrev Namings := TaskId → String → SensorId → Prop

/-- The command brings no files into entries. -/
def Command.FillsNoEntry : Command → Prop
  | createTask t => ∀ e ∈ t.entries, e.fileId = none
  | updateTask _ p => p.fetchEntries = none
  | _ => True

namespace World

variable {u v w : World} {named : Namings} {task : TaskId} {e : FetchEntry}

/-- The file that an entry names was given out and, if it is stored, created by the task for the
sensor of the entry, or for one that was named together with its `dataId`. -/
def Backs (w : World) (named : Namings) (task : TaskId) (e : FetchEntry) : Prop :=
  ∀ i, e.fileId = some i → w.Old i ∧ ∀ f, w.ledger.file? i = some f →
    f.MadeFor task e.sensor ∨ ∃ s, named task e.dataId s ∧ f.MadeFor task s

theorem Backs.run (h : w.Backs named task e) (hw : w.FilesKnown) (c : Command) :
    (c.run w).2.Backs named task e := by
  intro i hi
  obtain ⟨hold, hmade⟩ := h i hi
  refine ⟨hold.mono (c.le_nextNumber w), fun g hg => ?_⟩
  obtain ⟨f, hf, horigin⟩ := hw.origin_run c hold hg
  rcases hmade f hf with hmade | ⟨s, hs, hmade⟩
  · exact Or.inl (hmade.congr horigin)
  · exact Or.inr ⟨s, hs, hmade.congr horigin⟩

/-- The files that all entries name are as they should be. -/
structure Attributed (w : World) (named : Namings) : Prop where
  known : w.FilesKnown
  backs : ∀ {id t}, w.ledger.task? id = some t → ∀ e ∈ t.entries, w.Backs named t.id e

namespace Attributed

theorem mono {named' : Namings} (h : w.Attributed named)
    (hn : ∀ task dataId s, named task dataId s → named' task dataId s) : w.Attributed named' := by
  refine ⟨h.known, fun ht e he i hi => ?_⟩
  obtain ⟨hold, hmade⟩ := h.backs ht e he i hi
  exact ⟨hold, fun f hf => (hmade f hf).imp_right fun ⟨s, hs, hm⟩ => ⟨s, hn _ _ s hs, hm⟩⟩

theorem outside (h : w.Attributed named) (hl : v.ledger = w.ledger)
    (hn : w.nextNumber ≤ v.nextNumber) : v.Attributed named := by
  refine ⟨⟨fun hf => h.known.id (hl ▸ hf), fun hf => (h.known.old (hl ▸ hf)).mono hn⟩,
    fun ht e he i hi => ?_⟩
  obtain ⟨hold, hmade⟩ := h.backs (hl ▸ ht) e he i hi
  exact ⟨hold.mono hn, fun f hf => hmade f (hl ▸ hf)⟩

/-- A command that leaves the tasks as they are. -/
theorem run_keepsTasks {c : Command} (h : w.Attributed named) (hc : c.keepsTasks = true) :
    (c.run w).2.Attributed named := by
  refine ⟨h.known.run c, fun {id t} ht e he => ?_⟩
  rw [Ledger.task?, Command.tasks_of_keepsTasks hc] at ht
  exact (h.backs ht e he).run h.known c

/-- A command that brings no files into entries. -/
theorem run {c : Command} (h : w.Attributed named) (hw : w.Consistent) (hc : c.FillsNoEntry) :
    (c.run w).2.Attributed named := by
  refine ⟨h.known.run c, fun {id t} ht e he => ?_⟩
  cases taskAfter_run hw c id with
  | same heq => exact (h.backs (heq.symm.trans ht) e he).run h.known c
  | @created u hu hid heq =>
    obtain rfl : u = t := Option.some.inj (heq.symm.trans ht)
    subst hu
    intro i hi
    rw [hc e he] at hi
    cases hi
  | @patched u p hu hp heq =>
    obtain rfl : p.apply w.clock u = t := Option.some.inj (heq.symm.trans ht)
    have hnone : p.fetchEntries = none := by
      rcases hp with rfl | hp
      · exact hc
      · exact hp
    rw [TaskPatch.apply_entries_of_none hnone] at he
    exact (h.backs hu e he).run h.known c

/-- A task is put in the place of another one, with entries whose files are as they should be. -/
theorem putTask (h : w.Attributed named) {t : Task} (ht : ∀ e ∈ t.entries, w.Backs named t.id e) :
    World.Attributed { w with ledger := w.ledger.putTask t } named := by
  refine ⟨⟨h.known.id, h.known.old⟩, fun {id u} hu e he => ?_⟩
  rw [Ledger.task?_putTask] at hu
  split at hu
  · obtain rfl := Option.some.inj hu
    exact ht e he
  · exact h.backs hu e he

end Attributed

/-! ### Results -/

/-- The file that is known for a result was created by the task for the sensor of the result. -/
theorem resolution_made (hw : w.Consistent) (hf : w.Filed) (ht : Plain task) {r : FetchResult}
    {i : FileId} (hi : (w.resolution task r).fileId = some i) :
    w.Old i ∧ ∀ f, w.ledger.file? i = some f → f.MadeFor task r.sensorId := by
  obtain ⟨g, hg, rfl⟩ := Option.map_eq_some_iff.1 hi
  obtain ⟨s, hs, hg⟩ := Option.bind_eq_some_iff.1 hg
  have hstored := hw.indexed.file?_of_fileOf? hg
  refine ⟨hw.old.files _ g hstored, fun f hf' => ?_⟩
  obtain rfl : g = f := Option.some.inj (hstored.symm.trans hf')
  rw [hw.indexed.sensor_id hs] at hg
  obtain ⟨-, horigin⟩ := (hf.filed.fileOf?_eq_some ht (hf.plain_sensor hs)).1 hg
  simp only [File.origin, Prod.mk.injEq] at horigin
  exact ⟨horigin.1, horigin.2.1⟩

/-- Results are written over entries that have their `dataId`, and then they name it together with
their sensors, or over entries that have their files already. -/
theorem backs_mergeResults (hw : w.Consistent) (hf : w.Filed) (ht : Plain task)
    {entries : List FetchEntry} (fresh : Nat → String) {rs : List FetchResult}
    (hentries : ∀ e ∈ entries, w.Backs named task e)
    (hnamed : ∀ r ∈ rs, ∀ dataId, r.dataId = some dataId → named task dataId r.sensorId) :
    ∀ e ∈ (mergeResults entries fresh (rs.map (w.resolution task))).entries,
      w.Backs named task e := by
  refine Merge.forall_mem_mergeResults hentries (fun a ha e he hid i hi => ?_)
    (fun a ha e f he hef haf i hi => ?_) fun a ha f dataId haf i hi => ?_
  all_goals obtain ⟨r, hr, rfl⟩ := List.mem_map.1 ha
  · rw [FetchEntry.absorb, Option.or_eq_some_iff] at hi
    rcases hi with hi | ⟨-, hi⟩
    · obtain ⟨hold, hmade⟩ := resolution_made hw hf ht hi
      exact ⟨hold, fun f hf' => Or.inr ⟨r.sensorId, hnamed r hr _ hid, hmade f hf'⟩⟩
    · exact he i hi
  · have hsame : i = f := by
      rw [FetchEntry.absorb, haf, Option.some_or] at hi
      exact (Option.some.inj hi).symm
    subst hsame
    exact he i hef
  · obtain rfl : f = i := Option.some.inj hi
    obtain ⟨hold, hmade⟩ := resolution_made hw hf ht haf
    exact ⟨hold, fun f hf' => Or.inl (hmade f hf')⟩

end World

/-! ### Reports -/

namespace Inbox.Report

/-- The results that a report carries. -/
def results (m : StatusReport Json) : List FetchResult :=
  match content m with
  | .results j =>
    match FetchResult.listDecoder.fromValue j with
    | .ok rs => rs
    | .error _ => []
  | _ => []

variable {v w : World} {named : Namings} {t : Task} {m : StatusReport Json} {p p' : TaskPatch}

/-- What comes to a value that is fixed comes to it. -/
theorem eq_of_run {α β : Type} {a : Action HandlerError α} {x y : β}
    (h : (a >>= fun _ => (pure x : Action HandlerError β)).run.run w = (.ok y, v)) : y = x := by
  rw [Action.run_bind_run] at h
  rcases ha : a.run.run w with ⟨⟨e⟩ | ⟨b⟩, u⟩ <;> rw [ha] at h
  · cases h
  · cases h
    rfl

/-- Only results bring entries. -/
theorem patch_of_applyContent {c : Content} (hc : ∀ j, c ≠ .results j)
    (hrun : (applyContent t p c).run.run w = (.ok (some p'), v)) : p' = p := by
  cases c with
  | results j => exact absurd rfl (hc j)
  | uploaded => exact Option.some.inj (eq_of_run hrun)
  | objects j =>
    rw [applyContent, ← bind_assoc] at hrun
    exact Option.some.inj (eq_of_run hrun)
  | objectAmount j => exact Option.some.inj (eq_of_run hrun)
  | nothing =>
    cases hrun
    rfl
  | unknown => cases hrun

/-- The entries that a report brings are those of the task with the results merged in. -/
theorem entries_of_applyContent (hw : w.Consistent) (hp : p.fetchEntries = none)
    (hrun : (applyContent t p (content m)).run.run w = (.ok (some p'), v))
    {data : List FetchEntry} (hdata : p'.fetchEntries = some data) :
    m.taskType = .dataFetch ∧ m.status = .done ∧ w.MoreFiles v ∧ ∃ fresh,
      data = (mergeResults t.entries fresh ((results m).map (v.resolution t.id))).entries := by
  by_cases hresults : ∃ j, content m = .results j
  · obtain ⟨j, hj⟩ := hresults
    obtain ⟨htype, hdone⟩ := done_of_results hj
    refine ⟨htype, hdone, ?_⟩
    rw [hj] at hrun
    cases hrs : FetchResult.listDecoder.fromValue j with
    | error e =>
      rw [applyContent, decode_of_error hrs] at hrun
      cases hrun
    | ok rs =>
      rw [applyContent, decode_of_ok hrs, pure_bind] at hrun
      have hcarried : results m = rs := by
        unfold results
        simp only [hj, hrs]
      by_cases hempty : rs.isEmpty
      · rw [if_pos hempty] at hrun
        cases hrun
        rw [hp] at hdata
        cases hdata
      · rw [if_neg hempty, Action.run_bind_run] at hrun
        obtain ⟨u, fresh, -, hmore, -, -, hreconcile⟩ := FetchReport.reconcile_run (t := t) hw rs
        rw [hreconcile] at hrun
        cases hrun
        dsimp only at hdata
        split at hdata
        · exact ⟨hmore, fresh, hcarried ▸ (Option.some.inj hdata).symm⟩
        · cases hdata
  · rw [patch_of_applyContent (fun j hj => hresults ⟨j, hj⟩) hrun, hp] at hdata
    cases hdata

/-- A report leaves the files that entries name as they should be. -/
theorem attributed_status (hw : w.Consistent) (hf : w.Filed) (h : w.Attributed named)
    (hnamed : ∀ r ∈ results m, ∀ dataId, r.dataId = some dataId →
      named m.taskId dataId r.sensorId) : ((status m).run.run w).2.Attributed named := by
  rcases status_run hw m with ⟨hsame, -⟩ | ⟨t, p, v, ht, -, -, hfault, hrun, hstatus⟩
  · rw [hsame]
    exact h
  · have hid := hw.indexed.task_id ht
    obtain ⟨htasks, -⟩ := applyContent_kept hrun
    have hv : v.Attributed named := by
      have huses := Program.Uses.run (keepsTasks_applyContent t (p := basePatch m w.clock)
        (content m)) (K := fun v => v.Attributed named) (fun c u hc hu => hu.run_keepsTasks hc) h
      rw [hrun] at huses
      exact huses.1
    have htv : v.ledger.task? m.taskId = some t := by
      rw [Ledger.task?, htasks]
      exact ht
    rw [hstatus]
    refine hv.putTask fun e he => ?_
    rcases TaskPatch.mem_apply_entries he with he | ⟨data, hdata, he⟩
    · exact hv.backs htv e he
    · obtain ⟨htype, hdone, hmore, fresh, rfl⟩ := entries_of_applyContent hw rfl hrun hdata
      have hplain : Plain t.id := hid ▸ hf.plain_task ht
      have hfilled := applyContent_filled hw hf hplain htype hdone hfault (basePatch m w.clock)
      rw [hrun] at hfilled
      exact World.backs_mergeResults hmore.consistent hfilled.filed hplain fresh (hv.backs htv)
        (hid ▸ hnamed) e he

end Inbox.Report

/-! ### Operations -/

/-- The command patches no entries. -/
def Command.PatchesNoEntry : Command → Prop
  | updateTask _ p => p.fetchEntries = none
  | _ => True

theorem Command.patchesNoEntry_of_keepsTasks {c : Command} (h : c.keepsTasks = true) :
    c.PatchesNoEntry := by
  cases c <;> trivial

/-- A task that is built is not given files for its entries. -/
theorem MayDo.fillsNoEntry {R : Rely} {past : List Event} {v : World} {c : Command}
    (h : MayDo R past v c) (hc : c.PatchesNoEntry) : c.FillsNoEntry := by
  cases h with
  | createTask h => exact fun e he => h.entries.fileId e he
  | updateTask h => exact hc
  | setModes ids mode => trivial
  | other hk hown => cases c <;> trivial

namespace Operation

/-- The operation handles a report with a result for the task that has this `dataId` and sensor. -/
def Names (op : Operation) (task : TaskId) (dataId : String) (sensor : SensorId) : Prop :=
  ∃ m r, op.report? = some m ∧ m.taskId = task ∧ r ∈ Report.results m ∧
    r.dataId = some dataId ∧ r.sensorId = sensor

/-- Only reports patch entries. -/
theorem patches_no_entry {op : Operation} (h : op.report? = none) :
    op.program.Uses Command.PatchesNoEntry fun _ => True := by
  refine uses_program (Serving.serves.imp fun _ hc =>
    Command.patchesNoEntry_of_keepsTasks (Command.keepsTasks_of_serves hc)) (fun _ => trivial)
    (fun _ _ => trivial) fun r key payload m hop hm => ?_
  subst hop
  cases m with
  | report m => simp [report?, hm] at h
  | failure f =>
    exact Action.Uses.bind (Report.uses_failure trivial fun _ => rfl) fun _ _ => .pure trivial
  | modes m => exact ⟨trivial, fun _ => trivial⟩

end Operation

namespace World

/-- An operation that runs alone leaves the files that entries name as they should be. -/
theorem Attributed.after {w : World} {named : Namings} (h : w.Attributed named)
    (hw : w.Consistent) (hf : w.Filed) {op : Operation}
    (hnamed : ∀ task dataId s, op.Names task dataId s → named task dataId s) :
    (w.after op).Attributed named := by
  cases hreport : op.report? with
  | some m =>
    obtain ⟨r, key, payload, rfl, hm⟩ := Operation.report?_eq_some hreport
    rw [after_report hm]
    exact Report.attributed_status hw hf h fun a ha dataId hid =>
      hnamed _ _ _ ⟨m, a, hreport, rfl, ha, hid, rfl⟩
  | none =>
    exact (((op.obeys Rely.consistency_orderly w).and_uses (op.patches_no_entry hreport)).alone
      (K := fun v => v.Attributed named) (fun _ _ _ hc => hc.1)
      (fun _ _ _ hv hc hK => hK.run hv (hc.1.fillsNoEntry hc.2)) hw h).2

/-! ### Runs -/

/-- The operations have run from an empty ledger, one after another, and led to the world. In
between, other things may happen as in all sequential runs; but documents that are stored directly
bring no files into entries. -/
inductive OneByOne : List Operation → World → Prop where
  | new (capacity : Nat) (clock : Instant) : OneByOne [] (.new capacity clock)
  | operation {ops : List Operation} {w : World} (h : OneByOne ops w) (op : Operation) :
    OneByOne (ops ++ [op]) (w.after op)
  | command {ops : List Operation} {w : World} (h : OneByOne ops w) {c : Command} (hc : c.Fresh w)
    (hid : ∀ id, c.newId? = some id → Plain id)
    (hfile : ∀ new, c = .createFile new → new.createdByTask = none) (hentry : c.FillsNoEntry) :
    OneByOne ops (c.run w).2
  | outside {ops : List Operation} {w v : World} (h : OneByOne ops w) (hl : v.ledger = w.ledger)
    (hn : w.nextNumber ≤ v.nextNumber) : OneByOne ops v

namespace OneByOne

variable {ops : List Operation} {w : World}

theorem sequential (h : OneByOne ops w) : w.Sequential := by
  induction h with
  | new capacity clock => exact .new capacity clock
  | operation _ op ih => exact ih.operation op
  | command _ hc hid hfile _ ih => exact ih.command hc hid hfile
  | outside _ hl hn ih => exact ih.outside hl hn

theorem attributed (h : OneByOne ops w) :
    w.Attributed fun task dataId s => ∃ op ∈ ops, op.Names task dataId s := by
  induction h with
  | new capacity clock =>
    exact ⟨⟨fun hf => (by cases hf), fun hf => (by cases hf)⟩, fun ht => (by cases ht)⟩
  | @operation ops w hw op ih =>
    obtain ⟨hconsistent, hfiled⟩ := hw.sequential.filed
    have hmore : w.Attributed fun task dataId s => ∃ o ∈ ops ++ [op], o.Names task dataId s :=
      ih.mono fun _ _ _ ⟨o, ho, hn⟩ => ⟨o, List.mem_append_left _ ho, hn⟩
    exact hmore.after hconsistent hfiled fun _ _ _ hn =>
      ⟨op, List.mem_append_right _ (List.mem_singleton_self op), hn⟩
  | command hw _ _ _ hentry ih => exact ih.run hw.sequential.filed.1 hentry
  | outside _ hl hn ih => exact ih.outside hl hn

end OneByOne

/-- Where one operation follows another, the file that an entry of a task names was created by the
task. It is a file of the sensor of the entry, or else of the one sensor that a result for the task
has named together with the `dataId` of the entry. -/
theorem entry_files_made {ops : List Operation} {w : World} (h : OneByOne ops w) {id : TaskId}
    {t : Task} (ht : w.ledger.task? id = some t) {e : FetchEntry} (he : e ∈ t.entries)
    {i : FileId} (hi : e.fileId = some i) {f : File} (hf : w.ledger.file? i = some f) :
    f.createdByTask = some id ∧
      (e.sensor ∈ f.metadata.sensors ∨ ∃ s, s ≠ e.sensor ∧ f.metadata.sensors = [s] ∧
        ∃ op ∈ ops, op.Names id e.dataId s) := by
  have hid : t.id = id := h.sequential.filed.1.indexed.task_id ht
  rw [← hid]
  have hmade := (h.attributed.backs ht e he i hi).2 f hf
  by_cases hmem : e.sensor ∈ f.metadata.sensors
  · rcases hmade with hmade | ⟨s, -, hmade⟩ <;> exact ⟨hmade.1, Or.inl hmem⟩
  · rcases hmade with ⟨-, hsensors⟩ | ⟨s, hnamed, hcreated, hsensors⟩
    · exact absurd (hsensors ▸ List.mem_singleton_self _) hmem
    · refine ⟨hcreated, Or.inr ⟨s, ?_, hsensors, hnamed⟩⟩
      rintro rfl
      exact hmem (hsensors ▸ List.mem_singleton_self _)

/-! ### A result of another sensor -/

namespace OneByOne

theorem of_operations (capacity : Nat) (clock : Instant) (ops : List Operation) :
    OneByOne ops (ops.foldl World.after (.new capacity clock)) := by
  induction ops using List.reverseRecOn with
  | nil => exact .new capacity clock
  | append_singleton ops op ih =>
    rw [List.foldl_concat]
    exact ih.operation op

namespace Mismatch

def boiler : SensorId := FreshId.text 2

def turbine : SensorId := FreshId.text 3

/-- The task that fetches from the boiler. -/
def task : TaskId := FreshId.text 5

def file : FileId := FreshId.text 6

def asked (name : String) (work : RequestedWork) : Operation :=
  .createTask "ada" ⟨some name, none, none, .empty, work⟩

def reported (id : TaskId) (type : TaskType) (status : TaskStatus) (content : Json) : Operation :=
  .handle .standard .taskStatus (.document (StatusReport.toJson (fun j => j)
    ⟨id, type, status, none, none, none, some content⟩))

/-- Two sensors are found, a fetch from the boiler is asked for, and the result that comes for its
entry names the turbine. -/
def ops : List Operation :=
  let object (id name : String) := ManagedObject.toJson (.sensor ⟨id, name, some "c8y_Power", none⟩)
  [asked "sync" .sync,
    reported (FreshId.text 1) .objectSync .processing
      (.ofMembers [("objects", .array [object "100" "Boiler", object "101" "Turbine"])]),
    asked "fetch" (.fetch ⟨.sensor, [⟨boiler, "a.csv"⟩], .epoch, none⟩),
    reported task .dataFetch .done (FetchResult.listToJson
      [⟨turbine, some (FreshId.text 4), "a.csv", "files", "a.csv", none, none, none⟩])]

def world : World := ops.foldl World.after (.new 8 .epoch)

theorem entry_turbine : ∃ t e f, world.ledger.task? task = some t ∧ t.type = .dataFetch ∧
    e ∈ t.entries ∧ e.sensor = boiler ∧ e.fileId = some file ∧ world.ledger.file? file = some f ∧
    f.metadata.sensors = [turbine] := by
  have htask : ((world.ledger.task? task).map fun t => (t.type,
      t.entries.map fun e => (e.sensor, e.fileId))) = some (.dataFetch, [(boiler, some file)]) := by
    decide +kernel
  have hfile : (world.ledger.file? file).map (·.metadata.sensors) = some [turbine] := by
    decide +kernel
  obtain ⟨t, ht, hentries⟩ := Option.map_eq_some_iff.1 htask
  obtain ⟨f, hf, hsensors⟩ := Option.map_eq_some_iff.1 hfile
  obtain ⟨htype, hentries⟩ := Prod.mk.inj hentries
  obtain ⟨e, he, hlabel⟩ : ∃ e ∈ t.entries, (e.sensor, e.fileId) = (boiler, some file) :=
    List.mem_map.1 (hentries ▸ List.mem_singleton_self _)
  obtain ⟨hsensor, hi⟩ := Prod.mk.inj hlabel
  exact ⟨t, e, f, ht, htype, he, hsensor, hi, hf, hsensors⟩

end Mismatch

end OneByOne

open OneByOne

/-- A result for an entry that names another sensor gives the entry a file of that sensor. -/
theorem entry_file_of_other_sensor :
    ¬∀ (ops : List Operation) (w : World) (id : TaskId) (t : Task) (e : FetchEntry) (i : FileId)
      (f : File), w = ops.foldl World.after (.new 8 .epoch) →
      w.ledger.task? id = some t → t.type = .dataFetch → e ∈ t.entries → e.fileId = some i →
      w.ledger.file? i = some f → f.createdByTask = some id ∧ e.sensor ∈ f.metadata.sensors := by
  intro h
  obtain ⟨t, e, f, ht, htype, he, hsensor, hi, hf, hsensors⟩ := Mismatch.entry_turbine
  have hmem := (h Mismatch.ops Mismatch.world _ t e _ f rfl ht htype he hi hf).2
  rw [hsensors, hsensor] at hmem
  exact absurd hmem (by decide +kernel)

/-- The entry has the file of the turbine since a result has named the two together. -/
theorem entry_files_made_of_other_sensor :
    ∃ t e f, Mismatch.world.ledger.task? Mismatch.task = some t ∧ e ∈ t.entries ∧
      e.fileId = some Mismatch.file ∧ Mismatch.world.ledger.file? Mismatch.file = some f ∧
      f.createdByTask = some Mismatch.task ∧ f.metadata.sensors = [Mismatch.turbine] ∧
      ∃ op ∈ Mismatch.ops, op.Names Mismatch.task e.dataId Mismatch.turbine := by
  obtain ⟨t, e, f, ht, -, he, hsensor, hi, hf, hsensors⟩ := Mismatch.entry_turbine
  have hrun : OneByOne Mismatch.ops Mismatch.world := .of_operations 8 .epoch _
  obtain ⟨hcreated, hown⟩ := entry_files_made hrun ht he hi hf
  refine ⟨t, e, f, ht, he, hi, hf, hcreated, hsensors, ?_⟩
  rcases hown with hmem | ⟨s, -, hs, hnamed⟩
  · rw [hsensors, hsensor] at hmem
    exact absurd hmem (by decide +kernel)
  · obtain rfl : s = Mismatch.turbine := List.singleton_inj.1 (hs.symm.trans hsensors)
    exact hnamed

end World

end SensorTasks

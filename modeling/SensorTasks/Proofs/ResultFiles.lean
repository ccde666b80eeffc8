import SensorTasks.Proofs.FileIndex
import SensorTasks.Proofs.Operation
import SensorTasks.Proofs.TaskMessage

/-!
The files of results, when one operation follows another. A report that a fetch is done brings one
file for every sensor and name that has none yet, and no other operation creates files. So the index
of the files stays exact in every such run, and the same report brings no files when it comes again.
-/

namespace SensorTasks

open Message Inbox Ledger Ledger.Key

/-! ### What is missing -/

/-- The sensor and the name that the result has a file under. -/
def Message.FetchResult.slot (r : FetchResult) : SensorId × String := (r.sensorId, r.fileName)

namespace Ledger

/-- The sensor is known, and the task has no file for it under the name. -/
def lacks (l : Ledger) (task : TaskId) (slot : SensorId × String) : Bool :=
  (l.sensor? slot.1).isSome && (l.fileOf? task slot.1 slot.2).isNone

/-- The sensors and names for which a task has no files, each of them once. -/
def missing (l : Ledger) (task : TaskId) (slots : List (SensorId × String)) :
    List (SensorId × String) :=
  (slots.filter (l.lacks task)).eraseDups

/-- The second ledger has one more file of the task for each of the sensors and names. -/
def Gains (l l' : Ledger) (task : TaskId) (slots : List (SensorId × String)) : Prop :=
  ∃ fs, l'.files.values = l.files.values ++ fs ∧
    fs.map File.origin = slots.map fun slot => (some task, [slot.1], slot.2)

variable {l l' : Ledger} {task : TaskId} {slot : SensorId × String}
  {slots : List (SensorId × String)}

theorem missing_cons_of_not (h : l.lacks task slot = false) :
    l.missing task (slot :: slots) = l.missing task slots := by
  rw [missing, List.filter_cons_of_neg (by simp [h]), missing]

/-- Once the first one has its file, the others lack what they lacked before. -/
theorem missing_cons_of_lacks (h : l.lacks task slot = true)
    (h' : ∀ other, l'.lacks task other = (!(other == slot) && l.lacks task other)) :
    l.missing task (slot :: slots) = slot :: l'.missing task slots := by
  rw [missing, List.filter_cons_of_pos h, List.eraseDups_cons, List.filter_filter, missing]
  exact congrArg (fun p => slot :: (slots.filter p).eraseDups) (funext fun other => (h' other).symm)

theorem missing_eq_nil (h : ∀ slot ∈ slots, l.lacks task slot = false) :
    l.missing task slots = [] := by
  rw [missing, List.filter_eq_nil_iff.2 fun slot hslot => by simp [h slot hslot]]
  rfl

theorem Gains.nil (h : l'.files = l.files) : l.Gains l' task [] := ⟨[], by rw [h]; simp, rfl⟩

theorem Gains.cons {l'' : Ledger} {f : File} (hf : f.origin = (some task, [slot.1], slot.2))
    (hvalues : l'.files.values = l.files.values ++ [f]) (h : l'.Gains l'' task slots) :
    l.Gains l'' task (slot :: slots) := by
  obtain ⟨fs, hfs, horigins⟩ := h
  exact ⟨f :: fs, by rw [hfs, hvalues]; simp, by rw [List.map_cons, List.map_cons, hf, horigins]⟩

/-- If nothing is missing, no files come. -/
theorem Gains.values_eq (h : l.Gains l' task []) : l'.files.values = l.files.values := by
  obtain ⟨fs, hfs, horigins⟩ := h
  rw [hfs, List.map_eq_nil_iff.1 horigins, List.append_nil]

/-- A new file is lacking no more, and nothing else changes. -/
theorem lacks_createFile (hl : l.Indexed) (hplain : ∀ {id s}, l.sensor? id = some s → Plain id)
    (ht : Plain task) (hs : Plain slot.1) {f : File} (hid : l.file? f.id = none)
    (hkeys : indexKeys f = [Key.fileOf task slot.1 slot.2]) (other : SensorId × String) :
    (l.createFile f).lacks task other = (!(other == slot) && l.lacks task other) := by
  have hfile := hl.fileOf?_createFile hid task other.1 other.2
  simp only [hkeys, List.mem_singleton] at hfile
  change ((l.sensor? other.1).isSome && ((l.createFile f).fileOf? task other.1 other.2).isNone) = _
  rw [hfile, lacks]
  cases hsensor : l.sensor? other.1 with
  | none => simp
  | some s =>
    by_cases hsame : other = slot
    · simp [hsame]
    · rw [if_neg, beq_eq_false_iff_ne.2 hsame, Bool.not_false, Bool.true_and]
      intro hk
      obtain ⟨-, hsensor', hname⟩ := fileOf_injective ht ht (hplain hsensor) hs hk
      exact hsame (Prod.ext hsensor' hname)

end Ledger

/-! ### One file -/

namespace World

variable {v w : World} {task : TaskId} {slot : SensorId × String}

/-- The second world has one more file, of the task for the sensor under the name. -/
structure Adds (w v : World) (task : TaskId) (slot : SensorId × String) : Prop where
  filed : v.Filed
  file : ∃ f : File, f.origin = (some task, [slot.1], slot.2) ∧
    v.ledger.files.values = w.ledger.files.values ++ [f]
  lacks : ∀ other, v.ledger.lacks task other = (!(other == slot) && w.ledger.lacks task other)

/-- A file that is missing is created under a key that has none. -/
theorem Adds.createFile (hw : w.Consistent) (hf : w.Filed) (ht : Plain task)
    (hlacks : w.ledger.lacks task slot = true) {new : NewFile}
    (hnew : (new.createdByTask, new.metadata.sensors, new.name) =
      (some task, [slot.1], slot.2)) :
    w.Adds ((Command.createFile new).run w).2 task slot := by
  simp only [Ledger.lacks, Bool.and_eq_true, Option.isNone_iff_eq_none] at hlacks
  obtain ⟨hsensor, hnone⟩ := hlacks
  have hs : Plain slot.1 := by
    obtain ⟨s, hs⟩ := Option.isSome_iff_exists.1 hsensor
    exact hf.plain_sensor hs
  let f := File.ofNew new (FreshId.text w.nextNumber) w.clock
  have horigin : f.origin = (some task, [slot.1], slot.2) := hnew
  have hone : f.OfOneSensor := by
    simp only [Prod.mk.injEq] at hnew
    intro task' htask
    obtain rfl := Option.some.inj (hnew.1.symm.trans htask)
    exact ⟨ht, slot.1, hs, hnew.2.1⟩
  have hkey : fileKey? f = some (Key.fileOf task slot.1 slot.2) :=
    (hone.fileKey?_eq_some ht hs).2 horigin
  have hkeys : indexKeys f = [Key.fileOf task slot.1 slot.2] := by
    rw [hone.indexKeys_eq, hkey, Option.toList_some]
  refine ⟨⟨?_, fun id hid => ?_⟩, ⟨f, horigin, ?_⟩, ?_⟩
  · refine hf.filed.createFile hone hw.next_file fun key hk => ?_
    obtain rfl := Option.some.inj (hkey.symm.trans hk)
    exact hf.filed.contains_eq_false hnone
  · exact (hf.unused id hid).run hw (c := .createFile new) (Option.some_ne_none id).symm
  · exact Table.values_insert_of_none hw.next_file f
  · exact lacks_createFile hw.indexed hf.plain_sensor ht hs hw.next_file hkeys

end World

/-! ### The files of results -/

namespace Inbox.Report

variable {w : World} {t : Task}

/-- A result gets a file if it lacks one. -/
theorem resolve_adds (hw : w.Consistent) (hf : w.Filed) (ht : Plain t.id) (r : FetchResult) :
    w.ledger.lacks t.id r.slot = false ∧ ((resolve t r).run.run w).2 = w ∨
      w.ledger.lacks t.id r.slot = true ∧
        w.Adds ((resolve t r).run.run w).2 t.id r.slot := by
  unfold resolve
  rw [Action.run_perform_bind_run]
  simp only [Command.run]
  cases hs : w.ledger.sensor? r.sensorId with
  | none => exact Or.inl ⟨by simp [lacks, FetchResult.slot, hs], rfl⟩
  | some s =>
    have hid : s.id = r.sensorId := hw.indexed.sensor_id hs
    dsimp only
    rw [Action.run_bind_run]
    unfold fileFor
    rw [Action.run_perform_bind_run]
    simp only [Command.run]
    cases hfile : w.ledger.fileOf? t.id s.id r.fileName with
    | some f =>
      rw [hid] at hfile
      exact Or.inl ⟨by simp [lacks, FetchResult.slot, hfile], rfl⟩
    | none =>
      have hlacks : w.ledger.lacks t.id r.slot = true := by
        rw [hid] at hfile
        simp [lacks, FetchResult.slot, hs, hfile]
      have horigin : (some t.id, [s.id], r.fileName) = (some t.id, [r.slot.1], r.slot.2) := by
        rw [hid, FetchResult.slot]
      exact Or.inr ⟨hlacks, .createFile hw hf ht hlacks horigin⟩

/-- All results get the files that they lack, each sensor and name one. -/
theorem resolveAll_gains (hw : w.Consistent) (hf : w.Filed) (ht : Plain t.id)
    (rs : List FetchResult) :
    ((resolveAll t rs).run.run w).2.Filed ∧
      w.ledger.Gains ((resolveAll t rs).run.run w).2.ledger t.id
        (w.ledger.missing t.id (rs.map (·.slot))) := by
  induction rs generalizing w with
  | nil => exact ⟨hf, .nil rfl⟩
  | cons r rs ih =>
    obtain ⟨u, hu, hwu, -⟩ := resolve_run (t := t) hw r
    have hrun : ((resolveAll t (r :: rs)).run.run w).2 = ((resolveAll t rs).run.run u).2 := by
      rw [resolveAll, Action.run_bind_run, hu]
      dsimp only
      rw [Action.run_bind_run]
      rcases (resolveAll t rs).run.run u with ⟨⟨e⟩ | ⟨a⟩, v⟩ <;> rfl
    have hadds := resolve_adds hw hf ht r
    rw [hu] at hadds
    rw [hrun, List.map_cons]
    rcases hadds with ⟨hlacks, rfl⟩ | ⟨hlacks, hadds⟩
    · rw [missing_cons_of_not hlacks]
      exact ih hw hf
    · obtain ⟨f, horigin, hvalues⟩ := hadds.file
      obtain ⟨hfiled, hgains⟩ := ih hwu.consistent hadds.filed
      rw [missing_cons_of_lacks hlacks hadds.lacks]
      exact ⟨hfiled, .cons horigin hvalues hgains⟩

/-- Results that have their files lack none. -/
theorem missing_of_resolves {task : TaskId} {rs : List FetchResult} (hw : w.Consistent)
    (h : ∀ r ∈ rs, w.Resolves task r) : w.ledger.missing task (rs.map (·.slot)) = [] := by
  refine missing_eq_nil fun slot hslot => ?_
  obtain ⟨r, hr, rfl⟩ := List.mem_map.1 hslot
  unfold lacks FetchResult.slot
  cases hs : w.ledger.sensor? r.sensorId with
  | none => rfl
  | some s =>
    have hfile := h r hr s hs
    rw [hw.indexed.sensor_id hs] at hfile
    obtain ⟨f, hf⟩ := Option.isSome_iff_exists.1 hfile
    rw [hf]
    rfl

/-! ### Reports -/

/-- The sensors and names that a report brings results for. -/
def slots (m : StatusReport Json) : List (SensorId × String) :=
  match content m with
  | .results j =>
    match FetchResult.listDecoder.fromValue j with
    | .ok rs => rs.map (·.slot)
    | .error _ => []
  | _ => []

/-- Only a report that a fetch is done carries results. -/
theorem done_of_results {m : StatusReport Json} {j : Json} (h : content m = .results j) :
    m.taskType = .dataFetch ∧ m.status = .done := by
  unfold content at h
  split at h
  · rename_i htype hstatus _
    exact ⟨htype, hstatus⟩
  all_goals first | cases h | (split at h <;> cases h)

/-- A report that a fetch is done carries results or nothing. -/
theorem content_of_done {m : StatusReport Json} (htype : m.taskType = .dataFetch)
    (hdone : m.status = .done) : content m = .nothing ∨ ∃ j, content m = .results j := by
  unfold content
  rw [htype, hdone]
  cases m.payload with
  | none => exact Or.inl rfl
  | some j => exact Or.inr ⟨j, rfl⟩

/-- There are no results in a body that cannot be decoded. -/
theorem slots_of_fault {m : StatusReport Json} (h : (content m).fault? ≠ none) : slots m = [] := by
  unfold slots
  cases hcontent : content m with
  | results j =>
    rw [hcontent] at h
    dsimp only
    split
    · rename_i rs hrs
      simp [Content.fault?, faultOf, hrs] at h
    · rfl
  | _ => rfl

/-- The second world has the files that were missing, and no others besides those of the first. -/
structure Filled (w v : World) (task : TaskId) (slots : List (SensorId × String)) : Prop where
  filed : v.Filed
  gains : w.ledger.Gains v.ledger task (w.ledger.missing task slots)
  none_missing : v.ledger.missing task slots = []

theorem Filled.refl (hf : w.Filed) (task : TaskId) : Filled w w task [] := ⟨hf, .nil rfl, rfl⟩

/-- Changing a task changes no files. -/
theorem Filled.putTask {v : World} {task : TaskId} {slots : List (SensorId × String)}
    (h : Filled w v task slots) {u : Task} (hu : Plain u.id) :
    Filled w { v with ledger := v.ledger.putTask u } task slots :=
  ⟨h.filed.putTask hu, h.gains, h.none_missing⟩

/-- Taking results into account brings the files that they lack. -/
theorem results_filled (hw : w.Consistent) (hf : w.Filed) (ht : Plain t.id) {j : Json}
    {rs : List FetchResult} (hrs : FetchResult.listDecoder.fromValue j = .ok rs) (p : TaskPatch) :
    Filled w ((applyContent t p (.results j)).run.run w).2 t.id (rs.map (·.slot)) := by
  rw [applyContent, decode_of_ok hrs, pure_bind]
  by_cases hempty : rs.isEmpty
  · obtain rfl := List.isEmpty_iff.1 hempty
    exact .refl hf t.id
  · rw [if_neg hempty, Action.run_bind_run]
    unfold reconcile
    rw [Action.run_bind_run]
    obtain ⟨v, hv, hwv, -, hresolves⟩ := resolveAll_run (t := t) hw rs
    obtain ⟨hfiled, hgains⟩ := resolveAll_gains hw hf ht rs
    have hnone := missing_of_resolves hwv.consistent hresolves
    rw [hv] at hfiled hgains ⊢
    -- what is left reserves the ids of the new entries
    let reserve := Command.reserve (rs.map (v.resolution t.id)).length
    change Filled w (reserve.run v).2 t.id _
    exact ⟨hfiled.outside rfl, hgains, hnone⟩

/-- Taking into account that a fetch is done brings the files that its results lack, if there are
any. -/
theorem applyContent_filled (hw : w.Consistent) (hf : w.Filed) (ht : Plain t.id)
    {m : StatusReport Json} (htype : m.taskType = .dataFetch) (hdone : m.status = .done)
    (hfault : (content m).fault? = none) (p : TaskPatch) :
    Filled w ((applyContent t p (content m)).run.run w).2 t.id (slots m) := by
  unfold slots
  rcases content_of_done htype hdone with hcontent | ⟨j, hcontent⟩
  · rw [hcontent]
    exact .refl hf t.id
  · rw [hcontent] at hfault ⊢
    dsimp only
    cases hrs : FetchResult.listDecoder.fromValue j with
    | error e => simp [Content.fault?, faultOf, hrs] at hfault
    | ok rs => exact results_filled hw hf ht hrs p

/-- A report that a fetch is done brings the files that are missing, if its task is stored and
fetches; else nothing happens. -/
theorem status_filled {m : StatusReport Json} (hw : w.Consistent) (hf : w.Filed)
    (htype : m.taskType = .dataFetch) (hdone : m.status = .done) :
    (∀ t, w.ledger.task? m.taskId = some t → t.type ≠ .dataFetch) ∧
        ((status m).run.run w).2 = w ∨
      Filled w ((status m).run.run w).2 m.taskId (slots m) := by
  rcases status_run hw m with ⟨hsame, hdropped⟩ | ⟨t, p, v, ht, -, -, hfault, hrun, hstatus⟩
  · rw [hsame]
    by_cases htask : ∃ t, w.ledger.task? m.taskId = some t ∧ t.type = m.taskType
    · -- the task is there, so the results cannot be decoded
      have hknown : content m ≠ .unknown := by
        rcases content_of_done htype hdone with h | ⟨j, h⟩ <;> simp [h]
      have hfault : (content m).fault? ≠ none := fun h => by
        obtain ⟨t', ht'⟩ := (status_applied_iff hw m).2 ⟨htask, hknown, h⟩
        exact hdropped t' ht'
      rw [slots_of_fault hfault]
      exact Or.inr (.refl hf m.taskId)
    · exact Or.inl ⟨fun t ht h => htask ⟨t, ht, h.trans htype.symm⟩, rfl⟩
  · have hid := hw.indexed.task_id ht
    have hplain : Plain t.id := hid ▸ hf.plain_task ht
    have hfilled := applyContent_filled hw hf hplain htype hdone hfault (basePatch m w.clock)
    rw [hrun] at hfilled
    rw [hstatus, ← hid]
    exact Or.inr (hfilled.putTask hplain)

end Inbox.Report

/-- Of all messages about tasks, only a report that a fetch is done brings files. -/
theorem Inbox.TaskMessage.uses_handle_of_not_done {m : TaskMessage}
    (h : ∀ r, m = .report r → ¬(r.taskType = .dataFetch ∧ r.status = .done)) :
    m.handle.Uses (·.createsFile = false) fun _ => True := by
  cases m with
  | report r =>
    have hstatus : (Report.status r).Uses (·.createsFile = false) fun _ => True := by
      rw [Report.status_eq]
      exact .perform_bind rfl fun found => Report.uses_applyTo
        (fun _ => Command.createsFile_of_takesOver) (fun _ _ => rfl) (fun _ _ _ _ _ => rfl)
        fun t j rs hj => absurd (Report.done_of_results hj) (h r rfl)
    exact hstatus.bind fun _ _ => .pure trivial
  | failure f =>
    have hfailure : (Report.failure f).Uses (·.createsFile = false) fun _ => True :=
      Report.uses_failure rfl fun _ => rfl
    exact hfailure.bind fun _ _ => .pure trivial
  | modes m => exact ⟨rfl, fun _ => trivial⟩

/-- What a report about a fetch brings to the application. -/
theorem FetchReport.received (m : FetchReport) :
    TaskMessage.received? .standard m.key m.payload = some (.report m.report) := by
  have ha := m.accepted
  unfold TaskMessage.received?
  rw [m.read]
  dsimp only
  rw [ha]
  rcases m.key_mem with hk | hk <;> simp [hk, TaskMessage.ofDocument?, m.decoded, Except.toOption]

/-! ### Operations -/

namespace Operation

/-- Nothing creates files but handling a report that a fetch is done. -/
theorem creates_no_file {op : Operation}
    (h : ∀ r key payload m, op = .handle r key payload →
      TaskMessage.received? r key payload = some (.report m) →
      ¬(m.taskType = .dataFetch ∧ m.status = .done)) :
    op.program.Uses (·.createsFile = false) fun _ => True :=
  uses_program (Serving.serves.imp fun _ => Command.createsFile_of_serves) (fun _ => rfl)
    (fun _ _ => rfl) fun r key payload m hop hm =>
      TaskMessage.uses_handle_of_not_done fun r' hr => h r key payload r' hop (by rw [hm, hr])

end Operation

namespace World

variable {v w : World} {r : Registry} {key : RoutingKey} {payload : Payload}
  {m : StatusReport Json}

/-- The world after an operation that runs from its beginning to its end by itself. -/
def after (w : World) (op : Operation) : World := (op.program.run w).2

theorem after_report (hm : TaskMessage.received? r key payload = some (.report m)) (w : World) :
    w.after (.handle r key payload) = ((Report.status m).run.run w).2 := by
  rw [after, Operation.program, Operation.forget_run, TaskMessage.process_run hm,
    TaskMessage.handle_report_run]

/-- Every operation keeps the index of the files exact. -/
theorem Filed.after (hf : w.Filed) (hw : w.Consistent) (op : Operation) : (w.after op).Filed := by
  by_cases h : ∃ r key payload m, op = .handle r key payload ∧
      TaskMessage.received? r key payload = some (.report m) ∧
      m.taskType = .dataFetch ∧ m.status = .done
  · obtain ⟨r, key, payload, m, rfl, hm, htype, hdone⟩ := h
    rw [after_report hm]
    rcases Report.status_filled hw hf htype hdone with ⟨-, hsame⟩ | hfilled
    · rwa [hsame]
    · exact hfilled.filed
  · have huses : op.program.Uses (·.createsFile = false) fun _ => True :=
      Operation.creates_no_file fun r key payload m hop hm hd =>
        h ⟨r, key, payload, m, hop, hm, hd.1, hd.2⟩
    refine (((op.obeys Rely.consistency_orderly w).and_uses huses).alone (K := World.Filed)
      (fun _ _ _ hc => hc.1) (fun past v c hv hc hfv => ?_) hw hf).2
    refine hfv.run hv (fun id hid => ?_) fun new hnew => ?_
    · obtain ⟨n, -, rfl⟩ := hc.1.ownsNewId id hid
      exact FreshId.plain_text n
    · rw [hnew] at hc
      exact absurd hc.2 Bool.noConfusion

/-! ### Runs -/

/-- The worlds that runs from an empty ledger lead to, in which one operation begins when the other
has ended. In between, time goes by and others use the bus and give out ids, and documents may be
stored directly, if their ids have no separators; but no files that say that a task has created
them. -/
inductive Sequential : World → Prop where
  | new (capacity : Nat) (clock : Instant) : Sequential (.new capacity clock)
  | operation {w : World} (h : Sequential w) (op : Operation) : Sequential (w.after op)
  | command {w : World} (h : Sequential w) {c : Command} (hc : c.Fresh w)
    (hid : ∀ id, c.newId? = some id → Plain id)
    (hfile : ∀ new, c = .createFile new → new.createdByTask = none) : Sequential (c.run w).2
  | outside {w v : World} (h : Sequential w) (hl : v.ledger = w.ledger)
    (hn : w.nextNumber ≤ v.nextNumber) : Sequential v

theorem Sequential.filed (h : w.Sequential) : w.Consistent ∧ w.Filed := by
  induction h with
  | new capacity clock => exact ⟨.new capacity clock, .new capacity clock⟩
  | operation _ op ih => exact ⟨Operation.consistent_run ih.1 op, ih.2.after ih.1 op⟩
  | command _ hc hid hfile ih => exact ⟨ih.1.run hc, ih.2.run ih.1 hid hfile⟩
  | outside _ hl hn ih => exact ⟨ih.1.outside hl hn, ih.2.outside hl⟩

/-- In a run in which one operation follows another, the index leads to a file just if the task has
created it for the sensor under the name, and there is at most one such file. A report that a fetch
is done creates one file for each of the sensors and names that have none, in the order of the
results, and none when it comes again. -/
theorem result_files_exact {w : World} (hw : w.Sequential) :
    (∀ task sensor name, Plain task → Plain sensor →
      (∀ f, w.ledger.fileOf? task sensor name = some f ↔
        f ∈ w.ledger.files.values ∧ f.origin = (some task, [sensor], name)) ∧
      (w.ledger.files.values.filter (·.origin = (some task, [sensor], name))).length ≤ 1) ∧
    ∀ r key payload m t, TaskMessage.received? r key payload = some (.report m) →
      m.taskType = .dataFetch → m.status = .done →
      w.ledger.task? m.taskId = some t → t.type = .dataFetch →
        let v := w.after (.handle r key payload)
        w.ledger.Gains v.ledger m.taskId (w.ledger.missing m.taskId (Report.slots m)) ∧
        ∀ u : World, u.ledger = v.ledger → v.nextNumber ≤ u.nextNumber →
          (u.after (.handle r key payload)).ledger.files.values = u.ledger.files.values := by
  obtain ⟨hconsistent, hfiled⟩ := hw.filed
  constructor
  · intro task sensor name ht hs
    refine ⟨fun f => hfiled.filed.fileOf?_eq_some ht hs, ?_⟩
    rw [hfiled.filed.filter_origin ht hs]
    cases w.ledger.fileOf? task sensor name <;> simp
  · intro r key payload m t hm htype hdone ht htask v
    have hv : v.Consistent := Operation.consistent_run hconsistent _
    have hfilled : Report.Filled w v m.taskId (Report.slots m) := by
      rcases Report.status_filled hconsistent hfiled htype hdone with ⟨hnone, -⟩ | h
      · exact absurd htask (hnone t ht)
      · rwa [← after_report hm] at h
    refine ⟨hfilled.gains, fun u hl hn => ?_⟩
    rw [after_report hm]
    rcases Report.status_filled (hv.outside hl hn) (hfilled.filed.outside hl) htype hdone with
      ⟨-, hsame⟩ | hagain
    · rw [hsame]
    · have hgains := hagain.gains
      rw [show u.ledger.missing m.taskId (Report.slots m) = [] from hl ▸ hfilled.none_missing]
        at hgains
      exact hgains.values_eq

open FetchReport.Sample

theorem sequential_sample : FetchReport.Sample.world.Sequential := by
  have hplain : ∀ n id, some (FreshId.text n) = some id → Plain id :=
    fun n id h => Option.some.inj h ▸ FreshId.plain_text n
  have hreserved := Sequential.command (c := .reserve 3) (.new 8 FetchReport.Sample.clock) trivial
    (fun _ h => (by cases h)) fun _ h => (by cases h)
  have hsensor := hreserved.command (c := .createSensor sensor) ⟨rfl, old_text (by decide)⟩
    (hplain 0) fun _ h => (by cases h)
  refine hsensor.command (c := .createTask fetching) ⟨rfl, old_text (by decide), ?_⟩ (hplain 1)
    fun _ h => (by cases h)
  intro e he f hf
  rw [List.mem_singleton.1 he] at hf
  cases hf

/-- After a report that brings `a.csv` and `c.csv`, one that brings `a.csv` and `b.csv` creates a
file for `b.csv` only, which is the one that is found, and none when it comes again. -/
theorem result_files_of_late :
    let w := FetchReport.Sample.world.after (.handle .standard early.key early.payload)
    let v := w.after (.handle .standard late.key late.payload)
    let slot := (sensor.id, "b.csv")
    w.ledger.missing late.report.taskId (Report.slots late.report) = [slot] ∧
      w.ledger.Gains v.ledger late.report.taskId [slot] ∧
      (∃ f ∈ v.ledger.files.values, f.origin = (some late.report.taskId, [slot.1], slot.2)) ∧
      (v.after (.handle .standard late.key late.payload)).ledger.files.values =
        v.ledger.files.values := by
  intro w v slot
  have hw : w.Sequential := sequential_sample.operation _
  have hv : v.Sequential := hw.operation _
  have hmissing : w.ledger.missing late.report.taskId (Report.slots late.report) = [slot] := by
    decide +kernel
  have ht : (w.ledger.task? late.report.taskId).map (·.type) = some .dataFetch := by decide +kernel
  obtain ⟨t, ht, htype⟩ := Option.map_eq_some_iff.1 ht
  obtain ⟨hgains, hagain⟩ := (result_files_exact hw).2 .standard late.key late.payload late.report t
    late.received late.type late.status ht htype
  rw [hmissing] at hgains
  have hfound : (v.ledger.fileOf? late.report.taskId slot.1 slot.2).isSome = true := by
    decide +kernel
  obtain ⟨f, hf⟩ := Option.isSome_iff_exists.1 hfound
  have hexact := ((result_files_exact hv).1 late.report.taskId slot.1 slot.2 (by decide +kernel)
    (FreshId.plain_text 0)).1 f
  exact ⟨hmissing, hgains, ⟨f, hexact.1 hf⟩, hagain v rfl (Nat.le_refl _)⟩

end World

end SensorTasks

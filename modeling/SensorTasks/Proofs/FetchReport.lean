import SensorTasks.Inbox.Dispatch
import SensorTasks.Proofs.Interleaving
import SensorTasks.Proofs.Merging
import SensorTasks.Proofs.Reachable

/-!
Handling a report that a fetch is done. The files of its results are looked up, and created where
they are not known; then every result has the file that it would be found with in the world after
that, and the entries of the task become the merge of those results into the entries before.
-/

namespace SensorTasks

open Message Inbox

/-! ### Running actions -/

namespace Action

variable {ε ε' α β : Type}

@[simp] theorem run_bind_run (a : Action ε α) (f : α → Action ε β) (w : World) :
    (a >>= f).run.run w =
      match a.run.run w with
      | (.ok x, v) => (f x).run.run v
      | (.error e, v) => (.error e, v) := by
  rw [run_bind, Program.run_bind]
  rcases a.run.run w with ⟨⟨e⟩ | ⟨x⟩, v⟩ <;> rfl

@[simp] theorem run_mapError_run (f : ε → ε') (a : Action ε α) (w : World) :
    (a.mapError f).run.run w =
      match a.run.run w with
      | (.ok x, v) => (.ok x, v)
      | (.error e, v) => (.error (f e), v) := by
  rw [run_mapError, Program.run_bind]
  rcases a.run.run w with ⟨⟨e⟩ | ⟨x⟩, v⟩ <;> rfl

theorem run_perform_bind_run (c : Command) (f : c.Answer → Action ε α) (w : World) :
    (perform c >>= f).run.run w = (f (c.run w).1).run.run (c.run w).2 := rfl

theorem run_freshId_bind_run (f : String → Action ε α) (w : World) :
    (freshId >>= f).run.run w =
      (f (FreshId.text w.nextNumber)).run.run { w with nextNumber := w.nextNumber + 1 } := rfl

/-- A run that ends with a value has ended every part of it with one. -/
theorem run_bind_eq_ok {a : Action ε α} {f : α → Action ε β} {w v : World} {y : β} :
    (a >>= f).run.run w = (.ok y, v) ↔
      ∃ x u, a.run.run w = (.ok x, u) ∧ (f x).run.run u = (.ok y, v) := by
  rw [run_bind_run]
  rcases a.run.run w with ⟨⟨e⟩ | ⟨x⟩, u⟩
  · simp
  · constructor
    · exact fun h => ⟨x, u, rfl, h⟩
    · rintro ⟨x', u', h, h'⟩
      cases h
      exact h'

theorem orFail_eq_ok {e : ε} {o : Option α} {w v : World} {a : α}
    (h : (orFail e o).run.run w = (.ok a, v)) : o = some a ∧ v = w := by
  cases o with
  | none => cases h
  | some b =>
    cases h
    exact ⟨rfl, rfl⟩

end Action

/-! ### What is known of a result -/

namespace World

/-- The entries of a task; there are none if there is no such task. -/
def entries (w : World) (id : TaskId) : List FetchEntry :=
  match w.ledger.task? id with
  | some t => t.entries
  | none => []

/-- The file that a task has for a result. -/
def fileFor? (w : World) (task : TaskId) (r : FetchResult) : Option File :=
  (w.ledger.sensor? r.sensorId).bind fun s => w.ledger.fileOf? task s.id r.fileName

/-- The result with the file that the task has for it. -/
def resolution (w : World) (task : TaskId) (r : FetchResult) : ResolvedResult :=
  Report.resolved r ((w.fileFor? task r).map (·.id))

/-- The file of the result is known, unless its sensor is not. -/
def Resolves (w : World) (task : TaskId) (r : FetchResult) : Prop :=
  ∀ s, w.ledger.sensor? r.sensorId = some s → (w.ledger.fileOf? task s.id r.fileName).isSome

/-- A later world with the same sensors, in which all files are known that were known. -/
structure MoreFiles (w v : World) : Prop where
  consistent : v.Consistent
  number : w.nextNumber ≤ v.nextNumber
  sensors : v.ledger.sensors = w.ledger.sensors
  file : ∀ {id f}, w.ledger.file? id = some f → v.ledger.file? id = some f
  fileOf : ∀ {task sensor name f},
    w.ledger.fileOf? task sensor name = some f → v.ledger.fileOf? task sensor name = some f

namespace MoreFiles

variable {u v w : World} {task : TaskId} {r : FetchResult}

theorem refl (h : w.Consistent) : MoreFiles w w := ⟨h, Nat.le_refl _, rfl, id, id⟩

theorem trans (h : MoreFiles u v) (h' : MoreFiles v w) : MoreFiles u w :=
  ⟨h'.consistent, Nat.le_trans h.number h'.number, h'.sensors.trans h.sensors,
    h'.file ∘ h.file, h'.fileOf ∘ h.fileOf⟩

theorem sensor? (h : MoreFiles w v) (id : SensorId) :
    v.ledger.sensor? id = w.ledger.sensor? id := by
  unfold Ledger.sensor?
  rw [h.sensors]

theorem resolves (h : MoreFiles w v) (hr : w.Resolves task r) : v.Resolves task r := by
  intro s hs
  rw [h.sensor?] at hs
  obtain ⟨f, hf⟩ := Option.isSome_iff_exists.1 (hr s hs)
  rw [h.fileOf hf]
  rfl

/-- What is known of a result stays known. -/
theorem resolution (h : MoreFiles w v) (hr : w.Resolves task r) :
    v.resolution task r = w.resolution task r := by
  unfold World.resolution World.fileFor?
  rw [h.sensor?]
  cases hs : w.ledger.sensor? r.sensorId with
  | none => rfl
  | some s =>
    obtain ⟨f, hf⟩ := Option.isSome_iff_exists.1 (hr s hs)
    rw [Option.bind_some, Option.bind_some, hf, h.fileOf hf]

/-- A new file changes nothing that is known, if none is known under its keys. -/
theorem createFile (h : w.Consistent) {new : NewFile}
    (hnew : ∀ task sensor name,
      Ledger.Key.fileOf task sensor name ∈
          Ledger.indexKeys (File.ofNew new (FreshId.text w.nextNumber) w.clock) →
        w.ledger.fileOf? task sensor name = none) :
    MoreFiles w ((Command.createFile new).run w).2 where
  consistent := h.run (c := .createFile new) trivial
  number := Command.le_nextNumber (.createFile new) w
  sensors := rfl
  file {id f} hf := by
    refine (Ledger.file?_createFile _ _ _).trans ((if_neg ?_).trans hf)
    rintro rfl
    exact absurd (h.next_file.symm.trans hf) (by simp)
  fileOf {task sensor name f} hf := by
    refine (h.indexed.fileOf?_createFile h.next_file task sensor name).trans ?_
    rw [if_neg, hf]
    intro hk
    rw [hnew task sensor name hk] at hf
    cases hf

end MoreFiles

end World

/-! ### The files of results -/

namespace Inbox.Report

variable {w : World} {t : Task} {s : Sensor}

/-- The keys of the file of a result. -/
theorem indexKeys_newFile (r : FetchResult) (id : FileId) (now : Instant) :
    Ledger.indexKeys (File.ofNew (newFile t s r) id now) =
      [Ledger.Key.fileOf t.id s.id r.fileName] :=
  rfl

/-- The file of a result is the one that is found for it from then on. -/
theorem fileFor_run (hw : w.Consistent) (r : FetchResult) :
    ∃ v f, (fileFor t s r).run.run w = (.ok f, v) ∧ w.MoreFiles v ∧
      v.ledger.tasks = w.ledger.tasks ∧ v.ledger.fileOf? t.id s.id r.fileName = some f := by
  unfold fileFor
  rw [Action.run_perform_bind_run]
  simp only [Command.run]
  cases hf : w.ledger.fileOf? t.id s.id r.fileName with
  | some f => exact ⟨w, f, rfl, .refl hw, rfl, hf⟩
  | none =>
    refine ⟨_, _, rfl, .createFile hw fun task sensor name hk => ?_, rfl, ?_⟩
    · rw [indexKeys_newFile, List.mem_singleton] at hk
      unfold Ledger.fileOf? at hf ⊢
      rw [hk, hf]
    · exact (hw.indexed.fileOf?_createFile hw.next_file t.id s.id r.fileName).trans
        (if_pos (by simp [indexKeys_newFile]))

/-- A result gets the file that is found for it from then on. -/
theorem resolve_run (hw : w.Consistent) (r : FetchResult) :
    ∃ v, (resolve t r).run.run w = (.ok (v.resolution t.id r), v) ∧ w.MoreFiles v ∧
      v.ledger.tasks = w.ledger.tasks ∧ v.Resolves t.id r := by
  unfold resolve
  rw [Action.run_perform_bind_run]
  simp only [Command.run]
  cases hs : w.ledger.sensor? r.sensorId with
  | none =>
    refine ⟨w, ?_, .refl hw, rfl, ?_⟩
    · simp [World.resolution, World.fileFor?, hs]
    · intro s h
      rw [hs] at h
      cases h
  | some s =>
    obtain ⟨v, f, hv, hwv, htasks, hf⟩ := fileFor_run (t := t) (s := s) hw r
    have hs' : v.ledger.sensor? r.sensorId = some s := by rw [hwv.sensor?, hs]
    refine ⟨v, ?_, hwv, htasks, ?_⟩
    · refine (Action.run_bind_run _ _ w).trans ?_
      rw [hv]
      simp [World.resolution, World.fileFor?, hs', hf]
    · intro s' h
      rw [hs', Option.some.injEq] at h
      rw [← h, hf]
      rfl

/-- All results get the files that are found for them in the end. -/
theorem resolveAll_run (hw : w.Consistent) (rs : List FetchResult) :
    ∃ v, (resolveAll t rs).run.run w = (.ok (rs.map (v.resolution t.id)), v) ∧ w.MoreFiles v ∧
      v.ledger.tasks = w.ledger.tasks ∧ ∀ r ∈ rs, v.Resolves t.id r := by
  induction rs generalizing w with
  | nil => exact ⟨w, rfl, .refl hw, rfl, by simp⟩
  | cons r rs ih =>
    obtain ⟨u, hu, hwu, htu, hr⟩ := resolve_run (t := t) hw r
    obtain ⟨v, hv, huv, htv, hrs⟩ := ih hwu.consistent
    refine ⟨v, ?_, hwu.trans huv, htv.trans htu, ?_⟩
    · unfold resolveAll
      rw [Action.run_bind_run, hu]
      dsimp only
      rw [Action.run_bind_run, hv, List.map_cons, huv.resolution hr]
      rfl
    · intro a ha
      rcases List.mem_cons.1 ha with rfl | ha
      · exact huv.resolves hr
      · exact hrs a ha

end Inbox.Report

/-! ### Reports with results -/

/-- A message that is accepted and reports that a fetch is done, with results. -/
structure FetchReport where
  key : RoutingKey
  payload : Payload
  document : Json
  report : StatusReport Json
  body : Json
  key_mem : key = .taskStatus ∨ key = .taskStatusDataFetchResult
  read : payload.read? = some document
  accepted : Registry.standard.validate key document = .ok ()
  decoded : (StatusReport.decoder .json).fromValue document = .ok report
  type : report.taskType = .dataFetch
  status : report.status = .done
  payload_eq : report.payload = some body

namespace FetchReport

/-- The report of a message, if it is one. -/
def ofMessage? (key : RoutingKey) (payload : Payload) : Option FetchReport :=
  if hkey : key = .taskStatus ∨ key = .taskStatusDataFetchResult then
    match hread : payload.read? with
    | none => none
    | some document =>
      match haccepted : Registry.standard.validate key document,
          hdecoded : (StatusReport.decoder .json).fromValue document with
      | .ok (), .ok report =>
        match hbody : report.payload with
        | none => none
        | some body =>
          if h : report.taskType = .dataFetch ∧ report.status = .done then
            some ⟨key, payload, document, report, body, hkey, hread, haccepted, hdecoded, h.1, h.2,
              hbody⟩
          else none
      | _, _ => none
  else none

/-- The task that the message is about. -/
def task (m : FetchReport) : TaskId := m.report.taskId

/-- The results of the message; there are none in a body that cannot be decoded. -/
def results (m : FetchReport) : List FetchResult :=
  match FetchResult.listDecoder.fromValue m.body with
  | .ok rs => rs
  | .error _ => []

/-- The program that handles the message. -/
def handle (m : FetchReport) : Program (Except ConsumeError Unit) :=
  (process .standard m.key m.payload).run

/-- What the message changes of its task. -/
def patch (m : FetchReport) (now : Instant) (entries : Option (List FetchEntry)) : TaskPatch :=
  { Report.basePatch m.report now with fetchEntries := entries }

/-- The last part of the handling, which changes the task. -/
def update (m : FetchReport) (t : Task) (now : Instant) (entries : Option (List FetchEntry)) :
    Action ConsumeError Unit := do
  let _ ← ((Action.updateTask t.id (m.patch now entries)).mapError HandlerError.ledger).mapError
    ConsumeError.handler

/-- The handling after the task and the time are known. -/
def apply (m : FetchReport) (t : Task) (now : Instant) : Action ConsumeError Unit := do
  let rs ← (decode FetchResult.listDecoder .taskStatus m.body).mapError ConsumeError.handler
  if rs.isEmpty then m.update t now none
  else
    let entries ← (Report.reconcile t rs).mapError ConsumeError.handler
    m.update t now entries

theorem results_of_ok {m : FetchReport} {rs : List FetchResult}
    (h : FetchResult.listDecoder.fromValue m.body = .ok rs) : m.results = rs := by
  unfold results
  rw [h]

theorem results_of_error {m : FetchReport} {e : Json.DecodeError}
    (h : FetchResult.listDecoder.fromValue m.body = .error e) : m.results = [] := by
  unfold results
  rw [h]

theorem apply_of_error {m : FetchReport} {e : Json.DecodeError}
    (h : FetchResult.listDecoder.fromValue m.body = .error e) (t : Task) (now : Instant) :
    m.apply t now = throw (.handler (.invalidMessage .taskStatus e.message)) := by
  unfold apply decode
  rw [h]
  rfl

theorem apply_of_ok {m : FetchReport} {rs : List FetchResult}
    (h : FetchResult.listDecoder.fromValue m.body = .ok rs) (t : Task) (now : Instant) :
    m.apply t now =
      if rs.isEmpty then m.update t now none
      else
        (Report.reconcile t rs).mapError ConsumeError.handler >>= m.update t now := by
  unfold apply decode
  rw [h]
  rfl

theorem content_eq (m : FetchReport) : Report.content m.report = .results m.body := by
  unfold Report.content
  rw [m.type, m.status, m.payload_eq]

/-- What is left of the handling for an accepted message. -/
theorem process_eq (m : FetchReport) :
    process .standard m.key m.payload =
      (do let _ ← Report.status m.report; return ()).mapError ConsumeError.handler := by
  have ha := m.accepted
  unfold process
  rcases m.key_mem with hk | hk
  · rw [hk] at ha ⊢
    simp only [Handler.ofKey?, m.read, ha, Handler.handle, decode, m.decoded]
    rfl
  · rw [hk] at ha ⊢
    simp only [Handler.ofKey?, m.read, ha, Handler.handle, decode, m.decoded]
    rfl

/-- The handling finds the task, takes the time and applies the message. -/
theorem handle_eq (m : FetchReport) :
    m.handle = (do
      let found ← Action.perform (.findTask m.task)
      match found with
      | none => return ()
      | some t =>
        if t.type = .dataFetch then do
          let now ← Action.perform .now
          m.apply t now
        else return () : Action ConsumeError Unit).run := by
  have hupdate : ∀ t now entries, (do
      let _ ← (some <$> (Action.updateTask t.id (m.patch now entries)).mapError
        HandlerError.ledger).mapError ConsumeError.handler
      return ()) = m.update t now entries := by
    intro t now entries
    simp only [map_eq_pure_bind, Action.mapError_bind, bind_assoc, Action.mapError_pure, pure_bind]
    rfl
  unfold handle
  rw [m.process_eq]
  unfold Report.status
  simp only [bind_assoc, Action.mapError_bind, m.content_eq, m.type]
  rw [Action.mapError_perform]
  refine congrArg ExceptT.run (congrArg _ (funext fun found => ?_))
  cases found with
  | none => rfl
  | some t =>
    dsimp only
    by_cases ht : t.type = .dataFetch
    · rw [if_neg (not_not.2 ht), if_pos ht]
      simp only [bind_assoc, Action.mapError_bind, apply, Report.applyContent]
      rw [Action.mapError_perform]
      refine congrArg _ (funext fun now => congrArg _ (funext fun rs => ?_))
      by_cases hrs : rs.isEmpty
      · rw [if_pos hrs, if_pos hrs]
        exact hupdate t now none
      · rw [if_neg hrs, if_neg hrs]
        simp only [bind_assoc, pure_bind, Action.mapError_bind, Action.mapError_pure]
        exact congrArg _ (funext fun entries => hupdate t now entries)
    · rw [if_neg ht, if_pos ht]
      rfl

/-! ### One handling by itself -/

variable {m : FetchReport} {w : World} {t : Task}

theorem update_program (t : Task) (now : Instant) (entries : Option (List FetchEntry)) :
    (m.update t now entries).run = .call (.updateTask t.id (m.patch now entries)) fun
      | .ok _ => .done (.ok ())
      | .error e => .done (.error (.handler (.ledger e))) :=
  congrArg (Program.call (.updateTask t.id (m.patch now entries))) (funext fun
    | .ok _ => rfl
    | .error _ => rfl)

theorem update_run {u : Task} (h : w.ledger.task? t.id = some u) (now : Instant)
    (entries : Option (List FetchEntry)) :
    (m.update t now entries).run.run w = (.ok (),
      { w with ledger := w.ledger.putTask ((m.patch now entries).apply w.clock u) }) := by
  rw [update_program, Program.run_call, Command.run_updateTask h]
  rfl

/-- The entries that come of results, if they change something. -/
theorem reconcile_run (hw : w.Consistent) (rs : List FetchResult) :
    ∃ v fresh, (∀ i, ¬w.Old (fresh i)) ∧ w.MoreFiles v ∧ v.ledger.tasks = w.ledger.tasks ∧
      (∀ r ∈ rs, v.Resolves t.id r) ∧
      (Report.reconcile t rs).run.run w =
        (.ok (let merge := mergeResults t.entries fresh (rs.map (v.resolution t.id))
          if merge.changed then some merge.entries else none), v) := by
  obtain ⟨u, hu, hwu, htasks, hrs⟩ := Report.resolveAll_run (t := t) hw rs
  let reserve := Command.reserve (rs.map (u.resolution t.id)).length
  refine ⟨(reserve.run u).2, fun i => FreshId.text (u.nextNumber + i), fun i => ?_, ?_, htasks, hrs,
    ?_⟩
  · exact World.not_old_text (Nat.le_trans hwu.number (Nat.le_add_right _ i))
  · exact ⟨hwu.consistent.run (c := reserve) trivial,
      Nat.le_trans hwu.number (reserve.le_nextNumber u), hwu.sensors, hwu.file, hwu.fileOf⟩
  · unfold Report.reconcile
    rw [Action.run_bind_run, hu]
    rfl

/-- Changing the task changes nothing that is known of results. -/
theorem update_moreFiles (hw : w.Consistent) {u : Task} (ht : w.ledger.task? t.id = some u)
    (now : Instant) (entries : Option (List FetchEntry))
    (hold : ∀ data, entries = some data → ∀ e ∈ data, ∀ f, e.fileId = some f → w.Old f) :
    w.MoreFiles ((m.update t now entries).run.run w).2 := by
  have hrun := hw.run (c := .updateTask t.id (m.patch now entries)) hold
  rw [Command.run_updateTask ht] at hrun
  rw [update_run ht]
  exact ⟨hrun, Nat.le_refl _, rfl, id, id⟩

/-- The file of a resolved result has an id that was given out. -/
theorem resolution_old (hw : w.Consistent) {task : TaskId} {r : FetchResult} {f : FileId}
    (hf : (w.resolution task r).fileId = some f) : w.Old f := by
  obtain ⟨g, hg, rfl⟩ := Option.map_eq_some_iff.1 hf
  obtain ⟨s, -, hg⟩ := Option.bind_eq_some_iff.1 hg
  exact hw.old.files _ g (hw.indexed.file?_of_fileOf? hg)

/-- Merged entries have files whose ids were given out, if the entries and the results have. -/
theorem merge_old {entries : List FetchEntry} {fresh : Nat → String} {rs : List ResolvedResult}
    (hentries : ∀ e ∈ entries, ∀ f, e.fileId = some f → w.Old f)
    (hrs : ∀ r ∈ rs, ∀ f, r.fileId = some f → w.Old f) :
    ∀ e ∈ (mergeResults entries fresh rs).entries, ∀ f, e.fileId = some f → w.Old f := by
  intro e he f hf
  rcases Merge.file_of_mem_mergeResults he hf with ⟨a, ha, hfa⟩ | ⟨r, hr, hfr⟩
  · exact hentries a ha f hfa
  · exact hrs r hr f hfr

/-- The task is found with its changes. -/
theorem task?_update (hw : w.Consistent) {id : TaskId} {u : Task}
    (hu : w.ledger.task? id = some u) {p : TaskPatch} {now : Instant} :
    (w.ledger.putTask (p.apply now u)).task? id = some (p.apply now u) := by
  rw [Ledger.task?_putTask, TaskPatch.apply_id, if_pos (hw.indexed.task_id hu).symm]

/-- What a handling does once it has looked the task up: the results are merged into the entries
that it saw, and if that changes something, it takes the place of the entries there are now. -/
theorem apply_run (hw : w.Consistent) {u : Task} (hid : t.id = m.task)
    (hu : w.ledger.task? m.task = some u) (htype : u.type = .dataFetch)
    (hentries : ∀ e ∈ t.entries, ∀ f, e.fileId = some f → w.Old f) (now : Instant) :
    w.MoreFiles ((m.apply t now).run.run w).2 ∧
      (∀ r ∈ m.results, ((m.apply t now).run.run w).2.Resolves m.task r) ∧
      ∃ u' fresh, ((m.apply t now).run.run w).2.ledger.task? m.task = some u' ∧
        u'.type = .dataFetch ∧ (∀ i, ¬w.Old (fresh i)) ∧
        let merge := mergeResults t.entries fresh
          (m.results.map (((m.apply t now).run.run w).2.resolution m.task))
        u'.entries = if merge.changed then merge.entries else u.entries := by
  have hfresh : ∀ i, ¬w.Old (FreshId.text (w.nextNumber + i)) :=
    fun i => World.not_old_text (Nat.le_add_right _ i)
  rw [← hid] at hu ⊢
  cases hrs : FetchResult.listDecoder.fromValue m.body with
  | error e =>
    rw [apply_of_error hrs, results_of_error hrs]
    exact ⟨.refl hw, fun _ hr => absurd hr List.not_mem_nil, u, _, hu, htype, hfresh, rfl⟩
  | ok rs =>
    rw [apply_of_ok hrs, results_of_ok hrs]
    by_cases hempty : rs.isEmpty
    · obtain rfl := List.isEmpty_iff.1 hempty
      rw [if_pos hempty]
      have hgrow := update_moreFiles (m := m) hw hu now none fun data hd => by cases hd
      rw [update_run hu] at hgrow ⊢
      exact ⟨hgrow, fun _ hr => absurd hr List.not_mem_nil, (m.patch now none).apply w.clock u, _,
        task?_update hw hu, TaskPatch.apply_type.trans htype, hfresh,
        TaskPatch.apply_entries_of_none rfl⟩
    · rw [if_neg hempty, Action.run_bind_run, Action.run_mapError_run]
      obtain ⟨v, fresh, hnew, hwv, htasks, hres, hrec⟩ := reconcile_run (t := t) hw rs
      have huv : v.ledger.task? t.id = some u := by
        unfold Ledger.task? at hu ⊢
        rw [htasks, hu]
      have hresolved : ∀ r ∈ rs.map (v.resolution t.id), ∀ f, r.fileId = some f → v.Old f := by
        intro r hr f hf
        obtain ⟨a, -, rfl⟩ := List.mem_map.1 hr
        exact resolution_old hwv.consistent hf
      have hold : ∀ e ∈ (mergeResults t.entries fresh (rs.map (v.resolution t.id))).entries,
          ∀ f, e.fileId = some f → v.Old f :=
        merge_old (fun e he f hf => (hentries e he f hf).mono hwv.number) hresolved
      rw [hrec]
      dsimp only
      cases hchanged : (mergeResults t.entries fresh (rs.map (v.resolution t.id))).changed with
      | true =>
        have hgrow := update_moreFiles (m := m) hwv.consistent huv now (some _)
          (fun data hd => (Option.some.inj hd) ▸ hold)
        rw [if_pos rfl]
        rw [update_run huv] at hgrow ⊢
        refine ⟨hwv.trans hgrow, hres, _, fresh, task?_update hwv.consistent huv,
          TaskPatch.apply_type.trans htype, hnew, ?_⟩
        exact (TaskPatch.apply_entries rfl htype).trans (if_pos hchanged).symm
      | false =>
        have hgrow := update_moreFiles (m := m) hwv.consistent huv now none
          fun data hd => by cases hd
        rw [if_neg Bool.false_ne_true]
        rw [update_run huv] at hgrow ⊢
        refine ⟨hwv.trans hgrow, hres, _, fresh, task?_update hwv.consistent huv,
          TaskPatch.apply_type.trans htype, hnew, ?_⟩
        refine (TaskPatch.apply_entries_of_none rfl).trans (if_neg ?_).symm
        exact fun h => Bool.false_ne_true (hchanged.symm.trans h)

/-- After it has found the task and taken the time, a handling applies the message. -/
theorem handle_run_eq (ht : w.ledger.task? m.task = some t) (htype : t.type = .dataFetch) :
    m.handle.run w = (m.apply t w.clock).run.run w := by
  rw [handle_eq, Action.run_perform_bind_run]
  simp only [Command.run, ht, htype, if_true]
  rw [Action.run_perform_bind_run]
  rfl

/-- What a handling does to its task: the results are merged into the entries. -/
theorem handle_run (hw : w.Consistent) (ht : w.ledger.task? m.task = some t)
    (htype : t.type = .dataFetch) :
    w.MoreFiles (m.handle.run w).2 ∧ (∀ r ∈ m.results, (m.handle.run w).2.Resolves m.task r) ∧
      ∃ t' fresh, (m.handle.run w).2.ledger.task? m.task = some t' ∧ t'.type = .dataFetch ∧
        (∀ i, ¬w.Old (fresh i)) ∧ t'.entries = (mergeResults t.entries fresh
          (m.results.map ((m.handle.run w).2.resolution m.task))).entries := by
  rw [handle_run_eq ht htype]
  obtain ⟨hgrow, hres, t', fresh, ht', htype', hnew, hentries⟩ :=
    apply_run hw (hw.indexed.task_id ht) ht htype (fun e he f hf => hw.entry_old ht he hf) w.clock
  refine ⟨hgrow, hres, t', fresh, ht', htype', hnew, hentries.trans ?_⟩
  split
  · rfl
  · rename_i hchanged
    exact (Merge.entries_of_not_changed fresh (Bool.not_eq_true _ ▸ hchanged)).symm

end FetchReport

end SensorTasks

import SensorTasks.Proofs.Announcement
import SensorTasks.Proofs.FetchMessage

/-!
What can be uploaded, and what the message of a new upload says. The files of a request are looked
up one after the other, and the first that cannot be uploaded refuses the request. Otherwise all of
them stand in the work of the task, each with its attributes over those of its sensors; and since
none of them got there without a description, the message leaves none of them out.
-/

namespace SensorTasks

/-! ### Attributes -/

namespace Attributes

/-- The value of a key. -/
def get? (a : Attributes) (key : String) : Option Json := a.members.lookup key

@[simp] theorem get?_empty (key : String) : empty.get? key = none := rfl

theorem nodup_keys (a : Attributes) : (a.members.map (·.1)).Nodup := by
  have h := a.canonical
  rw [Json.isCanonical, Bool.and_eq_true] at h
  exact Json.nodup_of_keysIncrease h.2

theorem get?_extend (a b : Attributes) (key : String) :
    (a.extend b).get? key = (b.get? key).or (a.get? key) :=
  Json.lookup_extendMembers b.nodup_keys key

/-- Of sensors whose attributes are laid over each other, the last one with a key decides. -/
theorem get?_foldl_extend (a : Attributes) (sensors : List Sensor) (key : String) :
    (sensors.foldl (fun acc s => acc.extend s.attributes) a).get? key =
      (sensors.reverse.findSome? (·.attributes.get? key)).or (a.get? key) := by
  induction sensors generalizing a with
  | nil => rfl
  | cons s sensors ih =>
    rw [List.foldl_cons, ih, get?_extend, List.reverse_cons, List.findSome?_append, Option.or_assoc,
      List.findSome?_singleton]

end Attributes

/-! ### Files that can be uploaded -/

/-- The sensor says what it measures. -/
def Sensor.Named (s : Sensor) : Prop :=
  ∃ name, s.valueFragmentDisplayName = some name ∧ Text.isBlankText name = false

theorem Sensor.valueDescription_eq_some {s : Sensor} {description : String} :
    s.valueDescription = some description ↔ ∃ name, s.valueFragmentDisplayName = some name ∧
      Text.isBlankText name = false ∧ description = Text.trim name := by
  unfold valueDescription
  cases s.valueFragmentDisplayName with
  | none => simp
  | some name =>
    dsimp only
    rw [Text.trim_isEmpty]
    cases hblank : Text.isBlankText name with
    | true => simp [hblank]
    | false =>
      simp only [Bool.false_eq_true, if_false, Option.some.injEq, exists_eq_left', hblank, true_and]
      exact eq_comm

namespace Ledger

/-- The first sensor of the file is there and says what it measures, and both dates are known. -/
structure Uploadable (l : Ledger) (f : File) : Prop where
  sensor : ∃ first s, f.metadata.sensors.head? = some first ∧ l.sensor? first = some s ∧ s.Named
  dateFrom : f.metadata.dateFrom ≠ none
  dateTo : f.metadata.dateTo ≠ none

def CanUpload (l : Ledger) (id : FileId) : Prop := ∃ f, l.file? id = some f ∧ l.Uploadable f

/-- The first thing that is wrong with a file. -/
inductive Fault (l : Ledger) (f : File) : FileFault → Prop where
  | noSensor (none : f.metadata.sensors = []) : l.Fault f .noSensor
  | unknownSensor {first : SensorId} (head : f.metadata.sensors.head? = some first)
    (unknown : l.sensor? first = none) : l.Fault f (.unknownSensor first)
  | unnamedFragment {first : SensorId} {s : Sensor} (head : f.metadata.sensors.head? = some first)
    (known : l.sensor? first = some s) (unnamed : ¬s.Named) : l.Fault f (.unnamedFragment first)
  | noDates {first : SensorId} {s : Sensor} (head : f.metadata.sensors.head? = some first)
    (known : l.sensor? first = some s) (named : s.Named)
    (dates : f.metadata.dateFrom = none ∨ f.metadata.dateTo = none) : l.Fault f .noDates

/-- With this error a file is refused. -/
inductive Refuses (l : Ledger) (id : FileId) : TaskError → Prop where
  | notFound (missing : l.file? id = none) : l.Refuses id (.notFound .file id)
  | unusable {f : File} {fault : FileFault} (found : l.file? id = some f) (why : l.Fault f fault) :
    l.Refuses id (.unusableFile id fault)

/-- The value of a key in the attributes of the last of some sensors that is there and has it. -/
def lastValue? (l : Ledger) (ids : List SensorId) (key : String) : Option Json :=
  (l.sensorsOf ids).reverse.findSome? (·.attributes.get? key)

/-- What is uploaded of a file: the file itself, a description that can be shown, and its attributes
over those of its sensors. -/
structure Uploaded (l : Ledger) (f : File) (u : UploadFile) : Prop where
  fileId : u.fileId = f.id
  fileName : u.fileName = f.name
  storage : u.storage = f.storage
  description : Text.isBlankText u.metadata.valueFragmentDescription = false
  attributes : ∀ key, u.attributes.get? key =
    (f.attributes.get? key).or (l.lastValue? f.metadata.sensors key)

variable {l : Ledger} {f : File} {id : FileId}

theorem Fault.not_uploadable {fault : FileFault} (h : l.Fault f fault) : ¬l.Uploadable f := by
  rintro ⟨⟨first, s, head, known, named⟩, dateFrom, dateTo⟩
  cases h with
  | noSensor none =>
    rw [none] at head
    cases head
  | unknownSensor head' unknown =>
    rw [head, Option.some.injEq] at head'
    rw [head', unknown] at known
    cases known
  | unnamedFragment head' known' unnamed =>
    rw [head, Option.some.injEq] at head'
    rw [head', known', Option.some.injEq] at known
    exact unnamed (known ▸ named)
  | noDates _ _ _ dates => exact dates.elim dateFrom dateTo

theorem Refuses.not_canUpload {e : TaskError} (h : l.Refuses id e) : ¬l.CanUpload id := by
  rintro ⟨f, hf, huploadable⟩
  cases h with
  | notFound missing =>
    rw [missing] at hf
    cases hf
  | unusable found why =>
    rw [found, Option.some.injEq] at hf
    exact why.not_uploadable (hf ▸ huploadable)

end Ledger

namespace Creation

open Ledger

variable {l : Ledger} {f : File} {u : UploadFile}

theorem get?_uploadAttributes (l : Ledger) (f : File) (key : String) :
    (uploadAttributes f (l.sensorsOf f.metadata.sensors)).get? key =
      (f.attributes.get? key).or (l.lastValue? f.metadata.sensors key) := by
  rw [uploadAttributes, Attributes.get?_extend, Attributes.get?_foldl_extend,
    Attributes.get?_empty, Option.or_none, lastValue?]

/-- Of a file that can be uploaded all is found, and of any other the first thing that is wrong. -/
theorem uploadFile_cases (hl : l.Indexed) (f : File) :
    (∃ u, uploadFile f (l.sensorsOf f.metadata.sensors) = .ok u ∧ l.Uploadable f ∧
      l.Uploaded f u) ∨
    ∃ fault, uploadFile f (l.sensorsOf f.metadata.sensors) = .error fault ∧ l.Fault f fault := by
  unfold uploadFile
  cases hsensors : f.metadata.sensors with
  | nil => exact .inr ⟨_, rfl, .noSensor hsensors⟩
  | cons first rest =>
    have hhead : f.metadata.sensors.head? = some first := by rw [hsensors, List.head?_cons]
    dsimp only
    rw [hl.find?_sensorsOf List.mem_cons_self]
    cases hs : l.sensor? first with
    | none => exact .inr ⟨_, rfl, .unknownSensor hhead hs⟩
    | some s =>
      dsimp only
      cases hdescription : s.valueDescription with
      | none =>
        have hunnamed : ¬s.Named := by
          rintro ⟨name, hname, hblank⟩
          rw [Sensor.valueDescription_eq_some.2 ⟨name, hname, hblank, rfl⟩] at hdescription
          cases hdescription
        exact .inr ⟨_, rfl, (hl.sensor_id hs).symm ▸ .unnamedFragment hhead hs hunnamed⟩
      | some description =>
        obtain ⟨name, hname, hblank, rfl⟩ := Sensor.valueDescription_eq_some.1 hdescription
        have hnamed : s.Named := ⟨name, hname, hblank⟩
        cases hfrom : f.metadata.dateFrom with
        | none => exact .inr ⟨_, rfl, .noDates hhead hs hnamed (.inl hfrom)⟩
        | some dateFrom =>
          cases hto : f.metadata.dateTo with
          | none => exact .inr ⟨_, rfl, .noDates hhead hs hnamed (.inr hto)⟩
          | some dateTo =>
            refine .inl ⟨_, rfl, ⟨⟨first, s, hhead, hs, hnamed⟩, ?_, ?_⟩, ?_⟩
            · simp [hfrom]
            · simp [hto]
            · exact ⟨rfl, rfl, rfl, (Text.isBlankText_trim name).trans hblank,
                hsensors ▸ get?_uploadAttributes l f⟩

/-! ### Looking files up -/

/-- What the lookup of a file for an upload comes to. -/
def uploadOf (l : Ledger) (id : FileId) : Except TaskError UploadFile :=
  match l.file? id with
  | none => .error (.notFound .file id)
  | some f => (uploadFile f (l.sensorsOf f.metadata.sensors)).mapError (.unusableFile id)

theorem sensorsOf_run (f : File) (w : World) :
    (sensorsOf f).run.run w = (.ok (w.ledger.sensorsOf f.metadata.sensors), w) := by
  unfold sensorsOf
  cases hsensors : f.metadata.sensors <;> rfl

theorem findUploadFile_run (id : FileId) (w : World) :
    (findUploadFile id).run.run w = (uploadOf w.ledger id, w) := by
  rw [findUploadFile, Action.run_perform_bind_run]
  dsimp only [Command.run]
  unfold uploadOf
  cases w.ledger.file? id with
  | none => rfl
  | some f =>
    have hfound : (Action.orFail (.notFound .file id) (some f) : Action TaskError File).run.run w =
        (.ok f, w) := rfl
    rw [Action.run_bind_run, hfound]
    dsimp only
    rw [Action.run_bind_run, sensorsOf_run]
    dsimp only
    rw [Action.run_mapError_run]
    cases uploadFile f (w.ledger.sensorsOf f.metadata.sensors) <;> rfl

theorem findUploadFiles_run (ids : List FileId) (w : World) :
    (findUploadFiles ids).run.run w = (ids.mapM (uploadOf w.ledger), w) := by
  induction ids with
  | nil => rfl
  | cons id ids ih =>
    rw [findUploadFiles, Action.run_bind_run, findUploadFile_run, List.mapM_cons]
    cases uploadOf w.ledger id with
    | error e => rfl
    | ok u =>
      dsimp only
      rw [Action.run_bind_run, ih]
      cases ids.mapM (uploadOf w.ledger) <;> rfl

theorem uploadOf_cases (hl : l.Indexed) (id : FileId) :
    (∃ u f, uploadOf l id = .ok u ∧ l.CanUpload id ∧ u.fileId = id ∧ l.file? id = some f ∧
      l.Uploaded f u) ∨
    ∃ e, uploadOf l id = .error e ∧ l.Refuses id e := by
  unfold uploadOf
  cases hf : l.file? id with
  | none => exact .inr ⟨_, rfl, .notFound hf⟩
  | some f =>
    dsimp only
    rcases uploadFile_cases hl f with ⟨u, hu, huploadable, huploaded⟩ | ⟨fault, he, hfault⟩
    · rw [hu]
      exact .inl ⟨u, f, rfl, ⟨f, hf, huploadable⟩, huploaded.fileId.trans (hl.file_id hf), rfl,
        huploaded⟩
    · rw [he]
      exact .inr ⟨_, rfl, .unusable hf hfault⟩

/-- Either all files are found, in their order, or the first that cannot be uploaded is the one that
is complained of. -/
theorem uploadOf_all_cases (hl : l.Indexed) (ids : List FileId) :
    (∃ us, ids.mapM (uploadOf l) = .ok us ∧ (∀ id ∈ ids, l.CanUpload id) ∧
      us.map (·.fileId) = ids ∧ ∀ u ∈ us, ∃ f, l.file? u.fileId = some f ∧ l.Uploaded f u) ∨
    ∃ e before id after, ids.mapM (uploadOf l) = .error e ∧ ids = before ++ id :: after ∧
      (∀ a ∈ before, l.CanUpload a) ∧ l.Refuses id e := by
  induction ids with
  | nil => exact .inl ⟨[], rfl, by simp⟩
  | cons id ids ih =>
    rw [List.mapM_cons]
    rcases uploadOf_cases hl id with ⟨u, f, hu, hcan, rfl, hf, huploaded⟩ | ⟨e, he, hrefuses⟩
    · rw [hu]
      rcases ih with ⟨us, hus, hall, hids, hfiles⟩ | ⟨e, before, id, after, he, rfl, hbefore, hid⟩
      · rw [hus]
        refine .inl ⟨u :: us, rfl, List.forall_mem_cons.2 ⟨hcan, hall⟩, ?_,
          List.forall_mem_cons.2 ⟨⟨f, hf, huploaded⟩, hfiles⟩⟩
        rw [List.map_cons, hids]
      · rw [he]
        exact .inr ⟨e, u.fileId :: before, id, after, rfl, rfl,
          List.forall_mem_cons.2 ⟨hcan, hbefore⟩, hid⟩
    · rw [he]
      exact .inr ⟨e, [], id, ids, rfl, rfl, by simp, hrefuses⟩

/-! ### Building -/

/-- Work is found for an upload if its files are, and nothing else is wrong with the request. -/
theorem uploadWork_run {q : UploadRequest} (hne : q.fileIds ≠ [])
    (hplatform : Text.isBlankText q.platform.identifier = false) (w : World) :
    (uploadWork q).run.run w =
      ((q.fileIds.mapM (uploadOf w.ledger)).map fun us => .upload ⟨us, q.platform⟩, w) := by
  unfold uploadWork
  rw [if_neg (by simpa using hne), if_neg (by simp [hplatform]), Action.run_bind_run,
    findUploadFiles_run]
  cases q.fileIds.mapM (uploadOf w.ledger) <;> rfl

theorem uploadWork_ok {q : UploadRequest} {found : Work} {w v : World}
    (h : (uploadWork q).run.run w = (.ok found, v)) :
    q.fileIds ≠ [] ∧ Text.isBlankText q.platform.identifier = false := by
  unfold uploadWork at h
  split at h
  · cases h
  · rename_i hne
    split at h
    · cases h
    · rename_i hplatform
      exact ⟨by simpa using hne, Bool.eq_false_iff.2 hplatform⟩

theorem checkRecurrence_run {r : TaskRequest} (h : ∀ rec ∈ r.recurrence, ∃ p, rec.schedule = .ok p)
    (w : World) : (checkRecurrence r).run.run w = (.ok (), w) := by
  unfold checkRecurrence
  cases hrec : r.recurrence with
  | none => rfl
  | some rec =>
    obtain ⟨p, hp⟩ := h rec hrec
    rw [Option.map_some, hp]
    rfl

theorem firstRun_run (r : TaskRequest) (w : World) :
    ∃ t, (firstRun r).run.run w = (.ok t, w) := by
  unfold firstRun
  cases r.firstRunAt with
  | none => exact ⟨w.clock, rfl⟩
  | some t => exact ⟨t, rfl⟩

theorem resolveName_run (r : TaskRequest) (t : Instant) (w : World) :
    ∃ name v, (resolveName r t : Action TaskError String).run.run w = (.ok name, v) ∧
      v.ledger = w.ledger := by
  unfold resolveName
  cases r.givenName with
  | none => exact ⟨_, _, rfl, rfl⟩
  | some name => exact ⟨name, w, rfl, rfl⟩

/-- Whether a task is built depends on its work alone, unless its recurrence is wrong. -/
theorem build_work (user : UserId) {r : TaskRequest}
    (hrec : ∀ rec ∈ r.recurrence, ∃ p, rec.schedule = .ok p) (w : World) :
    ∃ u, u.ledger = w.ledger ∧
      ((build user r).run.run w).1.map (·.work) = ((work r.work).run.run u).1 := by
  obtain ⟨t, ht⟩ := firstRun_run r w
  obtain ⟨name, u, hname, hu⟩ := resolveName_run r t w
  refine ⟨u, hu, ?_⟩
  unfold build
  rw [Action.run_bind_run, checkRecurrence_run hrec]
  dsimp only
  rw [Action.run_bind_run, ht]
  dsimp only
  rw [Action.run_bind_run, hname]
  dsimp only
  rw [Action.run_bind_run]
  rcases (work r.work).run.run u with ⟨⟨e⟩ | ⟨found⟩, v⟩ <;> rfl

end Creation

/-! ### What is stored and what is sent -/

namespace UploadRequest

open Message

/-- What the request asks for can be uploaded. -/
structure Uploadable (q : UploadRequest) (l : Ledger) : Prop where
  files : q.fileIds ≠ []
  platform : Text.isBlankText q.platform.identifier = false
  file : ∀ id ∈ q.fileIds, l.CanUpload id

/-- File by file, what a request asks for stands in the work of its task and in the message. -/
structure Listed (q : UploadRequest) (l : Ledger) (work : UploadWork) (sent : ScheduledUpload) :
    Prop where
  platform : work.platform = q.platform
  stored : work.files.map (·.fileId) = q.fileIds
  file : ∀ u ∈ work.files, ∃ f, l.file? u.fileId = some f ∧ l.Uploaded f u
  sent : sent = ⟨work.files.map fun u =>
    ⟨u.fileId, u.fileName, u.storage, u.metadata, u.attributes⟩, q.platform⟩

end UploadRequest

namespace Creation

open Ledger

variable {r : TaskRequest} {q : UploadRequest} {w : World}

/-- Building a task for an upload ends with the work for all its files or with a complaint of the
first one that cannot be uploaded. -/
theorem build_upload_cases (user : UserId) (hw : w.ledger.Indexed) (hr : r.work = .upload q)
    (hrec : ∀ rec ∈ r.recurrence, ∃ p, rec.schedule = .ok p) (hne : q.fileIds ≠ [])
    (hplatform : Text.isBlankText q.platform.identifier = false) :
    (∃ t us, ((build user r).run.run w).1 = .ok t ∧ t.work = .upload ⟨us, q.platform⟩ ∧
      q.Uploadable w.ledger ∧ us.map (·.fileId) = q.fileIds ∧
      ∀ u ∈ us, ∃ f, w.ledger.file? u.fileId = some f ∧ w.ledger.Uploaded f u) ∨
    ∃ e before id after, ((build user r).run.run w).1 = .error e ∧
      q.fileIds = before ++ id :: after ∧ (∀ a ∈ before, w.ledger.CanUpload a) ∧
      w.ledger.Refuses id e := by
  obtain ⟨u, hu, hwork⟩ := build_work user hrec w
  rw [hr, work, uploadWork_run hne hplatform, hu] at hwork
  rcases uploadOf_all_cases hw q.fileIds with
    ⟨us, hus, hall, hids, hfiles⟩ | ⟨e, before, id, after, he, hids, hbefore, hid⟩
  · rw [hus] at hwork
    cases hbuilt : ((build user r).run.run w).1 with
    | error e =>
      rw [hbuilt] at hwork
      cases hwork
    | ok t =>
      rw [hbuilt] at hwork
      exact .inl ⟨t, us, rfl, Except.ok.inj hwork, ⟨hne, hplatform, hall⟩, hids, hfiles⟩
  · rw [he] at hwork
    cases hbuilt : ((build user r).run.run w).1 with
    | error e' =>
      rw [hbuilt] at hwork
      cases hwork
      exact .inr ⟨e, before, id, after, rfl, hids, hbefore, hid⟩
    | ok t =>
      rw [hbuilt] at hwork
      cases hwork

/-- A task that is stored is the one that was built. -/
theorem task?_of_store {t : Task} {v x : World} (h : (store t).run.run v = (.ok (), x)) :
    x.ledger.task? t.id = some t := by
  have hcommand : (Action.createTask t).run.run v = (Command.createTask t).run v := rfl
  rw [store, Action.run_mapError_run, hcommand] at h
  rcases hrun : (Command.createTask t).run v with ⟨⟨e⟩ | ⟨⟨⟩⟩, y⟩
  · rw [hrun] at h
    cases h
  · rw [hrun] at h
    cases h
    have hstored := (Scheduling.run_createTask_ok (congrArg Prod.fst hrun)).2 t.id
    rwa [hrun, if_pos rfl] at hstored

end Creation

namespace Scheduling

open Message

/-- Of files that all have a description, the message leaves out none. -/
theorem scheduledUpload_eq {work : UploadWork}
    (h : ∀ u ∈ work.files, Text.isBlankText u.metadata.valueFragmentDescription = false) :
    scheduledUpload work =
      ⟨work.files.map fun u => ⟨u.fileId, u.fileName, u.storage, u.metadata, u.attributes⟩,
        work.platform⟩ := by
  have hall : ∀ u ∈ work.files, scheduledFile u =
      some ⟨u.fileId, u.fileName, u.storage, u.metadata, u.attributes⟩ := by
    intro u hu
    rw [scheduledFile, h u hu]
    rfl
  rw [scheduledUpload, List.filterMap_congr hall, List.filterMap_eq_map']

theorem message_upload_run {t : Task} {work : UploadWork} (hwork : t.work = .upload work)
    (w : World) :
    (message t).run.run w = (.ok ⟨t.id, t.name, t.initiatedByUser, t.metadata.firstRunAt,
      t.metadata.recurrence, t.attributes, t.type, .upload (scheduledUpload work)⟩, w) := by
  unfold message scheduledWork
  rw [hwork]
  rfl

/-- An upload is built exactly if all that it asks for can be uploaded, and otherwise the first file
that cannot be is named. The task that is built and its message both list the files in the order of
the request, and what is stored is this task. -/
theorem message_of_upload (user : UserId) {r : TaskRequest} {q : UploadRequest} {w : World}
    (hw : w.ledger.Indexed) (hr : r.work = .upload q)
    (hrec : ∀ rec ∈ r.recurrence, ∃ p, rec.schedule = .ok p) :
    ((∃ t, ((Creation.build user r).run.run w).1 = .ok t) ↔ q.Uploadable w.ledger) ∧
      (∀ e v, (Creation.build user r).run.run w = (.error e, v) → q.fileIds ≠ [] →
        Text.isBlankText q.platform.identifier = false →
        ∃ before id after, q.fileIds = before ++ id :: after ∧
          (∀ a ∈ before, w.ledger.CanUpload a) ∧ ¬w.ledger.CanUpload id ∧
          w.ledger.Refuses id e) ∧
      ∀ t v, (Creation.build user r).run.run w = (.ok t, v) → ∃ work m sent,
        t.work = .upload work ∧ (message t).run.run v = (.ok m, v) ∧ m.payload = .upload sent ∧
        q.Listed w.ledger work sent ∧
        ∀ x, (Creation.store t).run.run v = (.ok (), x) → x.ledger.task? t.id = some t := by
  have hasked : ∀ {t v}, (Creation.build user r).run.run w = (.ok t, v) →
      q.fileIds ≠ [] ∧ Text.isBlankText q.platform.identifier = false := by
    intro t v hbuild
    obtain ⟨-, u, x, -, hwork⟩ := Creation.build_run hbuild
    rw [hr, Creation.work] at hwork
    exact Creation.uploadWork_ok hwork
  refine ⟨⟨fun hbuilt => ?_, fun hq => ?_⟩, fun e v hbuild hne hplatform => ?_,
    fun t v hbuild => ?_⟩
  · obtain ⟨t, ht⟩ := hbuilt
    obtain ⟨hne, hplatform⟩ := hasked (Prod.ext ht rfl)
    rcases Creation.build_upload_cases user hw hr hrec hne hplatform with
      ⟨_, _, -, -, hq, -⟩ | ⟨e, _, _, _, he, -⟩
    · exact hq
    · rw [ht] at he
      cases he
  · rcases Creation.build_upload_cases user hw hr hrec hq.files hq.platform with
      ⟨t, _, ht, -⟩ | ⟨e, before, id, after, -, hids, -, hid⟩
    · exact ⟨t, ht⟩
    · exact absurd (hq.file id (by simp [hids])) hid.not_canUpload
  · rcases Creation.build_upload_cases user hw hr hrec hne hplatform with
      ⟨t, _, ht, -⟩ | ⟨e', before, id, after, he, hids, hbefore, hid⟩
    · rw [hbuild] at ht
      cases ht
    · rw [hbuild] at he
      cases he
      exact ⟨before, id, after, hids, hbefore, hid.not_canUpload, hid⟩
  · obtain ⟨hne, hplatform⟩ := hasked hbuild
    rcases Creation.build_upload_cases user hw hr hrec hne hplatform with
      ⟨t', us, ht, hwork, -, hids, hfiles⟩ | ⟨e, _, _, _, he, -⟩
    · rw [hbuild] at ht
      cases ht
      have hdescription : ∀ u ∈ us, Text.isBlankText u.metadata.valueFragmentDescription = false :=
        fun u hu => (hfiles u hu).elim fun f hf => hf.2.description
      refine ⟨⟨us, q.platform⟩, _, _, hwork, message_upload_run hwork v, rfl,
        ⟨rfl, hids, hfiles, scheduledUpload_eq hdescription⟩, fun x => Creation.task?_of_store⟩
    · rw [hbuild] at he
      cases he

namespace Sample

/-- A heater, with attributes that its file and another sensor have too. -/
def heater : Sensor where
  id := "s2"
  name := "heater"
  description := none
  managedObjectId := "o2"
  managedObjectName := "hall"
  valueFragmentType := "Power"
  valueFragmentDisplayName := some " Power "
  attributes := ⟨[("floor", .string "1"), ("owner", .string "ada"), ("unit", .string "W")], rfl⟩

def meter : Sensor where
  id := "s3"
  name := "meter"
  description := none
  managedObjectId := "o3"
  managedObjectName := "hall"
  valueFragmentType := "Energy"
  valueFragmentDisplayName := none
  attributes := ⟨[("owner", .string "bob"), ("unit", .string "J")], rfl⟩

/-- A file of both, and of a sensor that is not there any more. -/
def log : NewFile where
  name := "log.csv"
  storage := ⟨"bucket", "log.csv"⟩
  metadata := ⟨["s2", "s3", "s9"], some clock, some clock, none, none, []⟩
  createdByTask := none
  description := none
  url := none
  attributes := ⟨[("owner", .string "eve")], rfl⟩

def measured : World :=
  ((Command.createSensor meter).run ((Command.createSensor heater).run (.new 8 clock)).2).2

def logged : World := ((Command.createFile log).run measured).2

theorem logged_indexed : logged.ledger.Indexed :=
  ((Ledger.Indexed.empty.createSensor (s := heater) rfl rfl).createSensor (s := meter) rfl
    rfl).createFile (f := File.ofNew log (FreshId.text 1) clock) fun b hb => by cases hb

/-- The log twice; with another file between that is not there. -/
def logRequest (others : List FileId) : TaskRequest where
  name := some "log"
  firstRunAt := none
  recurrence := none
  attributes := .empty
  work := .upload ⟨FreshId.text 1 :: others ++ [FreshId.text 1], ⟨"platform"⟩⟩

end Sample

/-- The log is uploaded twice if it is asked for twice, with the attributes of the file, the meter
and the heater in this order; and a file that is not there refuses the request. -/
theorem message_of_log :
    Sample.logged.ledger.Indexed ∧
      (∃ t v m sent,
        (Creation.build "ada" (Sample.logRequest [])).run.run Sample.logged = (.ok t, v) ∧
        (message t).run.run v = (.ok m, v) ∧ m.payload = .upload sent ∧
        sent.files.map (·.fileId) = [FreshId.text 1, FreshId.text 1] ∧
        ∀ f ∈ sent.files, f.attributes.get? "owner" = some (.string "eve") ∧
          f.attributes.get? "unit" = some (.string "J") ∧
          f.attributes.get? "floor" = some (.string "1") ∧ f.attributes.get? "room" = none) ∧
      ((Creation.build "ada" (Sample.logRequest ["f9"])).run.run Sample.logged).1 =
        .error (.notFound .file "f9") := by
  refine ⟨Sample.logged_indexed, ?_, ?_⟩
  · obtain ⟨-, -, hsent⟩ := message_of_upload "ada" (r := Sample.logRequest [])
      Sample.logged_indexed rfl (by simp [Sample.logRequest])
    obtain ⟨work, m, sent, -, hrun, hm, hlisted, -⟩ := hsent _ _ (Prod.ext rfl rfl)
    refine ⟨_, _, m, sent, Prod.ext rfl rfl, hrun, hm, ?_, ?_⟩
    · rw [hlisted.sent, List.map_map]
      exact hlisted.stored
    · rw [hlisted.sent]
      intro f hf
      obtain ⟨u, hu, rfl⟩ := List.mem_map.1 hf
      obtain ⟨g, hg, huploaded⟩ := hlisted.file u hu
      have hid : u.fileId ∈ work.files.map (·.fileId) := List.mem_map_of_mem hu
      rw [hlisted.stored] at hid
      obtain rfl : File.ofNew Sample.log (FreshId.text 1) Sample.clock = g := by
        rw [show u.fileId = FreshId.text 1 by simpa using hid] at hg
        exact Option.some.inj hg
      exact ⟨huploaded.attributes "owner", huploaded.attributes "unit",
        huploaded.attributes "floor", huploaded.attributes "room"⟩
  · rfl

end Scheduling

end SensorTasks

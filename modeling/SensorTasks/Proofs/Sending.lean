import SensorTasks.Proofs.Encoding
import SensorTasks.Proofs.Validation
import SensorTasks.Proofs.WireDates

/-!
The messages that schedule tasks, as they arrive. A message is read if all the dates in it can be
sent, and then as the same message with its dates in milliseconds. Cutting dates off turns none
around, so what passes its checks passes them again; a message that does is refused for its dates
only.
-/

namespace SensorTasks

open Json

/-! ### Parts of documents -/

theorem Instant.carries : Carries wireDecoder toWireJson Sendable toMillis where
  reads origin a b := by
    simp only [toWireJson, tree, wireDecoder, Decoder.parsed, ofWire?_toWire]
    by_cases h : a.Sendable <;> simp [h]
  ne_null a := by simp [toWireJson, tree]

theorem TaskType.faithful : Faithful TaskType.decoder TaskType.toJson :=
  choice_faithful fun a => by cases a <;> decide

theorem Recurrence.faithful : Faithful Recurrence.decoder Recurrence.toJson := by
  refine .record (.seq (.map .required) .optional) (fun r => ?_) fun origin r b => ?_
  · cases r.windowSeconds <;> simp [Json.optional]
  · simp [fields, string_faithful.reads, natural_faithful.member]

theorem Storage.faithful : Faithful Storage.decoder Storage.toJson := by
  refine .record (.seq (.map .required) .required) (fun s => ?_) fun origin s b => ?_
  · simp
  · simp [fields, string_faithful.reads]

theorem Platform.faithful : Faithful Platform.decoder Platform.toJson := by
  refine .record (.map .required) (fun p => ?_) fun origin p b => ?_
  · simp
  · simp [fields, string_faithful.reads]

namespace Message

/-! ### Fetching -/

theorem SensorRef.faithful : Faithful SensorRef.decoder SensorRef.toJson := by
  refine .record (.seq (.seq (.map .required) .required) .required) (fun s => ?_)
    fun origin s b => ?_
  · simp
  · simp [fields, string_faithful.reads]

theorem ScheduledEntry.faithful : Faithful ScheduledEntry.decoder ScheduledEntry.toJson := by
  refine .record (.seq (.seq (.map .required) .required) .required) (fun e => ?_)
    fun origin e b => ?_
  · simp
  · simp [fields, string_faithful.reads, SensorRef.faithful.reads]

namespace ScheduledFetch

/-- The dates of a fetch. -/
def dates (w : ScheduledFetch) : List Instant :=
  w.dateFrom :: w.dateTo.toList

/-- The fetch as it arrives. -/
def sent (w : ScheduledFetch) : ScheduledFetch :=
  ⟨w.data, w.dateFrom.toMillis, w.dateTo.map Instant.toMillis⟩

theorem carries : Carries decoder toJson (fun w => ∀ d ∈ w.dates, d.Sendable) sent := by
  refine .record (.seq (.seq (.map .required) .required) .optional) (fun w => ?_)
    fun origin w b => ?_
  · cases w.dateTo <;> simp [Json.optional]
  · simp [fields, dates, sent, ScheduledEntry.faithful.list.reads, Instant.carries.reads,
      Instant.carries.member, and_assoc]

theorem check_sent {w : ScheduledFetch} (h : w.check = .ok ()) : w.sent.check = .ok () := by
  obtain ⟨horder, hentries⟩ := check_eq_ok.1 h
  refine check_eq_ok.2 ⟨fun stop hstop => ?_, hentries⟩
  obtain ⟨stop, hstop', rfl⟩ := Option.map_eq_some_iff.1 hstop
  exact Instant.before_toMillis (horder stop hstop')

end ScheduledFetch

/-! ### Uploading -/

/-- The metadata of a file as they arrive. -/
def sentMetadata (m : UploadMetadata) : UploadMetadata :=
  { m with dateFrom := m.dateFrom.toMillis, dateTo := m.dateTo.toMillis }

theorem uploadMetadata_carries : Carries uploadMetadataDecoder uploadMetadataJson
    (fun m => m.dateFrom.Sendable ∧ m.dateTo.Sendable) sentMetadata := by
  refine .record (.seq (.seq (.seq (.seq (.seq (.seq (.seq (.map .required) .required) .required)
    .optional) .required) .required) .optional) .optional) (fun m => ?_) fun origin m b => ?_
  · cases m.managedObjectName <;> cases m.sensorDescription <;> cases m.fileDescription <;>
      simp [Json.optional]
  · simp [uploadMetadataFields, sentMetadata, string_faithful.reads, string_faithful.member,
      Instant.carries.reads, and_assoc]

namespace ScheduledUploadFile

def dates (f : ScheduledUploadFile) : List Instant :=
  [f.metadata.dateFrom, f.metadata.dateTo]

def sent (f : ScheduledUploadFile) : ScheduledUploadFile :=
  { f with metadata := sentMetadata f.metadata }

theorem carries : Carries decoder toJson (fun f => ∀ d ∈ f.dates, d.Sendable) sent := by
  refine .record (.seq (.seq (.seq (.seq (.map .required) .required) .required) .required)
    .withDefault) (fun f => ?_) fun origin f b => ?_
  · simp
  · simp [fields, dates, sent, string_faithful.reads, Storage.faithful.reads,
      uploadMetadata_carries.reads, attributes_faithful.reads, and_assoc]

end ScheduledUploadFile

namespace ScheduledUpload

def dates (w : ScheduledUpload) : List Instant :=
  w.files.flatMap ScheduledUploadFile.dates

def sent (w : ScheduledUpload) : ScheduledUpload :=
  ⟨w.files.map ScheduledUploadFile.sent, w.platform⟩

theorem carries : Carries decoder toJson (fun w => ∀ d ∈ w.dates, d.Sendable) sent := by
  refine .record (.seq (.map .required) .required) (fun w => ?_) fun origin w b => ?_
  · simp
  · rw [dates, List.forall_mem_flatMap]
    simp [fields, sent, ScheduledUploadFile.carries.list.reads, Platform.faithful.reads, and_assoc]

theorem check_sent {w : ScheduledUpload} (h : w.check = .ok ()) : w.sent.check = .ok () := by
  obtain ⟨hplatform, hfiles⟩ := check_eq_ok.1 h
  exact check_eq_ok.2 ⟨hplatform, List.forall_mem_map.2 hfiles⟩

end ScheduledUpload

/-! ### Messages -/

/-- Work without content. -/
theorem sync_faithful : Faithful ScheduledWork.syncDecoder fun _ => .object [] where
  reads _ _ _ := ⟨fun _ => ⟨trivial, rfl⟩, fun _ => rfl⟩
  ne_null a := by simp [tree]

namespace Scheduled

variable {α : Type}

/-- The message as it arrives, where `sent` is the payload that arrives. -/
def sent (sent : α → α) (m : Scheduled α) : Scheduled α :=
  { m with firstRunAt := m.firstRunAt.toMillis, payload := sent m.payload }

theorem carries {d : Decoder α} {encode : α → Json} {fits : α → Prop} {sent : α → α}
    (h : Carries d encode fits sent) : Carries (decoder d) (toJson encode)
      (fun m => m.firstRunAt.Sendable ∧ fits m.payload) (Scheduled.sent sent) := by
  refine .record (.seq (.seq (.seq (.seq (.seq (.seq (.seq (.map .required) .required) .required)
    .required) .optional) .withDefault) .required) .required) (fun m => ?_) fun origin m b => ?_
  · cases m.recurrence <;> simp [Json.optional]
  · simp [fields, Scheduled.sent, string_faithful.reads, Instant.carries.reads,
      Recurrence.faithful.member, attributes_faithful.reads, TaskType.faithful.reads, h.reads,
      and_assoc]

/-- A message about one kind of task is accepted on the key of that kind exactly if its dates can be
sent and it passes its checks as it arrives. -/
theorem validate_toJson {d : Decoder α} {encode : α → Json} {fits : α → Prop} {sent : α → α}
    {name : String} (check : α → Check) (h : Carries d encode fits sent) (m : Scheduled α)
    (hschema : standardSchema m.taskType.scheduledKey = [⟨name, scheduled d check m.taskType⟩]) :
    Registry.standard.validate m.taskType.scheduledKey (m.toJson encode) = .ok () ↔
      (m.firstRunAt.Sendable ∧ fits m.payload) ∧ (m.sent sent).check check = .ok () := by
  rw [validate_standard, hschema]
  simp only [List.mem_singleton, exists_eq_left, scheduled_eq_ok, Decoder.fromValue,
    (carries h).reads]
  constructor
  · rintro ⟨b, ⟨hfits, rfl⟩, hcheck, -⟩
    exact ⟨hfits, hcheck⟩
  · rintro ⟨hfits, hcheck⟩
    exact ⟨_, ⟨hfits, rfl⟩, hcheck, rfl⟩

end Scheduled

/-! ### Work of any kind -/

namespace ScheduledWork

def type : ScheduledWork → TaskType
  | fetch _ => .dataFetch
  | upload _ => .dataUpload
  | sync => .objectSync

def dates : ScheduledWork → List Instant
  | fetch w => w.dates
  | upload w => w.dates
  | sync => []

def sent : ScheduledWork → ScheduledWork
  | fetch w => .fetch w.sent
  | upload w => .upload w.sent
  | sync => .sync

theorem check_sent {w : ScheduledWork} (h : w.check = .ok ()) : w.sent.check = .ok () := by
  cases w with
  | fetch w => exact ScheduledFetch.check_sent h
  | upload w => exact ScheduledUpload.check_sent h
  | sync => rfl

end ScheduledWork

namespace Scheduled

/-- All dates that a message carries. -/
def dates (m : Scheduled ScheduledWork) : List Instant :=
  m.firstRunAt :: m.payload.dates

theorem forall_mem_dates {m : Scheduled ScheduledWork} :
    (∀ d ∈ m.dates, d.Sendable) ↔ m.firstRunAt.Sendable ∧ ∀ d ∈ m.payload.dates, d.Sendable :=
  List.forall_mem_cons

/-- The same for a message that says itself what kind of task it is about. -/
theorem validate_work {m : Scheduled ScheduledWork} (htype : m.taskType = m.payload.type) :
    Registry.standard.validate m.taskType.scheduledKey (m.toJson ScheduledWork.toJson) = .ok () ↔
      (∀ d ∈ m.dates, d.Sendable) ∧
        (m.sent ScheduledWork.sent).check ScheduledWork.check = .ok () := by
  obtain ⟨id, name, user, firstRunAt, recurrence, attributes, type, payload⟩ := m
  dsimp only at htype
  subst htype
  rw [forall_mem_dates]
  -- for each kind this is the document of a message about that kind only
  cases payload with
  | fetch w =>
    exact validate_toJson ScheduledFetch.check ScheduledFetch.carries
      ⟨id, name, user, firstRunAt, recurrence, attributes, .dataFetch, w⟩ rfl
  | upload w =>
    exact validate_toJson ScheduledUpload.check ScheduledUpload.carries
      ⟨id, name, user, firstRunAt, recurrence, attributes, .dataUpload, w⟩ rfl
  | sync =>
    refine (validate_toJson noCheck sync_faithful
      ⟨id, name, user, firstRunAt, recurrence, attributes, .objectSync, ()⟩ rfl).trans ?_
    exact and_congr_left' (and_congr_right' (by simp [ScheduledWork.dates]))

/-- What passes its checks passes them as it arrives. -/
theorem check_sent {m : Scheduled ScheduledWork} (h : m.check ScheduledWork.check = .ok ()) :
    (m.sent ScheduledWork.sent).check ScheduledWork.check = .ok () := by
  obtain ⟨hname, hpattern, hpayload⟩ := check_eq_ok.1 h
  exact check_eq_ok.2 ⟨hname, hpattern, ScheduledWork.check_sent hpayload⟩

end Scheduled

end Message

end SensorTasks

import SensorTasks.Proofs.Arriving

/-!
Every message as it arrives. Each kind of message is written and read in one form, holds dates, and
is meant for certain keys; what is written of a message whose dates can be sent is read as the same
message with its dates in milliseconds, and the registry accepts it on its key exactly if that
message passes its own checks.
-/

namespace SensorTasks.Message

open Json

/-! ### Work of unknown kind -/

/-- An object whose fields cannot be read is not read. -/
theorem exists_error_of_value {α : Type} {fs : Fields α} {wanted : String} {origin : Origin}
    {members : List (String × Tree)} (h : ∀ a, fs.value origin members ≠ .ok a) :
    ∃ e, fs.decode wanted origin (.object members) = .error e := by
  cases hd : fs.decode wanted origin (.object members) with
  | error e => exact ⟨e, rfl⟩
  | ok a => exact absurd (Fields.value_of_decode hd) (h a)

namespace ScheduledFetch

theorem decoder_eq_error {ms : List (String × Json)} (h : ms.lookup "data" = none)
    (origin : Origin) : ∃ e, decoder origin (.object (treeMembers ms)) = .error e :=
  exists_error_of_value fun w hw => by simp [fields, h] at hw

/-- What is written of a fetch is no upload. -/
theorem exists_members (w : ScheduledFetch) : ∃ ms, w.toJson.tree = .object (treeMembers ms) ∧
    (ms.map (·.1)).Nodup ∧ ms.lookup "files" = none := by
  unfold toJson ofMembers
  rw [tree]
  refine ⟨_, rfl, nodup_of_keysIncrease (keysIncrease_extendMembers _ rfl), ?_⟩
  rw [lookup_extendMembers (by cases w.dateTo <;> simp [Json.optional])]
  simp

end ScheduledFetch

namespace ScheduledUpload

theorem decoder_eq_error {ms : List (String × Json)} (h : ms.lookup "files" = none)
    (origin : Origin) : ∃ e, decoder origin (.object (treeMembers ms)) = .error e :=
  exists_error_of_value fun w hw => by simp [fields, h] at hw

/-- What is written of an upload is no fetch. -/
theorem exists_members (w : ScheduledUpload) : ∃ ms, w.toJson.tree = .object (treeMembers ms) ∧
    (ms.map (·.1)).Nodup ∧ ms.lookup "data" = none := by
  unfold toJson ofMembers
  rw [tree]
  refine ⟨_, rfl, nodup_of_keysIncrease (keysIncrease_extendMembers _ rfl), ?_⟩
  rw [lookup_extendMembers (by simp)]
  simp

end ScheduledUpload

namespace ScheduledWork

/-- Work as it arrives where its kind is not known: with a date that cannot be sent it is not read
as what it is, and what is left is work without content. -/
def received : ScheduledWork → ScheduledWork
  | fetch w => if ∀ d ∈ w.dates, d.Sendable then .fetch w.sent else .sync
  | upload w => if ∀ d ∈ w.dates, d.Sendable then .upload w.sent else .sync
  | sync => .sync

theorem received_of_sendable {w : ScheduledWork} (h : ∀ d ∈ w.dates, d.Sendable) :
    w.received = w.sent := by
  cases w with
  | fetch w => exact if_pos h
  | upload w => exact if_pos h
  | sync => rfl

variable {origin : Origin} {ms : List (String × Json)}

theorem decoder_of_fetch {w : ScheduledFetch}
    (h : ScheduledFetch.decoder .buffered (.object (treeMembers ms)) = .ok w) :
    decoder origin (.object (treeMembers ms)) = .ok (.fetch w) := by
  simp [decoder, Decoder.untagged, Decoder.firstOf, Decoder.map, h, Except.map, Except.toOption,
    Tree.read?]

theorem decoder_of_upload {w : ScheduledUpload} (hdata : ms.lookup "data" = none)
    (h : ScheduledUpload.decoder .buffered (.object (treeMembers ms)) = .ok w) :
    decoder origin (.object (treeMembers ms)) = .ok (.upload w) := by
  obtain ⟨e, he⟩ := ScheduledFetch.decoder_eq_error hdata .buffered
  simp [decoder, Decoder.untagged, Decoder.firstOf, Decoder.map, he, h, Except.map,
    Except.toOption, Tree.read?]

/-- What is neither a fetch nor an upload may be any object. -/
theorem decoder_of_rest (hkeys : (ms.map (·.1)).Nodup)
    (hfetch : ∃ e, ScheduledFetch.decoder .buffered (.object (treeMembers ms)) = .error e)
    (hupload : ∃ e, ScheduledUpload.decoder .buffered (.object (treeMembers ms)) = .error e) :
    decoder origin (.object (treeMembers ms)) = .ok .sync := by
  obtain ⟨e, he⟩ := hfetch
  obtain ⟨e', he'⟩ := hupload
  have hsync : syncDecoder .buffered (.object (treeMembers ms)) = .ok () := by
    unfold syncDecoder Fields.decode
    exact Fields.decodeMembers_of_value Tree.isWhole_tree hkeys
      (fun _ h => absurd h List.not_mem_nil) rfl
  simp [decoder, Decoder.untagged, Decoder.firstOf, Decoder.map, he, he', hsync, Except.map,
    Except.toOption, Tree.read?]

/-- The kinds are tried in turn, and nothing that is written of one kind is read as another one
before it. -/
theorem decoder_toJson (origin : Origin) (w : ScheduledWork) :
    decoder origin w.toJson.tree = .ok w.received := by
  cases w with
  | fetch w =>
    obtain ⟨ms, htree, hkeys, hfiles⟩ := w.exists_members
    have hupload := ScheduledUpload.decoder_eq_error hfiles .buffered
    rw [toJson, htree]
    by_cases hdates : ∀ d ∈ w.dates, d.Sendable
    · have hread := (ScheduledFetch.carries.reads .buffered w w.sent).2 ⟨hdates, rfl⟩
      rw [received, if_pos hdates]
      exact decoder_of_fetch (htree ▸ hread)
    · have hfetch := ScheduledFetch.carries.exists_error .buffered hdates
      rw [received, if_neg hdates]
      exact decoder_of_rest hkeys (htree ▸ hfetch) hupload
  | upload w =>
    obtain ⟨ms, htree, hkeys, hdata⟩ := w.exists_members
    have hfetch := ScheduledFetch.decoder_eq_error hdata .buffered
    rw [toJson, htree]
    by_cases hdates : ∀ d ∈ w.dates, d.Sendable
    · have hread := (ScheduledUpload.carries.reads .buffered w w.sent).2 ⟨hdates, rfl⟩
      rw [received, if_pos hdates]
      exact decoder_of_upload hdata (htree ▸ hread)
    · have hupload := ScheduledUpload.carries.exists_error .buffered hdates
      rw [received, if_neg hdates]
      exact decoder_of_rest hkeys hfetch (htree ▸ hupload)
  | sync =>
    exact decoder_of_rest .nil (ScheduledFetch.decoder_eq_error List.lookup_nil .buffered)
      (ScheduledUpload.decoder_eq_error List.lookup_nil .buffered)

theorem carries : Carries decoder toJson (fun _ => True) received where
  reads origin w b := by rw [decoder_toJson]; simp
  ne_null w := by
    cases w <;> simp [toJson, ScheduledFetch.toJson, ScheduledUpload.toJson, ofMembers, tree]

end ScheduledWork

/-! ### Formats -/

/-- How values of a type are written and read, what they have to pass, which dates they hold, and
how they arrive. -/
structure Format (α : Type) where
  decoder : Decoder α
  encode : α → Json
  check : α → Check
  dates : α → List Instant
  /-- The value with its dates in milliseconds. -/
  sent : α → α

namespace Format

variable {α : Type}

def dateless (decoder : Decoder α) (encode : α → Json) (check : α → Check) : Format α :=
  ⟨decoder, encode, check, fun _ => [], id⟩

/-- Messages that schedule a task. -/
def scheduled (f : Format α) : Format (Scheduled α) :=
  ⟨Scheduled.decoder f.decoder, Scheduled.toJson f.encode, Scheduled.check f.check,
    fun m => m.firstRunAt :: f.dates m.payload, Scheduled.sent f.sent⟩

/-- Reports about a task. -/
def report (f : Format α) : Format (StatusReport α) :=
  ⟨StatusReport.decoder f.decoder, StatusReport.toJson f.encode, StatusReport.check f.check,
    fun m => m.dates ++ m.payload.toList.flatMap f.dates,
    fun m => m.arriving (m.payload.map f.sent)⟩

/-- Values are read if their dates can be sent. A value whose dates cannot may be read too, as
something else. -/
structure Lawful (f : Format α) : Prop where
  carries : ∃ fits received, Carries f.decoder f.encode fits received ∧
    ∀ a, (∀ d ∈ f.dates a, d.Sendable) → fits a ∧ received a = f.sent a
  dates_sent : ∀ a, f.dates (f.sent a) = (f.dates a).map Instant.toMillis

theorem Lawful.of_carries {f : Format α}
    (h : Carries f.decoder f.encode (fun a => ∀ d ∈ f.dates a, d.Sendable) f.sent)
    (hdates : ∀ a, f.dates (f.sent a) = (f.dates a).map Instant.toMillis) : f.Lawful :=
  ⟨⟨_, _, h, fun _ ha => ⟨ha, rfl⟩⟩, hdates⟩

theorem Lawful.dateless {decoder : Decoder α} {encode : α → Json} {check : α → Check}
    (h : Faithful decoder encode) : (dateless decoder encode check).Lawful :=
  ⟨⟨_, _, h, fun _ _ => ⟨trivial, rfl⟩⟩, fun _ => rfl⟩

theorem Lawful.read {f : Format α} (hf : f.Lawful) {a : α} (h : ∀ d ∈ f.dates a, d.Sendable)
    (origin : Origin) : f.decoder origin (f.encode a).tree = .ok (f.sent a) := by
  obtain ⟨fits, received, hcarries, hfits⟩ := hf.carries
  exact (hcarries.reads origin a _).2 (hfits a h)

theorem Lawful.ne_null {f : Format α} (hf : f.Lawful) (a : α) : (f.encode a).tree ≠ .null := by
  obtain ⟨fits, received, hcarries, -⟩ := hf.carries
  exact hcarries.ne_null a

theorem Lawful.scheduled {f : Format α} (hf : f.Lawful) : f.scheduled.Lawful := by
  obtain ⟨fits, received, hcarries, hfits⟩ := hf.carries
  refine ⟨⟨_, _, Scheduled.carries hcarries, fun m hm => ?_⟩, fun m => ?_⟩
  · rw [Format.scheduled, List.forall_mem_cons] at hm
    obtain ⟨hpayload, hreceived⟩ := hfits m.payload hm.2
    refine ⟨⟨hm.1, hpayload⟩, ?_⟩
    simp [Format.scheduled, Scheduled.sent, hreceived]
  · simp [Format.scheduled, Scheduled.sent, hf.dates_sent]

/-- A report whose dates can be sent is read, and so is one without payload, whatever the payload
might have been. -/
theorem read_report {f : Format α} {m : StatusReport α} (hf : ∀ a ∈ m.payload, f.Lawful)
    (h : ∀ d ∈ f.report.dates m, d.Sendable) (origin : Origin) :
    f.report.decoder origin (f.report.encode m).tree = .ok (f.report.sent m) := by
  rw [report, List.forall_mem_append, List.forall_mem_flatMap] at h
  refine (StatusReport.decoder_eq_ok f.decoder f.encode m origin _).2 ⟨h.1, _, ?_, rfl⟩
  cases hp : m.payload with
  | none => rfl
  | some a =>
    obtain ⟨fits, received, hcarries, hfits⟩ := (hf a hp).carries
    obtain ⟨ha, hreceived⟩ := hfits a (h.2 a (by simp [hp]))
    refine (hcarries.member origin (some a) _).2 ⟨?_, ?_⟩
    · simpa using ha
    · simp [hreceived]

theorem dates_sent_report {f : Format α} {m : StatusReport α} (hf : ∀ a ∈ m.payload, f.Lawful) :
    f.report.dates (f.report.sent m) = (f.report.dates m).map Instant.toMillis := by
  have hown : (m.arriving (m.payload.map f.sent)).dates = m.dates.map Instant.toMillis := by
    simp [StatusReport.dates, StatusReport.arriving, Option.toList_map]
  simp only [report, hown, List.map_append]
  congr 1
  cases hp : m.payload with
  | none => rfl
  | some a => simp [StatusReport.arriving, (hf a hp).dates_sent]

end Format

def ScheduledFetch.format : Format ScheduledFetch := ⟨decoder, toJson, check, dates, sent⟩

theorem ScheduledFetch.format_lawful : format.Lawful :=
  .of_carries carries fun w => by cases h : w.dateTo <;> simp [format, dates, sent, h]

def ScheduledUpload.format : Format ScheduledUpload := ⟨decoder, toJson, check, dates, sent⟩

theorem ScheduledUpload.format_lawful : format.Lawful :=
  .of_carries carries fun w => by
    simp [format, dates, sent, List.flatMap_map, List.map_flatMap, ScheduledUploadFile.dates,
      ScheduledUploadFile.sent, sentMetadata]

def syncFormat : Format Unit := .dateless ScheduledWork.syncDecoder (fun _ => .object []) noCheck

/-- Work whose kind is not known beforehand. -/
def ScheduledWork.format : Format ScheduledWork := ⟨decoder, toJson, check, dates, sent⟩

theorem ScheduledWork.format_lawful : format.Lawful where
  carries := ⟨_, _, carries, fun _ h => ⟨trivial, received_of_sendable h⟩⟩
  dates_sent
    | .fetch w => ScheduledFetch.format_lawful.dates_sent w
    | .upload w => ScheduledUpload.format_lawful.dates_sent w
    | .sync => rfl

def FetchResult.listFormat : Format (List FetchResult) :=
  ⟨listDecoder, listToJson, checkFetchResults, List.flatMap dates, List.map sent⟩

theorem FetchResult.listFormat_lawful : listFormat.Lawful := by
  refine ⟨⟨_, _, list_carries, fun rs h => ⟨List.forall_mem_flatMap.1 h, rfl⟩⟩, fun rs => ?_⟩
  simp [listFormat, dates, sent, List.flatMap_map, List.map_flatMap, Option.toList_map]

def Failure.format : Format Failure := ⟨decoder, toJson, noCheck, dates, sent⟩

theorem Failure.format_lawful : format.Lawful :=
  .of_carries carries fun f => by simp [format, dates, sent, Option.toList_map]

/-! ### Kinds of messages -/

/-- A kind of messages, and which of them are meant for a key. -/
structure Kind where
  Content : Type
  format : Format Content
  meant : RoutingKey → Content → Prop

namespace Kind

/-- Messages that schedule a task of one type. -/
def scheduled {α : Type} (type : TaskType) (f : Format α) : Kind :=
  ⟨Scheduled α, f.scheduled, fun key m => key = type.scheduledKey ∧ m.taskType = type⟩

/-- The same messages, where nobody knows which type it is. -/
def work : Kind :=
  ⟨Scheduled ScheduledWork, ScheduledWork.format.scheduled,
    fun key m => key = m.taskType.scheduledKey ∧ m.taskType = m.payload.type⟩

/-- Reports with nothing but the status. -/
def plainReport : Kind :=
  ⟨StatusReport Json, (Format.dateless .json id noCheck).report,
    fun key m => key = .taskStatus ∧ m.payload = none⟩

/-- Reports about a task of one type with more to say, which have a key of their own. -/
def report {α : Type} (type : TaskType) (f : Format α) (special : RoutingKey) : Kind :=
  ⟨StatusReport α, f.report, fun key m => (key = .taskStatus ∨ key = special) ∧
    m.taskType = type ∧ m.payload ≠ none⟩

/-- Messages that are all meant for the same keys. -/
def plain {α : Type} (keys : List RoutingKey) (f : Format α) : Kind :=
  ⟨α, f, fun key _ => key ∈ keys⟩

/-- Every kind of message. -/
def all : List Kind :=
  [scheduled .dataFetch ScheduledFetch.format, scheduled .dataUpload ScheduledUpload.format,
   scheduled .objectSync syncFormat, work, plainReport,
   report .dataFetch FetchResult.listFormat .taskStatusDataFetchResult,
   report .objectSync (.dateless ManagedObject.listDecoder ManagedObject.listToJson noCheck)
     .taskStatusObjectSync,
   report .objectSync (.dateless objectAmountDecoder objectAmountToJson noCheck)
     .taskStatusObjectSyncResult,
   plain [.taskStatusFailed] Failure.format,
   plain [.taskMode, .taskModeChanged]
     (.dateless ModeChange.decoder ModeChange.toJson ModeChange.check),
   plain [.userUser] (.dateless userDecoder User.toJson checkUser),
   plain [.fileStatusDeletion]
     (.dateless FileDeletion.decoder FileDeletion.toJson FileDeletion.check),
   plain [.fileStatusVisibilityState]
     (.dateless VisibilityRequest.decoder VisibilityRequest.toJson noCheck),
   plain [.fileResultVisibilityState]
     (.dateless VisibilityResult.decoder VisibilityResult.toJson VisibilityResult.check)]

/-- What is written of the message is read as it arrives, with all its dates in milliseconds, and
accepted on the key exactly if the message as it arrives passes its checks. -/
structure Arrives (k : Kind) (key : RoutingKey) (m : k.Content) : Prop where
  read : k.format.decoder.fromValue (k.format.encode m) = .ok (k.format.sent m)
  dates : k.format.dates (k.format.sent m) = (k.format.dates m).map Instant.toMillis
  accepted : Registry.standard.validate key (k.format.encode m) = .ok () ↔
    k.format.check (k.format.sent m) = .ok ()

variable {α : Type} {f : Format α} {key : RoutingKey}

/-- What a document is read as decides what holds of whatever it is read as. -/
theorem exists_read_iff {d : Decoder α} {j : Json} {a : α} (h : d.fromValue j = .ok a)
    {p : α → Prop} : (∃ b, d.fromValue j = .ok b ∧ p b) ↔ p a := by
  constructor
  · rintro ⟨b, hb, hp⟩
    obtain rfl := Except.ok.inj (h.symm.trans hb)
    exact hp
  · exact fun hp => ⟨a, h, hp⟩

theorem arrives_scheduled {type : TaskType} {name : String} (hf : f.Lawful)
    (hschema : standardSchema type.scheduledKey =
      [⟨name, Message.scheduled f.decoder f.check type⟩])
    {m : Scheduled α} (hm : (scheduled type f).meant key m)
    (h : ∀ d ∈ f.scheduled.dates m, d.Sendable) : (scheduled type f).Arrives key m := by
  obtain ⟨rfl, htype⟩ := hm
  have hread := hf.scheduled.read h .value
  refine ⟨hread, hf.scheduled.dates_sent m, ?_⟩
  rw [validate_standard, hschema]
  simp only [List.mem_singleton, exists_eq_left, scheduled_eq_ok]
  exact (exists_read_iff hread).trans (and_iff_left htype)

theorem arrives_work {m : Scheduled ScheduledWork} (hm : work.meant key m)
    (h : ∀ d ∈ ScheduledWork.format.scheduled.dates m, d.Sendable) : work.Arrives key m := by
  obtain ⟨rfl, htype⟩ := hm
  have hlawful := ScheduledWork.format_lawful.scheduled
  refine ⟨hlawful.read h .value, hlawful.dates_sent m, ?_⟩
  exact (Scheduled.validate_work htype).trans (and_iff_right h)

theorem arrives_plain {keys : List RoutingKey} (hf : f.Lawful)
    (hschema : ∀ key ∈ keys, ∃ name, standardSchema key = [⟨name, typed f.decoder f.check⟩])
    {m : α} (hm : (plain keys f).meant key m) (h : ∀ d ∈ f.dates m, d.Sendable) :
    (plain keys f).Arrives key m := by
  obtain ⟨name, hschema⟩ := hschema key hm
  have hread := hf.read h .value
  refine ⟨hread, hf.dates_sent m, ?_⟩
  rw [validate_standard, hschema]
  simp only [List.mem_singleton, exists_eq_left, typed_eq_ok]
  exact exists_read_iff hread

theorem arrives_plainReport {m : StatusReport Json} (hm : plainReport.meant key m)
    (h : ∀ d ∈ plainReport.format.dates m, d.Sendable) : plainReport.Arrives key m := by
  obtain ⟨rfl, hp⟩ := hm
  have hread := Format.read_report (f := .dateless .json id noCheck) (by simp [hp]) h .value
  refine ⟨hread, Format.dates_sent_report (by simp [hp]), ?_⟩
  refine iff_of_true (validate_standard.2 ?_) (StatusReport.check_noCheck _)
  refine ⟨⟨"TaskStatus", Message.plainReport⟩, by simp [standardSchema], ?_⟩
  exact plainReport_eq_ok.2 ⟨_, hread, by simp [Format.report, StatusReport.arriving, hp]⟩

/-- A report is accepted by the alternative for its type and its payload. -/
theorem reportWith_toJson {type : TaskType} (missing : String) (hf : f.Lawful)
    {m : StatusReport α} (htype : m.taskType = type) (hp : m.payload ≠ none)
    (h : ∀ d ∈ f.report.dates m, d.Sendable) :
    reportWith f.decoder f.check type missing (f.report.encode m) = .ok () ↔
      f.report.check (f.report.sent m) = .ok () := by
  have hread := Format.read_report (fun _ _ => hf) h .value
  obtain ⟨a, ha⟩ := Option.ne_none_iff_exists'.1 hp
  have hpayload : (f.report.sent m).payload = some (f.sent a) := by
    simp [Format.report, StatusReport.arriving, ha]
  rw [reportWith_eq_ok]
  exact (exists_read_iff hread).trans (and_iff_left ⟨htype, _, hpayload⟩)

/-- A report with a payload is accepted on its own key by the alternative for its payload, and on
the key of all reports too, if the other alternatives there add nothing. -/
theorem arrives_report {type : TaskType} {special : RoutingKey} {name missing : String}
    (hf : f.Lawful)
    (hspecial : standardSchema special = [⟨name, reportWith f.decoder f.check type missing⟩])
    (hstatus : ⟨name, reportWith f.decoder f.check type missing⟩ ∈ standardSchema .taskStatus)
    {m : StatusReport α} (hm : (report type f special).meant key m)
    (hothers : ∀ a ∈ standardSchema .taskStatus, a.check (f.report.encode m) = .ok () →
      reportWith f.decoder f.check type missing (f.report.encode m) = .ok ())
    (h : ∀ d ∈ f.report.dates m, d.Sendable) : (report type f special).Arrives key m := by
  obtain ⟨hkey, htype, hp⟩ := hm
  refine ⟨Format.read_report (fun _ _ => hf) h .value,
    Format.dates_sent_report fun _ _ => hf, ?_⟩
  refine validate_standard.trans (Iff.trans ⟨?_, fun haccepted => ?_⟩
    (reportWith_toJson missing hf htype hp h))
  · rintro ⟨a, ha, hcheck⟩
    rcases hkey with rfl | rfl
    · exact hothers a ha hcheck
    · rw [hspecial, List.mem_singleton] at ha
      subst ha
      exact hcheck
  · refine ⟨⟨name, reportWith f.decoder f.check type missing⟩, ?_, haccepted⟩
    rcases hkey with rfl | rfl
    · exact hstatus
    · rw [hspecial]
      exact List.mem_singleton_self _

/-- Reports whose payload has nothing to pass. -/
theorem arrives_sync {d : Decoder α} {encode : α → Json} {special : RoutingKey}
    {name missing : String} (hd : Faithful d encode)
    (hspecial : standardSchema special = [⟨name, reportWith d noCheck .objectSync missing⟩])
    (hstatus : ⟨name, reportWith d noCheck .objectSync missing⟩ ∈ standardSchema .taskStatus)
    {m : StatusReport α}
    (hm : (report .objectSync (.dateless d encode noCheck) special).meant key m)
    (h : ∀ t ∈ (Format.dateless d encode noCheck).report.dates m, t.Sendable) :
    (report .objectSync (.dateless d encode noCheck) special).Arrives key m := by
  refine arrives_report (.dateless hd) hspecial hstatus hm (fun _ _ _ => ?_) h
  exact (reportWith_toJson missing (.dateless hd) hm.2.1 hm.2.2 h).2 (StatusReport.check_noCheck _)

/-- However a report is read, it stays a report about a task of its type. -/
theorem taskType_of_decoded {β : Type} {d : Decoder β} {encode : α → Json} {m : StatusReport α}
    {b : StatusReport β} (h : (StatusReport.decoder d).fromValue (m.toJson encode) = .ok b) :
    b.taskType = m.taskType := by
  obtain ⟨-, p, -, rfl⟩ := (StatusReport.decoder_eq_ok d encode m .value b).1 h
  rfl

/-- Nor does it lose a payload. -/
theorem payload_of_decoded {β : Type} {d : Decoder β} {m : StatusReport α} {b : StatusReport β}
    (hf : f.Lawful) (hp : m.payload ≠ none)
    (h : (StatusReport.decoder d).fromValue (m.toJson f.encode) = .ok b) : b.payload ≠ none := by
  obtain ⟨-, p, hmember, rfl⟩ := (StatusReport.decoder_eq_ok d f.encode m .value b).1 h
  obtain ⟨a, ha⟩ := Option.ne_none_iff_exists'.1 hp
  rw [ha, Option.map_some, Decoder.member, Decoder.option_of_ne_null (hf.ne_null a)] at hmember
  rintro rfl
  cases hd : d .value (f.encode a).tree with
  | error e => simp [hd, Except.map] at hmember
  | ok b => simp [hd, Except.map] at hmember

/-- Of the alternatives for all reports one only is for the files of a fetch. -/
theorem fetchResults_of_accepted {m : StatusReport (List FetchResult)}
    (htype : m.taskType = .dataFetch) (hp : m.payload ≠ none) :
    ∀ a ∈ standardSchema .taskStatus, a.check (m.toJson FetchResult.listToJson) = .ok () →
      fetchResults.check (m.toJson FetchResult.listToJson) = .ok () := by
  intro a ha hcheck
  have hother {β : Type} {d : Decoder β} {b : StatusReport β}
      (hb : (StatusReport.decoder d).fromValue (m.toJson FetchResult.listToJson) = .ok b) :
      b.taskType = .dataFetch := (taskType_of_decoded hb).trans htype
  simp only [standardSchema, List.mem_cons, List.not_mem_nil, or_false] at ha
  rcases ha with rfl | rfl | rfl | rfl | rfl
  · exact hcheck
  · obtain ⟨b, hb, hupload, -⟩ := uploadDone_eq_ok.1 hcheck
    cases (hother hb).symm.trans hupload
  · obtain ⟨b, hb, -, hsync, -⟩ := reportWith_eq_ok.1 hcheck
    cases (hother hb).symm.trans hsync
  · obtain ⟨b, hb, -, hsync, -⟩ := reportWith_eq_ok.1 hcheck
    cases (hother hb).symm.trans hsync
  · obtain ⟨b, hb, hnone⟩ := plainReport_eq_ok.1 hcheck
    exact absurd hnone (payload_of_decoded FetchResult.listFormat_lawful hp hb)

theorem arrives_fetchResults {m : StatusReport (List FetchResult)}
    (hm : (report .dataFetch FetchResult.listFormat .taskStatusDataFetchResult).meant key m)
    (h : ∀ d ∈ FetchResult.listFormat.report.dates m, d.Sendable) :
    (report .dataFetch FetchResult.listFormat .taskStatusDataFetchResult).Arrives key m :=
  arrives_report FetchResult.listFormat_lawful rfl List.mem_cons_self hm
    (fetchResults_of_accepted hm.2.1 hm.2.2) h

end Kind

/-- Every message of every kind arrives, if its dates can be sent. -/
theorem messages_arrive {k : Kind} (hk : k ∈ Kind.all) {key : RoutingKey} {m : k.Content}
    (hm : k.meant key m) (h : ∀ d ∈ k.format.dates m, d.Sendable) : k.Arrives key m := by
  simp only [Kind.all, List.mem_cons, List.not_mem_nil, or_false] at hk
  rcases hk with rfl | rfl | rfl | rfl | rfl | rfl | rfl | rfl | rfl | rfl | rfl | rfl | rfl | rfl
  · exact Kind.arrives_scheduled ScheduledFetch.format_lawful rfl hm h
  · exact Kind.arrives_scheduled ScheduledUpload.format_lawful rfl hm h
  · exact Kind.arrives_scheduled (.dateless sync_faithful) rfl hm h
  · exact Kind.arrives_work hm h
  · exact Kind.arrives_plainReport hm h
  · exact Kind.arrives_fetchResults hm h
  · exact Kind.arrives_sync ManagedObject.list_faithful rfl
      (by simp [standardSchema, syncObjects]) hm h
  · exact Kind.arrives_sync objectAmount_faithful rfl (by simp [standardSchema, syncResult]) hm h
  · exact Kind.arrives_plain Failure.format_lawful (List.forall_mem_singleton.2 ⟨_, rfl⟩) hm h
  · exact Kind.arrives_plain (.dateless ModeChange.faithful)
      (List.forall_mem_cons.2 ⟨⟨_, rfl⟩, List.forall_mem_singleton.2 ⟨_, rfl⟩⟩) hm h
  · exact Kind.arrives_plain (.dateless user_faithful) (List.forall_mem_singleton.2 ⟨_, rfl⟩) hm h
  · exact Kind.arrives_plain (.dateless FileDeletion.faithful)
      (List.forall_mem_singleton.2 ⟨_, rfl⟩) hm h
  · exact Kind.arrives_plain (.dateless VisibilityRequest.faithful)
      (List.forall_mem_singleton.2 ⟨_, rfl⟩) hm h
  · exact Kind.arrives_plain (.dateless VisibilityResult.faithful)
      (List.forall_mem_singleton.2 ⟨_, rfl⟩) hm h

/-- A fetch that ends a microsecond before it begins. -/
def backwards : Scheduled ScheduledFetch :=
  ⟨"task", "fetch", "user", .epoch, none, .empty, .dataFetch,
    ⟨[], ⟨0, 1000, by decide⟩, some .epoch⟩⟩

/-- It does not pass its checks, but arrives as one that does, and is accepted. -/
theorem backwards_arrives :
    (Kind.scheduled .dataFetch ScheduledFetch.format).Arrives .taskScheduledDataFetch backwards ∧
      backwards.check ScheduledFetch.check = .error "dateTo must not precede dateFrom" ∧
      Registry.standard.validate .taskScheduledDataFetch (backwards.toJson ScheduledFetch.toJson) =
        .ok () := by
  have harrives :
      (Kind.scheduled .dataFetch ScheduledFetch.format).Arrives .taskScheduledDataFetch backwards :=
    messages_arrive List.mem_cons_self ⟨rfl, rfl⟩ (by decide)
  exact ⟨harrives, by rfl, harrives.accepted.2 (by rfl)⟩

end SensorTasks.Message

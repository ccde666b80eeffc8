import SensorTasks.Proofs.Messages
import SensorTasks.Proofs.WireGrammar

/-!
Dates and messages that are sent on. A date is read in its own offset but sent in universal time, so
the first hours of the year 0 and the last ones of the year 9999 may be read in places from which
they cannot be sent: there the year in universal time is the one before or the one after, which has
not four digits. Every other date that was read is read again, without what it has below the
milliseconds. A message that was accepted is accepted again exactly if none of its dates is lost.
-/

namespace SensorTasks

open Calendar

/-! ### Dates -/

namespace Stamp

/-- The second of the day, a leap second taken together with the one before it. -/
def secondOfDay (s : Stamp) : Int :=
  s.hour * 3600 + s.minute * 60 + min s.second 59

/-- In universal time the stamp lies in the year before 0 or in the year after 9999. -/
def LeavesYears (s : Stamp) : Prop :=
  (s.date.year = 0 ∧ s.date.month = 1 ∧ s.date.day = 1 ∧ s.secondOfDay < s.offset) ∨
    (s.date.year = 9999 ∧ s.date.month = 12 ∧ s.date.day = 31 ∧ 86400 ≤ s.secondOfDay - s.offset)

instance (s : Stamp) : Decidable s.LeavesYears := inferInstanceAs (Decidable (_ ∨ _))

end Stamp

namespace Instant

/-- The years of four digits, in seconds. -/
theorem sendable_iff (t : Instant) :
    t.Sendable ↔ -62167219200 ≤ t.second ∧ t.second ≤ 253402300799 := by
  have hstart : daysBeforeYear 0 = -366 := by decide
  have hend : daysBeforeYear 10000 = 3652059 := by decide
  have hlow := t.le_year_iff 0
  have hhigh := t.le_year_iff 10000
  simp only [hstart, hend, epochDay] at hlow hhigh
  unfold Sendable
  omega

/-- The time of a stamp that was spelled lies in a year of four digits unless its offset leads out
of them. -/
theorem sendable_iff_of_spelled {s : Stamp} {cs : List Char} {t : Instant} (hs : Spells s cs)
    (ht : Denotes s t) : t.Sendable ↔ ¬s.LeavesYears := by
  obtain ⟨⟨⟨hyear, hyear'⟩, hoffset⟩, -⟩ := spells_iff.1 hs
  obtain ⟨⟨hhour, hminute, hsecond, -⟩, -⟩ := s.valid
  obtain ⟨hfirst, heqFirst⟩ := Date.first_le_toDay hyear
  obtain ⟨hlast, heqLast⟩ := Date.toDay_le_last hyear'
  have hsecond : t.second = s.date.toDay * 86400 + s.secondOfDay - s.offset := by
    rw [ht.second Date.toDay Date.toDay_counts, Stamp.secondOfDay]
    omega
  have hclock : 0 ≤ s.secondOfDay ∧ s.secondOfDay < 86400 := by
    unfold Stamp.secondOfDay
    omega
  have hleaves : s.LeavesYears ↔ (s.date.toDay = -719528 ∧ s.secondOfDay < s.offset) ∨
      (s.date.toDay = 2932896 ∧ 86400 ≤ s.secondOfDay - s.offset) := by
    rw [heqFirst, heqLast]
    simp only [Stamp.LeavesYears, and_assoc]
  clear heqFirst heqLast
  -- an offset is less than a day, so only the first day and the last one are near enough
  rw [sendable_iff, hsecond, hleaves]
  omega

end Instant

namespace Message

open Json

/-! ### Formats -/

namespace Format

variable {α : Type} {f : Format α}

/-- Values are read again exactly if their dates can be sent, and pass their checks again. -/
structure Exact (f : Format α) : Prop where
  carries : Carries f.decoder f.encode (fun a => ∀ d ∈ f.dates a, d.Sendable) f.sent
  check_sent : ∀ a, f.check a = .ok () → f.check (f.sent a) = .ok ()

theorem Exact.dateless {decoder : Decoder α} {encode : α → Json} {check : α → Check}
    (h : Faithful decoder encode) : (dateless decoder encode check).Exact where
  carries := ⟨fun origin a b => by simp [Format.dateless, h.reads], h.ne_null⟩
  check_sent _ ha := ha

theorem Exact.scheduled (hf : f.Exact) : f.scheduled.Exact where
  carries := by
    have h := Scheduled.carries hf.carries
    refine ⟨fun origin m b => ?_, h.ne_null⟩
    rw [Format.scheduled, h.reads, List.forall_mem_cons]
  check_sent m hm := by
    obtain ⟨hname, hpattern, hpayload⟩ := Scheduled.check_eq_ok.1 hm
    exact Scheduled.check_eq_ok.2 ⟨hname, hpattern, hf.check_sent _ hpayload⟩

theorem Exact.report (hf : f.Exact) : f.report.Exact where
  carries := by
    refine ⟨fun origin m b => ?_, fun m => by
      simp [Format.report, StatusReport.toJson, ofMembers, tree]⟩
    simp only [Format.report, StatusReport.decoder_eq_ok, hf.carries.member,
      List.forall_mem_append, List.forall_mem_flatMap, Option.mem_toList, Option.mem_def, and_assoc,
      exists_and_left, exists_eq_left']
  check_sent m hm := by
    simp only [Format.report, StatusReport.check, StatusReport.arriving] at hm ⊢
    cases hp : m.payload with
    | none => rfl
    | some a =>
      rw [hp] at hm
      exact hf.check_sent a hm

/-- What was accepted is accepted again exactly if its dates can be sent. -/
theorem Exact.again_iff (hf : f.Exact) {a : α} (ha : f.check a = .ok ()) {p : α → Prop} :
    (∃ b, f.decoder.fromValue (f.encode a) = .ok b ∧ f.check b = .ok () ∧ p b) ↔
      (∀ d ∈ f.dates a, d.Sendable) ∧ p (f.sent a) := by
  constructor
  · rintro ⟨b, hb, -, hp⟩
    obtain ⟨hdates, rfl⟩ := (hf.carries.reads .value a b).1 hb
    exact ⟨hdates, hp⟩
  · rintro ⟨hdates, hp⟩
    exact ⟨_, (hf.carries.reads .value a _).2 ⟨hdates, rfl⟩, hf.check_sent a ha, hp⟩

end Format

theorem ScheduledFetch.format_exact : format.Exact := ⟨carries, fun _ => check_sent⟩

theorem ScheduledUpload.format_exact : format.Exact := ⟨carries, fun _ => check_sent⟩

theorem FetchResult.listFormat_exact : listFormat.Exact where
  carries := by
    refine ⟨fun origin rs b => ?_, list_carries.ne_null⟩
    rw [listFormat, list_carries.reads, List.forall_mem_flatMap]
  check_sent rs hrs :=
    checkEach_eq_ok.2 (List.forall_mem_map.2 (checkEach_eq_ok.1 hrs))

theorem Failure.format_exact : format.Exact := ⟨carries, fun _ h => h⟩

/-! ### Accepted messages -/

namespace Kind

/-- Reports that an upload is done, with whatever else they say. -/
def uploadDone : Kind :=
  ⟨StatusReport Json, (Format.dateless .json id noCheck).report,
    fun key m => key = .taskStatus ∧ m.taskType = .dataUpload ∧ m.status = .done⟩

/-- The document is read as a message that passes its checks and is meant for the key. -/
structure Accepts (k : Kind) (key : RoutingKey) (j : Json) (m : k.Content) : Prop where
  read : k.format.decoder.fromValue j = .ok m
  check : k.format.check m = .ok ()
  meant : k.meant key m

variable {α : Type} {f : Format α} {key : RoutingKey} {j : Json}

theorem accepts_scheduled {type : TaskType}
    (h : Message.scheduled f.decoder f.check type j = .ok ()) :
    ∃ m, (scheduled type f).Accepts type.scheduledKey j m := by
  obtain ⟨m, hread, hcheck, htype⟩ := scheduled_eq_ok.1 h
  exact ⟨m, hread, hcheck, rfl, htype⟩

theorem accepts_plain {keys : List RoutingKey} (hkey : key ∈ keys)
    (h : typed f.decoder f.check j = .ok ()) : ∃ m, (plain keys f).Accepts key j m := by
  obtain ⟨m, hread, hcheck⟩ := typed_eq_ok.1 h
  exact ⟨m, hread, hcheck, hkey⟩

theorem accepts_report {type : TaskType} {special : RoutingKey} {missing : String}
    (hkey : key = .taskStatus ∨ key = special)
    (h : reportWith f.decoder f.check type missing j = .ok ()) :
    ∃ m, (report type f special).Accepts key j m := by
  obtain ⟨m, hread, hcheck, htype, a, ha⟩ := reportWith_eq_ok.1 h
  exact ⟨m, hread, hcheck, hkey, htype, by simp [ha]⟩

/-- Whatever is accepted is accepted as a message of some kind. -/
theorem exists_accepts (h : Registry.standard.validate key j = .ok ()) :
    ∃ k ∈ uploadDone :: all, ∃ m, k.Accepts key j m := by
  obtain ⟨a, ha, hcheck⟩ := validate_standard.1 h
  cases key <;> simp only [standardSchema, List.mem_cons, List.not_mem_nil, or_false] at ha
  case taskScheduledDataFetch =>
    subst ha
    exact ⟨_, List.mem_of_getElem? (i := 1) rfl, accepts_scheduled hcheck⟩
  case taskScheduledDataUpload =>
    subst ha
    exact ⟨_, List.mem_of_getElem? (i := 2) rfl, accepts_scheduled hcheck⟩
  case taskScheduledObjectSync =>
    subst ha
    exact ⟨_, List.mem_of_getElem? (i := 3) rfl, accepts_scheduled hcheck⟩
  case taskStatus =>
    rcases ha with rfl | rfl | rfl | rfl | rfl
    · exact ⟨_, List.mem_of_getElem? (i := 6) rfl, accepts_report (Or.inl rfl) hcheck⟩
    · obtain ⟨m, hread, htype, hstatus⟩ := uploadDone_eq_ok.1 hcheck
      exact ⟨_, List.mem_cons_self, m, hread, m.check_noCheck, rfl, htype, hstatus⟩
    · exact ⟨_, List.mem_of_getElem? (i := 7) rfl, accepts_report (Or.inl rfl) hcheck⟩
    · exact ⟨_, List.mem_of_getElem? (i := 8) rfl, accepts_report (Or.inl rfl) hcheck⟩
    · obtain ⟨m, hread, hpayload⟩ := plainReport_eq_ok.1 hcheck
      exact ⟨_, List.mem_of_getElem? (i := 5) rfl, m, hread, m.check_noCheck, rfl, hpayload⟩
  case taskStatusFailed =>
    subst ha
    exact ⟨_, List.mem_of_getElem? (i := 9) rfl, accepts_plain (by decide) hcheck⟩
  case taskStatusDataFetchResult =>
    subst ha
    exact ⟨_, List.mem_of_getElem? (i := 6) rfl, accepts_report (Or.inr rfl) hcheck⟩
  case taskStatusObjectSync =>
    subst ha
    exact ⟨_, List.mem_of_getElem? (i := 7) rfl, accepts_report (Or.inr rfl) hcheck⟩
  case taskStatusObjectSyncResult =>
    subst ha
    exact ⟨_, List.mem_of_getElem? (i := 8) rfl, accepts_report (Or.inr rfl) hcheck⟩
  case taskMode =>
    subst ha
    exact ⟨_, List.mem_of_getElem? (i := 10) rfl, accepts_plain (by decide) hcheck⟩
  case taskModeChanged =>
    subst ha
    exact ⟨_, List.mem_of_getElem? (i := 10) rfl, accepts_plain (by decide) hcheck⟩
  case userUser =>
    subst ha
    exact ⟨_, List.mem_of_getElem? (i := 11) rfl, accepts_plain (by decide) hcheck⟩
  case fileStatusDeletion =>
    subst ha
    exact ⟨_, List.mem_of_getElem? (i := 12) rfl, accepts_plain (by decide) hcheck⟩
  case fileStatusVisibilityState =>
    subst ha
    exact ⟨_, List.mem_of_getElem? (i := 13) rfl, accepts_plain (by decide) hcheck⟩
  case fileResultVisibilityState =>
    subst ha
    exact ⟨_, List.mem_of_getElem? (i := 14) rfl, accepts_plain (by decide) hcheck⟩

/-! ### Accepted again -/

/-- The message is accepted again, written as it is, exactly if its dates can be sent. -/
def AcceptedAgain (k : Kind) (key : RoutingKey) (m : k.Content) : Prop :=
  Registry.standard.validate key (k.format.encode m) = .ok () ↔
    ∀ d ∈ k.format.dates m, d.Sendable

theorem again_scheduled {type : TaskType} {name : String} (hf : f.Exact)
    (hschema : standardSchema type.scheduledKey =
      [⟨name, Message.scheduled f.decoder f.check type⟩])
    {m : Scheduled α} (hm : (scheduled type f).Accepts key j m) :
    (scheduled type f).AcceptedAgain key m := by
  obtain ⟨-, hcheck, rfl, htype⟩ := hm
  unfold AcceptedAgain
  rw [validate_standard, hschema]
  simp only [List.mem_singleton, exists_eq_left, scheduled_eq_ok]
  exact (hf.scheduled.again_iff hcheck).trans (and_iff_left htype)

theorem again_work {m : Scheduled ScheduledWork} (hm : work.Accepts key j m) :
    work.AcceptedAgain key m := by
  obtain ⟨-, hcheck, rfl, htype⟩ := hm
  exact (Scheduled.validate_work htype).trans (and_iff_left (Scheduled.check_sent hcheck))

theorem again_plain {keys : List RoutingKey} (hf : f.Exact)
    (hschema : ∀ key ∈ keys, ∃ name, standardSchema key = [⟨name, typed f.decoder f.check⟩])
    {m : α} (hm : (plain keys f).Accepts key j m) : (plain keys f).AcceptedAgain key m := by
  obtain ⟨-, hcheck, hkey⟩ := hm
  obtain ⟨name, hschema⟩ := hschema key hkey
  unfold AcceptedAgain
  rw [validate_standard, hschema]
  simp only [List.mem_singleton, exists_eq_left, typed_eq_ok]
  have hagain := hf.again_iff (p := fun _ => True) hcheck
  simp only [and_true] at hagain
  exact hagain

/-- Whatever a report is read as, its own dates have been read. -/
theorem own_dates_of_accepted {m : StatusReport α} {encode : α → Json}
    (h : Registry.standard.validate .taskStatus (m.toJson encode) = .ok ()) :
    ∀ d ∈ m.dates, d.Sendable := by
  have hown {β : Type} {d : Decoder β} {b : StatusReport β}
      (hb : (StatusReport.decoder d).fromValue (m.toJson encode) = .ok b) :
      ∀ t ∈ m.dates, t.Sendable := ((StatusReport.decoder_eq_ok d encode m .value b).1 hb).1
  obtain ⟨a, ha, hcheck⟩ := validate_standard.1 h
  simp only [standardSchema, List.mem_cons, List.not_mem_nil, or_false] at ha
  rcases ha with rfl | rfl | rfl | rfl | rfl
  · obtain ⟨b, hb, -⟩ := reportWith_eq_ok.1 hcheck
    exact hown hb
  · obtain ⟨b, hb, -⟩ := uploadDone_eq_ok.1 hcheck
    exact hown hb
  · obtain ⟨b, hb, -⟩ := reportWith_eq_ok.1 hcheck
    exact hown hb
  · obtain ⟨b, hb, -⟩ := reportWith_eq_ok.1 hcheck
    exact hown hb
  · obtain ⟨b, hb, -⟩ := plainReport_eq_ok.1 hcheck
    exact hown hb

theorem reportWith_again {type : TaskType} {missing : String} (hf : f.Exact) {m : StatusReport α}
    (hcheck : f.report.check m = .ok ()) (htype : m.taskType = type) (hp : m.payload ≠ none) :
    reportWith f.decoder f.check type missing (f.report.encode m) = .ok () ↔
      ∀ d ∈ f.report.dates m, d.Sendable := by
  obtain ⟨a, ha⟩ := Option.ne_none_iff_exists'.1 hp
  have hsent : (f.report.sent m).taskType = type ∧ ∃ b, (f.report.sent m).payload = some b :=
    ⟨htype, f.sent a, by simp [Format.report, StatusReport.arriving, ha]⟩
  rw [reportWith_eq_ok]
  exact (hf.report.again_iff hcheck).trans (and_iff_left hsent)

/-- On its own key a report is accepted by the one alternative there is; on the key of all reports
by that one too, and by no other one if its dates cannot be sent. -/
theorem again_report {type : TaskType} {special : RoutingKey} {name missing : String}
    (hf : f.Exact)
    (hspecial : standardSchema special = [⟨name, reportWith f.decoder f.check type missing⟩])
    (hstatus : ⟨name, reportWith f.decoder f.check type missing⟩ ∈ standardSchema .taskStatus)
    {m : StatusReport α} (hm : (report type f special).Accepts key j m)
    (hothers : Registry.standard.validate .taskStatus (f.report.encode m) = .ok () →
      ∀ d ∈ f.report.dates m, d.Sendable) : (report type f special).AcceptedAgain key m := by
  obtain ⟨-, hcheck, hkey, htype, hp⟩ := hm
  have hown : reportWith f.decoder f.check type missing (f.report.encode m) = .ok () ↔
      ∀ d ∈ f.report.dates m, d.Sendable := reportWith_again hf hcheck htype hp
  rcases hkey with rfl | rfl
  · exact ⟨hothers, fun h => validate_standard.2 ⟨_, hstatus, hown.2 h⟩⟩
  · unfold AcceptedAgain
    rw [validate_standard, hspecial]
    simp only [List.mem_singleton, exists_eq_left]
    exact hown

/-- The dates of a report whose payload has none are its own. -/
theorem dates_of_dateless {d : Decoder α} {encode : α → Json} {check : α → Check}
    (m : StatusReport α) : (Format.dateless d encode check).report.dates m = m.dates := by
  simp [Format.report, Format.dateless]

theorem again_sync {d : Decoder α} {encode : α → Json} {special : RoutingKey}
    {name missing : String} (hd : Faithful d encode)
    (hspecial : standardSchema special = [⟨name, reportWith d noCheck .objectSync missing⟩])
    (hstatus : ⟨name, reportWith d noCheck .objectSync missing⟩ ∈ standardSchema .taskStatus)
    {m : StatusReport α}
    (hm : (report .objectSync (.dateless d encode noCheck) special).Accepts key j m) :
    (report .objectSync (.dateless d encode noCheck) special).AcceptedAgain key m := by
  refine again_report (.dateless hd) hspecial hstatus hm fun h => ?_
  rw [dates_of_dateless]
  exact own_dates_of_accepted h

theorem again_fetchResults {m : StatusReport (List FetchResult)}
    (hm : (report .dataFetch FetchResult.listFormat .taskStatusDataFetchResult).Accepts key j m) :
    (report .dataFetch FetchResult.listFormat .taskStatusDataFetchResult).AcceptedAgain key m := by
  refine again_report FetchResult.listFormat_exact rfl List.mem_cons_self hm fun h => ?_
  obtain ⟨-, hcheck, -, htype, hp⟩ := hm
  obtain ⟨a, ha, haccepted⟩ := validate_standard.1 h
  have hown := fetchResults_of_accepted htype hp a ha haccepted
  exact (reportWith_again FetchResult.listFormat_exact hcheck htype hp).1 hown

/-- A report whose payload nobody looks into is read again if its own dates can be sent. -/
theorem exists_read_again {m : StatusReport Json} (h : ∀ d ∈ m.dates, d.Sendable) :
    ∃ p, (StatusReport.decoder .json).fromValue (m.toJson id) = .ok (m.arriving p) ∧
      (m.payload = none → p = none) := by
  cases hp : m.payload with
  | none =>
    exact ⟨none, (StatusReport.decoder_eq_ok .json id m .value _).2 ⟨h, none, by rw [hp]; rfl, rfl⟩,
      fun _ => rfl⟩
  | some p =>
    have hmember : ∃ q, Decoder.json.member .value (some p) = .ok q := by
      by_cases hnull : p.tree = .null
      · exact ⟨none, by simp [Decoder.member, Decoder.option, hnull]⟩
      · exact ⟨some p.canonical, by
          simp [Decoder.member, Decoder.option_of_ne_null hnull, Decoder.json, Except.map]⟩
    obtain ⟨q, hq⟩ := hmember
    exact ⟨q, (StatusReport.decoder_eq_ok .json id m .value _).2 ⟨h, q, by rw [hp]; exact hq, rfl⟩,
      fun hnone => absurd hnone (Option.some_ne_none p)⟩

theorem again_uploadDone {m : StatusReport Json} (hm : uploadDone.Accepts key j m) :
    uploadDone.AcceptedAgain key m := by
  obtain ⟨-, -, rfl, htype, hstatus⟩ := hm
  refine ⟨fun h => ?_, fun h => ?_⟩
  · exact (dates_of_dateless m).symm ▸ own_dates_of_accepted h
  · obtain ⟨p, hread, -⟩ := exists_read_again (dates_of_dateless m ▸ h)
    exact validate_standard.2 ⟨⟨"DataUploadResult", Message.uploadDone⟩, by simp [standardSchema],
      uploadDone_eq_ok.2 ⟨_, hread, htype, hstatus⟩⟩

theorem again_plainReport {m : StatusReport Json} (hm : plainReport.Accepts key j m) :
    plainReport.AcceptedAgain key m := by
  obtain ⟨-, -, rfl, hp⟩ := hm
  refine ⟨fun h => ?_, fun h => ?_⟩
  · exact (dates_of_dateless m).symm ▸ own_dates_of_accepted h
  · obtain ⟨p, hread, hnone⟩ := exists_read_again (dates_of_dateless m ▸ h)
    exact validate_standard.2 ⟨⟨"TaskStatus", Message.plainReport⟩, by simp [standardSchema],
      plainReport_eq_ok.2 ⟨_, hread, hnone hp⟩⟩

theorem accepted_again {k : Kind} (hk : k ∈ uploadDone :: all) {m : k.Content}
    (hm : k.Accepts key j m) : k.AcceptedAgain key m := by
  simp only [all, List.mem_cons, List.not_mem_nil, or_false] at hk
  rcases hk with rfl | rfl | rfl | rfl | rfl | rfl | rfl | rfl | rfl | rfl | rfl | rfl | rfl | rfl |
    rfl
  · exact again_uploadDone hm
  · exact again_scheduled ScheduledFetch.format_exact rfl hm
  · exact again_scheduled ScheduledUpload.format_exact rfl hm
  · exact again_scheduled (.dateless sync_faithful) rfl hm
  · exact again_work hm
  · exact again_plainReport hm
  · exact again_fetchResults hm
  · exact again_sync ManagedObject.list_faithful rfl (by simp [standardSchema, syncObjects]) hm
  · exact again_sync objectAmount_faithful rfl (by simp [standardSchema, syncResult]) hm
  · exact again_plain Failure.format_exact (List.forall_mem_singleton.2 ⟨_, rfl⟩) hm
  · exact again_plain (.dateless ModeChange.faithful)
      (List.forall_mem_cons.2 ⟨⟨_, rfl⟩, List.forall_mem_singleton.2 ⟨_, rfl⟩⟩) hm
  · exact again_plain (.dateless user_faithful) (List.forall_mem_singleton.2 ⟨_, rfl⟩) hm
  · exact again_plain (.dateless FileDeletion.faithful) (List.forall_mem_singleton.2 ⟨_, rfl⟩) hm
  · exact again_plain (.dateless VisibilityRequest.faithful)
      (List.forall_mem_singleton.2 ⟨_, rfl⟩) hm
  · exact again_plain (.dateless VisibilityResult.faithful)
      (List.forall_mem_singleton.2 ⟨_, rfl⟩) hm

end Kind

/-- The news of a failure at a time. -/
def failureAt (time : String) : Json :=
  .ofMembers [("taskId", .string "task"), ("reason", .string "lost"), ("failedAt", .string time)]

/-- A date that was read is read again as it was sent, unless its offset leads out of the years of
four digits, and a message that was accepted is accepted again unless it holds such a date. -/
theorem resent_iff {v : String} {t : Instant} (h : Instant.ofWire? v = some t) :
    (∃ s, Spells s v.toList ∧ (t.Sendable ↔ ¬s.LeavesYears) ∧
      Instant.ofWire? t.toWire = if t.Sendable then some t.toMillis else none) ∧
    ∀ key j, Registry.standard.validate key j = .ok () →
      (∃ k ∈ Kind.uploadDone :: Kind.all, ∃ m, k.Accepts key j m) ∧
      ∀ k ∈ Kind.uploadDone :: Kind.all, ∀ m, k.Accepts key j m → k.AcceptedAgain key m := by
  obtain ⟨s, hs, hdenotes⟩ := Instant.exists_spelled h
  refine ⟨⟨s, hs, Instant.sendable_iff_of_spelled hs hdenotes, t.ofWire?_toWire⟩, ?_⟩
  exact fun key j hj => ⟨Kind.exists_accepts hj, fun k hk m hm => Kind.accepted_again hk hm⟩

/-- The second minute of the year 0, in a place that is one minute ahead, is sent as the first one,
and the message that holds it is accepted again. -/
theorem second_minute_resent :
    ∃ t, Instant.ofWire? "0000-01-01T00:01:00+00:01" = some t ∧
      t.toWire = "0000-01-01T00:00:00.000Z" ∧ Instant.ofWire? t.toWire = some t.toMillis ∧
      Registry.standard.validate .taskStatusFailed (failureAt "0000-01-01T00:01:00+00:01") =
        .ok () ∧
      Registry.standard.validate .taskStatusFailed (Failure.toJson ⟨"task", none, "lost", some t⟩) =
        .ok () := by
  let t : Instant := ⟨-62167219200, 0, by decide⟩
  have hread : Instant.ofWire? "0000-01-01T00:01:00+00:01" = some t := by decide
  obtain ⟨⟨s, -, -, hdate⟩, hmessages⟩ := resent_iff hread
  have haccepted : Registry.standard.validate .taskStatusFailed
      (failureAt "0000-01-01T00:01:00+00:01") = .ok () := by decide
  have hagain := (hmessages .taskStatusFailed _ haccepted).2
    (.plain [.taskStatusFailed] Failure.format) (List.mem_of_getElem? (i := 9) rfl)
    ⟨"task", none, "lost", some t⟩ ⟨by rfl, by rfl, List.mem_singleton_self _⟩
  exact ⟨t, hread, by decide, hdate.trans (if_pos (by decide)), haccepted, hagain.2 (by decide)⟩

/-- The first minute is read too, but it cannot be sent, and neither can a message that holds it. -/
theorem first_minute_lost : ∃ t f, Instant.ofWire? "0000-01-01T00:00:00+00:01" = some t ∧
    t.toWire = "-0001-12-31T23:59:00.000Z" ∧ Instant.ofWire? t.toWire = none ∧
    Registry.standard.validate .taskStatusFailed (failureAt "0000-01-01T00:00:00+00:01") = .ok () ∧
    Failure.decoder.fromValue (failureAt "0000-01-01T00:00:00+00:01") = .ok f ∧
    f.failedAt = some t ∧ Registry.standard.validate .taskStatusFailed f.toJson ≠ .ok () := by
  let t : Instant := ⟨-62167219260, 0, by decide⟩
  exact ⟨t, ⟨"task", none, "lost", some t⟩, by decide, by decide, by decide, by decide, by rfl, rfl,
    by decide⟩

end Message

end SensorTasks

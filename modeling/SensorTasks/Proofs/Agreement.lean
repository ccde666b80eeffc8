import SensorTasks.Lifecycle.Scheduling
import SensorTasks.Proofs.Building
import SensorTasks.Proofs.Sending

/-!
What is built can be scheduled. A request is checked when its task is built, long before its message
is; but whatever the message is checked for, the request was checked for already, or the builder or
the mapper made sure of it. So the message of a task that was built is refused for one reason only:
one of its dates lies in a year that messages cannot carry.
-/

namespace SensorTasks

/-! ### What a message needs -/

/-- Work whose message passes its checks. -/
inductive Work.Schedulable : Work → Prop where
  | fetch {data : List FetchEntry} {dateFrom : Instant} {dateTo : Option Instant}
      {group : Option GroupId} (ordered : ∀ stop ∈ dateTo, stop.before dateFrom = false)
      (entries : ∀ e ∈ data, e.dataId ≠ "" ∧ ∃ name, e.fileName = some name ∧ name ≠ "") :
      Schedulable (.fetch ⟨data, some dateFrom, dateTo, group⟩)
  | upload {w : UploadWork} (platform : w.platform.identifier ≠ "") : Schedulable (.upload w)
  | sync : Schedulable .sync

structure Task.Schedulable (t : Task) : Prop where
  name : Text.isBlankText t.name = false
  pattern : ∀ r ∈ t.metadata.recurrence, Text.isBlankText r.pattern = false
  work : t.work.Schedulable

namespace Scheduling

open Message

theorem check_scheduledEntry {sensors : List Sensor} {e : FetchEntry} {s : ScheduledEntry}
    (he : e.dataId ≠ "" ∧ ∃ name, e.fileName = some name ∧ name ≠ "")
    (hs : scheduledEntry sensors e = some s) : s.check = .ok () := by
  obtain ⟨hid, name, hfile, hname⟩ := he
  unfold scheduledEntry at hs
  split at hs
  · cases hs
  · cases hs
    refine ScheduledEntry.check_eq_ok.2 ⟨hid, ?_⟩
    rw [hfile]
    exact hname

/-- Files without a description are left out. -/
theorem check_scheduledFile {f : UploadFile} {s : ScheduledUploadFile}
    (hs : scheduledFile f = some s) : s.check = .ok () := by
  unfold scheduledFile at hs
  split at hs
  · cases hs
  · rename_i hblank
    cases hs
    exact ScheduledUploadFile.check_eq_ok.2 (Bool.eq_false_iff.2 hblank)

/-- A task that has all that is needed has a message, which passes its checks. -/
theorem message_run {t : Task} (ht : t.Schedulable) (w : World) :
    ∃ m, (message t).run.run w = (.ok m, w) ∧ m.taskType = t.type ∧ m.taskType = m.payload.type ∧
      m.check ScheduledWork.check = .ok () := by
  obtain ⟨hname, hpattern, hwork⟩ := ht
  obtain ⟨id, name, status, mode, user, metadata, work, attributes, created, updated⟩ := t
  dsimp only at hname hpattern hwork
  -- what the mapper leaves out is not checked, so only the rest has to pass
  cases hwork with
  | fetch ordered entries =>
    refine ⟨_, rfl, rfl, rfl, Scheduled.check_eq_ok.2 ⟨hname, hpattern, ?_⟩⟩
    refine ScheduledFetch.check_eq_ok.2 ⟨ordered, fun s hs => ?_⟩
    obtain ⟨e, he, hs⟩ := List.mem_filterMap.1 hs
    exact check_scheduledEntry (entries e he) hs
  | upload platform =>
    refine ⟨_, rfl, rfl, rfl, Scheduled.check_eq_ok.2 ⟨hname, hpattern, ?_⟩⟩
    refine ScheduledUpload.check_eq_ok.2 ⟨platform, fun s hs => ?_⟩
    obtain ⟨f, -, hs⟩ := List.mem_filterMap.1 hs
    exact check_scheduledFile hs
  | sync => exact ⟨_, rfl, rfl, rfl, Scheduled.check_eq_ok.2 ⟨hname, hpattern, rfl⟩⟩

end Scheduling

/-! ### What the builder makes sure of -/

namespace Creation

/-- A pattern that is a schedule is not blank. -/
theorem not_blank_of_schedule {r : Recurrence} {p : SchedulePattern} (h : r.schedule = .ok p) :
    Text.isBlankText r.pattern = false := by
  unfold Recurrence.schedule at h
  split at h
  · cases h
  · split at h
    · rename_i hparse
      unfold SchedulePattern.parse at hparse
      dsimp only at hparse
      split at hparse
      · cases hparse
      · rename_i hempty
        rw [← Text.trim_isEmpty]
        exact Bool.eq_false_iff.2 hempty
    · cases h

theorem fetchFault?_eq_none {r : FetchRequest} (h : fetchFault? r = none) :
    (∀ stop ∈ r.dateTo, stop.before r.dateFrom = false) ∧
      ∀ e ∈ r.entities, Text.isBlankText e.fileName = false := by
  unfold fetchFault? at h
  split at h
  · cases h
  · rename_i horder
    split at h
    · cases h
    · rename_i hfind
      refine ⟨fun stop hstop => ?_, fun e he => ?_⟩
      · rw [Option.mem_def.1 hstop] at horder
        exact Bool.eq_false_iff.2 horder
      · exact Bool.eq_false_iff.2 (List.find?_eq_none.1 hfind e he)

theorem entries_complete {first : Nat} {wanted : List (SensorId × String)}
    (h : ∀ p ∈ wanted, Text.isBlankText p.2 = false) {e : FetchEntry}
    (he : e ∈ entries first wanted) :
    e.dataId ≠ "" ∧ ∃ name, e.fileName = some name ∧ name ≠ "" := by
  induction wanted generalizing first with
  | nil => cases he
  | cons p wanted ih =>
    rw [List.forall_mem_cons] at h
    rcases List.mem_cons.1 he with rfl | he
    · exact ⟨FreshId.text_ne_empty first, p.2, rfl, Text.ne_empty_of_isBlankText h.1⟩
    · exact ih h.2 he

/-- Entries for names that are not blank, in order of time, are work that can be scheduled. -/
theorem reads_newEntries_bind {wanted : List (SensorId × String)} {dateFrom : Instant}
    {dateTo : Option Instant} {group : Option GroupId}
    (ordered : ∀ stop ∈ dateTo, stop.before dateFrom = false)
    (names : ∀ p ∈ wanted, Text.isBlankText p.2 = false) :
    (newEntries wanted >>= fun data =>
      (pure (.fetch ⟨data, some dateFrom, dateTo, group⟩) : Action TaskError Work)).Reads
        Work.Schedulable :=
  Action.reads_perform_bind rfl fun _ =>
    Action.reads_pure (.fetch ordered fun _ he => entries_complete names he)

theorem reads_fetchWork (r : FetchRequest) : (fetchWork r).Reads Work.Schedulable := by
  unfold fetchWork
  split
  · exact Action.reads_throw _
  · rename_i hfault
    obtain ⟨ordered, names⟩ := fetchFault?_eq_none hfault
    split
    · rename_i e _ _ hentities
      have hname : Text.isBlankText e.fileName = false := names e (by simp [hentities])
      refine Action.reads_perform_bind rfl fun found => ?_
      refine (Action.reads_orFail (Q := fun _ => True) fun _ _ => trivial).bind fun g _ => ?_
      refine reads_newEntries_bind ordered fun p hp => ?_
      obtain ⟨s, -, rfl⟩ := List.mem_map.1 hp
      exact hname
    · refine Action.reads_perform_bind rfl fun found => ?_
      split
      · exact Action.reads_throw _
      · refine reads_newEntries_bind ordered fun p hp => ?_
        obtain ⟨e, he, rfl⟩ := List.mem_map.1 hp
        exact names e he

theorem reads_work (r : RequestedWork) : (work r).Reads Work.Schedulable := by
  cases r with
  | fetch r => exact reads_fetchWork r
  | upload r =>
    refine (reads_uploadWork r).mono fun w hw => ?_
    obtain ⟨hplatform, files, rfl⟩ := hw
    exact .upload (Text.ne_empty_of_isBlankText hplatform)
  | sync => exact Action.reads_pure .sync

/-- Every task that is built has all that its message needs. -/
theorem reads_build (user : UserId) (r : TaskRequest) : (build user r).Reads Task.Schedulable := by
  refine (reads_checkRecurrence r).bind fun _ hschedule => ?_
  refine (reads_firstRun r).bind fun firstRunAt _ => ?_
  refine (reads_resolveName r firstRunAt).bind fun name hname => ?_
  refine (reads_work r.work).bind fun w hw => ?_
  refine Action.reads_perform_bind rfl fun now => ?_
  refine Action.reads_perform_bind rfl fun n => Action.reads_pure ⟨hname.2, fun rec hrec => ?_, hw⟩
  obtain ⟨p, hp⟩ := hschedule rec hrec
  exact not_blank_of_schedule hp

end Creation

/-! ### Messages of new tasks -/

namespace Scheduling

open Message

/-- The message of a task that was built is refused exactly if it carries a date of a year that has
not four digits. -/
theorem message_refused_iff {user : UserId} {r : TaskRequest} {t : Task} {w : World}
    (hbuild : ((Creation.build user r).run.run w).1 = .ok t) (v : World) :
    ∃ m, (message t).run.run v = (.ok m, v) ∧
      ((∃ e, Registry.standard.validate t.type.scheduledKey (m.toJson ScheduledWork.toJson) =
          .error e) ↔ ∃ d ∈ m.dates, ¬(0 ≤ d.year ∧ d.year ≤ 9999)) := by
  have ht : t.Schedulable := (Creation.reads_build user r).of_run hbuild
  obtain ⟨m, hrun, htype, hwork, hcheck⟩ := message_run ht v
  refine ⟨m, hrun, ?_⟩
  rw [← htype]
  have haccepted : Registry.standard.validate m.taskType.scheduledKey
      (m.toJson ScheduledWork.toJson) = .ok () ↔ ∀ d ∈ m.dates, d.Sendable :=
    (Scheduled.validate_work hwork).trans (and_iff_left (Scheduled.check_sent hcheck))
  cases hres : Registry.standard.validate m.taskType.scheduledKey
      (m.toJson ScheduledWork.toJson) with
  | ok u =>
    have hall := haccepted.1 hres
    refine ⟨fun ⟨e, he⟩ => (by cases he), fun ⟨d, hd, hyear⟩ => absurd (hall d hd) hyear⟩
  | error e =>
    refine ⟨fun _ => ?_, fun _ => ⟨e, rfl⟩⟩
    have hnot : ¬∀ d ∈ m.dates, d.Sendable := fun hall => by
      rw [haccepted.2 hall] at hres
      cases hres
    simpa [Instant.Sendable] using hnot

/-! ### A date too far away -/

namespace Sample

def clock : Instant := ⟨0, 0, by decide⟩

/-- The first second of the year 10000. -/
def late : Instant := ⟨253402300800, 0, by decide⟩

def boiler : Sensor := ⟨"s1", "boiler", none, "o1", "hall", "Temperature", none, .empty⟩

def world : World := ((Command.createSensor boiler).run (.new 8 clock)).2

def request : TaskRequest :=
  ⟨some " late ", none, none, .empty, .fetch ⟨.sensor, [⟨"s1", "a.csv"⟩], clock, some late⟩⟩

def task : Task :=
  .new (FreshId.text 2) clock "late" "ada" (.new clock none)
    (.fetch ⟨[⟨"s1", FreshId.text 1, none, some "a.csv", none, none, none⟩], some clock, some late,
      none⟩) .empty

def scheduled : Scheduled ScheduledWork :=
  ⟨FreshId.text 2, "late", "ada", clock, none, .empty, .dataFetch,
    .fetch ⟨[⟨⟨"s1", "o1", "Temperature"⟩, "a.csv", FreshId.text 1⟩], clock, some late⟩⟩

end Sample

/-- A fetch that goes on into the year 10000 is built, but its message is refused. -/
theorem message_of_late :
    ((Creation.build "ada" Sample.request).run.run Sample.world).1 = .ok Sample.task ∧
      (message Sample.task).run.run Sample.world = (.ok Sample.scheduled, Sample.world) ∧
      ∃ e, Registry.standard.validate .taskScheduledDataFetch
        (Sample.scheduled.toJson ScheduledWork.toJson) = .error e := by
  have hbuild : ((Creation.build "ada" Sample.request).run.run Sample.world).1 =
      .ok Sample.task := rfl
  have hmessage : (message Sample.task).run.run Sample.world =
      (.ok Sample.scheduled, Sample.world) := rfl
  obtain ⟨m, hrun, hrefused⟩ := message_refused_iff hbuild Sample.world
  obtain rfl : Sample.scheduled = m := Except.ok.inj (Prod.mk.inj (hmessage.symm.trans hrun)).1
  have hdate : Sample.late ∈ Sample.scheduled.dates :=
    List.mem_cons_of_mem _ (List.mem_cons_of_mem _ (List.mem_singleton_self _))
  exact ⟨hbuild, hmessage, hrefused.2 ⟨Sample.late, hdate, by decide⟩⟩

end Scheduling

end SensorTasks

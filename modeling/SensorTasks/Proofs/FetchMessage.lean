import SensorTasks.Proofs.Agreement
import SensorTasks.Proofs.FetchReport

/-!
What the message of a new fetch says. The request is expanded to sensors and file names, these to
entries, and the entries are put into the message one by one, with what the ledger has of their
sensors. A sensor may be asked for more than once, under one name or several; since no step changes
the order, an entry of the message still stands where its entity stood. Only a group may have
members that are no sensors any more, and those are all that the message leaves out.
-/

namespace SensorTasks

/-- Lookups leave the ledger as it is. -/
theorem Program.Reads.ledger_run {α : Type} {Q : α → Prop} {p : Program α} (h : p.Reads Q)
    (w : World) : (p.run w).2.ledger = w.ledger := by
  induction p generalizing w with
  | done a => rfl
  | call c next ih =>
    exact (ih _ (h.2 _) _).trans (Command.ledger_of_isLookup h.1 w)

theorem Action.Reads.ledger_of_run {ε α : Type} {Q : α → Prop} {a : Action ε α} (h : a.Reads Q)
    {w v : World} {r : Except ε α} (hrun : a.run.run w = (r, v)) : v.ledger = w.ledger := by
  have hledger := Program.Reads.ledger_run h w
  rw [hrun] at hledger
  exact hledger

/-- Of some ids that were looked up, one leads to the sensor that it leads to alone. -/
theorem Ledger.Indexed.find?_sensorsOf {l : Ledger} (h : l.Indexed) {ids : List SensorId}
    {id : SensorId} (hid : id ∈ ids) :
    ((l.sensorsOf ids).find? fun s => s.id == id) = l.sensor? id := by
  have hfound : ∀ {s}, s ∈ l.sensorsOf ids → s.id = id → l.sensor? id = some s := by
    intro s hs he
    obtain ⟨id', -, hs⟩ := List.mem_filterMap.1 hs
    rwa [← he, h.sensor_id hs]
  cases hfind : (l.sensorsOf ids).find? fun s => s.id == id with
  | some s =>
    exact (hfound (List.mem_of_find?_eq_some hfind)
      (eq_of_beq (List.find?_some (p := fun s : Sensor => s.id == id) hfind))).symm
  | none =>
    cases hs : l.sensor? id with
    | none => rfl
    | some s =>
      have hmem : s ∈ l.sensorsOf ids := List.mem_filterMap.2 ⟨id, hid, hs⟩
      exact absurd (beq_iff_eq.2 (h.sensor_id hs)) (List.find?_eq_none.1 hfind s hmem)

/-! ### What a request wants -/

/-- The sensors and file names that a request for a fetch stands for, and the group they are of. -/
inductive FetchRequest.Wants (l : Ledger) (q : FetchRequest) :
    List (SensorId × String) → Option GroupId → Prop where
  | sensors (type : q.entityType = .sensor)
    (known : ∀ e ∈ q.entities, ∃ s, l.sensor? e.id = some s) :
    q.Wants l (q.entities.map fun e => (e.id, e.fileName)) none
  | members {e : FetchEntity} {g : Group} (type : q.entityType = .group) (one : q.entities = [e])
    (found : l.group? e.id = some g) :
    q.Wants l (g.sensors.map fun s => (s, e.fileName)) (some g.id)

namespace Creation

theorem one_of_no_fault {q : FetchRequest} (h : fetchFault? q = none)
    (htype : q.entityType = .group) : ∃ e, q.entities = [e] := by
  unfold fetchFault? at h
  split at h
  · cases h
  · split at h
    · cases h
    · rw [htype] at h
      cases hentities : q.entities with
      | nil =>
        rw [hentities] at h
        cases h
      | cons e es =>
        cases es with
        | nil => exact ⟨e, rfl⟩
        | cons e' es =>
          rw [hentities] at h
          cases h

theorem newEntries_bind_run {wanted : List (SensorId × String)} {dateFrom dateTo : Option Instant}
    {group : Option GroupId} {w v : World} {work : Work}
    (h : (newEntries wanted >>= fun data =>
      (pure (.fetch ⟨data, dateFrom, dateTo, group⟩) : Action TaskError Work)).run.run w =
        (.ok work, v)) :
    work = .fetch ⟨entries w.nextNumber wanted, dateFrom, dateTo, group⟩ := by
  cases h
  rfl

/-- The work of a request is made of entries for what it wants. -/
theorem fetchWork_run {q : FetchRequest} {w v : World} (hw : w.ledger.Indexed) {work : Work}
    (h : (fetchWork q).run.run w = (.ok work, v)) :
    ∃ first wanted group, q.Wants w.ledger wanted group ∧
      work = .fetch ⟨entries first wanted, some q.dateFrom, q.dateTo, group⟩ := by
  unfold fetchWork at h
  split at h
  · cases h
  · rename_i hfault
    split at h
    · rename_i e es htype hentities
      obtain ⟨e', hone⟩ := one_of_no_fault hfault htype
      obtain ⟨rfl, -⟩ := List.cons.inj (hentities.symm.trans hone)
      rw [fetchGroup, Action.run_perform_bind_run, Action.run_bind_eq_ok] at h
      obtain ⟨g, u, hg, h⟩ := h
      obtain ⟨hg, rfl⟩ := Action.orFail_eq_ok hg
      exact ⟨_, _, _, .members htype hone hg, newEntries_bind_run h⟩
    · rename_i hnot
      rw [fetchSensors, Action.run_perform_bind_run] at h
      dsimp only [Command.run] at h
      split at h
      · cases h
      · rename_i hfind
        have htype : q.entityType = .sensor := by
          cases htype : q.entityType with
          | sensor => rfl
          | group =>
            obtain ⟨e, hone⟩ := one_of_no_fault hfault htype
            exact absurd hone (hnot e [] htype)
        refine ⟨_, _, _, .sensors htype fun e he => ?_, newEntries_bind_run h⟩
        have hany :
            ((w.ledger.sensorsOf (q.entities.map (·.id))).any fun s => s.id == e.id) = true := by
          simpa using List.find?_eq_none.1 hfind e he
        rw [← Option.isSome_iff_exists, ← hw.find?_sensorsOf (List.mem_map_of_mem he),
          List.find?_isSome]
        exact List.any_eq_true.1 hany

/-- A task that is built has the work that is looked up for its request. -/
theorem build_run {user : UserId} {r : TaskRequest} {t : Task} {w v : World}
    (h : (build user r).run.run w = (.ok t, v)) :
    v.ledger = w.ledger ∧
      ∃ u x, u.ledger = w.ledger ∧ (work r.work).run.run u = (.ok t.work, x) := by
  refine ⟨(reads_build user r).ledger_of_run h, ?_⟩
  unfold build at h
  obtain ⟨_, w₁, h₁, h⟩ := Action.run_bind_eq_ok.1 h
  obtain ⟨firstRunAt, w₂, h₂, h⟩ := Action.run_bind_eq_ok.1 h
  obtain ⟨name, w₃, h₃, h⟩ := Action.run_bind_eq_ok.1 h
  obtain ⟨work, w₄, h₄, h⟩ := Action.run_bind_eq_ok.1 h
  have hledger : w₃.ledger = w.ledger :=
    ((reads_resolveName r firstRunAt).ledger_of_run h₃).trans
      (((reads_firstRun r).ledger_of_run h₂).trans ((reads_checkRecurrence r).ledger_of_run h₁))
  cases h
  exact ⟨w₃, w₄, hledger, h₄⟩

/-- An entry stands where what it is for is wanted. -/
theorem getElem?_entries (first : Nat) (wanted : List (SensorId × String)) (i : Nat) :
    (entries first wanted)[i]? = wanted[i]?.map fun p =>
      ⟨p.1, FreshId.text (first + i), none, some p.2, none, none, none⟩ := by
  induction wanted generalizing first i with
  | nil => simp [entries]
  | cons p wanted ih =>
    obtain ⟨sensor, fileName⟩ := p
    cases i with
    | zero => rfl
    | succ i =>
      rw [entries, List.getElem?_cons_succ, List.getElem?_cons_succ, ih, Nat.add_right_comm,
        Nat.add_assoc]

theorem wanted_entries (first : Nat) (wanted : List (SensorId × String)) :
    (entries first wanted).map (fun e => (e.sensor, e.fileName)) =
      wanted.map fun p => (p.1, some p.2) := by
  induction wanted generalizing first with
  | nil => rfl
  | cons p wanted ih =>
    rw [entries, List.map_cons, List.map_cons, ih]

end Creation

/-! ### What is stored and what is sent -/

namespace FetchRequest

open Message

/-- Entity by entity, a request for sensors stands in the work of its task and in the message. -/
structure SensorsListed (q : FetchRequest) (l : Ledger) (work : FetchWork)
    (sent : ScheduledFetch) : Prop where
  group : work.group = none
  stored : work.data.length = q.entities.length
  listed : sent.data.length = q.entities.length
  entry : ∀ (i : Nat) (e : FetchEntity), q.entities[i]? = some e →
    ∃ (s : Sensor) (d : FetchEntry), l.sensor? e.id = some s ∧
    work.data[i]? = some d ∧ d.sensor = e.id ∧ d.fileName = some e.fileName ∧
    sent.data[i]? = some ⟨⟨e.id, s.managedObjectId, s.valueFragmentType⟩, e.fileName, d.dataId⟩

/-- The members of the group that a request names stand in the work of its task, and those that are
sensors of the ledger in the message. -/
structure MembersListed (e : FetchEntity) (g : Group) (l : Ledger) (work : FetchWork)
    (sent : ScheduledFetch) : Prop where
  group : work.group = some g.id
  stored : work.data.map (·.sensor) = g.sensors
  named : ∀ d ∈ work.data, d.fileName = some e.fileName
  listed : sent.data = work.data.filterMap fun d => (l.sensor? d.sensor).map fun s =>
    ⟨⟨d.sensor, s.managedObjectId, s.valueFragmentType⟩, e.fileName, d.dataId⟩

end FetchRequest

namespace Scheduling

open Message

/-- What the message says of an entry whose sensor is one of the ledger. -/
def listed? (l : Ledger) (d : FetchEntry) : Option ScheduledEntry :=
  (l.sensor? d.sensor).map fun s =>
    ⟨⟨d.sensor, s.managedObjectId, s.valueFragmentType⟩, d.fileName.getD "", d.dataId⟩

/-- The sensor of an entry is found among those of its task as it is found in the ledger. -/
theorem scheduledEntry_sensorsOf {l : Ledger} (h : l.Indexed) {data : List FetchEntry}
    {d : FetchEntry} (hd : d ∈ data) :
    scheduledEntry (l.sensorsOf (data.map (·.sensor))) d = listed? l d := by
  rw [scheduledEntry, listed?, h.find?_sensorsOf (List.mem_map_of_mem hd)]
  cases hs : l.sensor? d.sensor with
  | none => rfl
  | some s =>
    dsimp only [Option.map_some]
    rw [h.sensor_id hs]

/-- The ids of the listed entries are some of those of all entries, in their order. -/
theorem dataId_listed (l : Ledger) (data : List FetchEntry) :
    ((data.filterMap (listed? l)).map (·.dataId)).Sublist (data.map (·.dataId)) := by
  induction data with
  | nil => exact .slnil
  | cons d data ih =>
    cases hd : listed? l d with
    | none =>
      rw [List.filterMap_cons_none hd]
      exact ih.cons _
    | some m =>
      obtain ⟨s, -, rfl⟩ := Option.map_eq_some_iff.1 hd
      rw [List.filterMap_cons_some hd]
      exact ih.cons_cons d.dataId

theorem message_fetch_run {t : Task} {work : FetchWork} (hwork : t.work = .fetch work)
    {dateFrom : Instant} (hdate : work.dateFrom = some dateFrom) {w : World}
    (hw : w.ledger.Indexed) :
    ∃ m, (message t).run.run w = (.ok m, w) ∧
      m.payload = .fetch ⟨work.data.filterMap (listed? w.ledger), dateFrom, work.dateTo⟩ := by
  have hdata : work.data.filterMap
      (scheduledEntry (w.ledger.sensorsOf (work.data.map (·.sensor)))) =
        work.data.filterMap (listed? w.ledger) :=
    List.filterMap_congr fun d hd => scheduledEntry_sensorsOf hw hd
  have hfetch : (scheduledFetch t.id work).run.run w =
      (.ok ⟨work.data.filterMap (listed? w.ledger), dateFrom, work.dateTo⟩, w) := by
    unfold scheduledFetch
    rw [hdate, ← hdata]
    rfl
  refine ⟨⟨t.id, t.name, t.initiatedByUser, t.metadata.firstRunAt, t.metadata.recurrence,
    t.attributes, t.type, .fetch _⟩, ?_, rfl⟩
  unfold message scheduledWork
  rw [hwork]
  simp only [Action.run_bind_run, hfetch]
  rfl

/-- Where nothing is dropped, nothing moves. -/
theorem getElem?_filterMap_of_isSome {α β : Type} {f : α → Option β} {as : List α}
    (h : ∀ a ∈ as, (f a).isSome) (i : Nat) : (as.filterMap f)[i]? = as[i]?.bind f := by
  induction as generalizing i with
  | nil => simp
  | cons a as ih =>
    rw [List.forall_mem_cons] at h
    obtain ⟨b, hb⟩ := Option.isSome_iff_exists.1 h.1
    rw [List.filterMap_cons_some hb]
    cases i with
    | zero => simp [hb]
    | succ i => simpa using ih h.2 i

/-- Entries for sensors that are all known are all listed. -/
theorem sensorsListed {q : FetchRequest} {l : Ledger} {data : List FetchEntry} {first : Nat}
    (known : ∀ e ∈ q.entities, ∃ s, l.sensor? e.id = some s)
    (hdata : data = Creation.entries first (q.entities.map fun e => (e.id, e.fileName)))
    (dateFrom : Instant) (dateFrom? dateTo : Option Instant) :
    q.SensorsListed l ⟨data, dateFrom?, dateTo, none⟩
      ⟨data.filterMap (listed? l), dateFrom, dateTo⟩ := by
  have hget : ∀ i : Nat, data[i]? = q.entities[i]?.map fun e =>
      ⟨e.id, FreshId.text (first + i), none, some e.fileName, none, none, none⟩ := by
    intro i
    rw [hdata, Creation.getElem?_entries, List.getElem?_map, Option.map_map]
    rfl
  have hlisted : ∀ d ∈ data, (listed? l d).isSome := by
    intro d hd
    obtain ⟨i, hi⟩ := List.mem_iff_getElem?.1 hd
    rw [hget, Option.map_eq_some_iff] at hi
    obtain ⟨e, he, rfl⟩ := hi
    obtain ⟨s, hs⟩ := known e (List.mem_of_getElem? he)
    rw [listed?, hs]
    rfl
  have hlength : data.length = q.entities.length := by
    have hmap := congrArg List.length (Creation.dataId_entries first
      (q.entities.map fun e => (e.id, e.fileName)))
    simpa [← hdata] using hmap
  refine ⟨rfl, hlength, ?_, fun i e he => ?_⟩
  · rw [← hlength]
    exact List.filterMap_length_eq_length.2 hlisted
  · obtain ⟨s, hs⟩ := known e (List.mem_of_getElem? he)
    have hd := hget i
    rw [he, Option.map_some] at hd
    refine ⟨s, _, hs, hd, rfl, rfl, ?_⟩
    rw [getElem?_filterMap_of_isSome hlisted, hd, Option.bind_some, listed?, hs]
    rfl

/-- Of the entries for the members of a group, those are listed whose sensors are known. -/
theorem membersListed {e : FetchEntity} {g : Group} {l : Ledger} {data : List FetchEntry}
    {first : Nat} (hdata : data = Creation.entries first (g.sensors.map fun s => (s, e.fileName)))
    (dateFrom : Instant) (dateFrom? dateTo : Option Instant) :
    FetchRequest.MembersListed e g l ⟨data, dateFrom?, dateTo, some g.id⟩
      ⟨data.filterMap (listed? l), dateFrom, dateTo⟩ := by
  have hwanted : data.map (fun d => (d.sensor, d.fileName)) =
      g.sensors.map fun s => (s, some e.fileName) := by
    rw [hdata, Creation.wanted_entries, List.map_map]
    rfl
  have hnamed : ∀ d ∈ data, d.fileName = some e.fileName := by
    intro d hd
    have hpair : (d.sensor, d.fileName) ∈ g.sensors.map fun s => (s, some e.fileName) := by
      rw [← hwanted]
      exact List.mem_map_of_mem hd
    obtain ⟨s, -, hs⟩ := List.mem_map.1 hpair
    exact (Prod.mk.inj hs).2.symm
  refine ⟨rfl, ?_, hnamed, List.filterMap_congr fun d hd => ?_⟩
  · have hsensors := congrArg (List.map Prod.fst) hwanted
    simpa [Function.comp_def] using hsensors
  · rw [listed?, hnamed d hd]
    rfl

/-- The message of a task that was built for a fetch lists what the request asks for, in its order
and by the ids under which it is stored, and all these ids are different. -/
theorem message_of_fetch {user : UserId} {r : TaskRequest} {q : FetchRequest} {t : Task}
    {w v : World} (hw : w.ledger.Indexed) (hr : r.work = .fetch q)
    (hbuild : (Creation.build user r).run.run w = (.ok t, v)) :
    ∃ work m sent, t.work = .fetch work ∧ (message t).run.run v = (.ok m, v) ∧
      m.payload = .fetch sent ∧
      (work.data.map (·.dataId)).Nodup ∧ (sent.data.map (·.dataId)).Nodup ∧
      sent.dateFrom = q.dateFrom ∧ sent.dateTo = q.dateTo ∧
      (q.entityType = .sensor → q.SensorsListed w.ledger work sent) ∧
      (q.entityType = .group → ∃ e g, q.entities = [e] ∧ w.ledger.group? e.id = some g ∧
        FetchRequest.MembersListed e g w.ledger work sent) := by
  obtain ⟨hv, u, x, hu, hwork⟩ := Creation.build_run hbuild
  rw [hr, Creation.work] at hwork
  obtain ⟨first, wanted, group, hwants, hfetch⟩ := Creation.fetchWork_run (hu ▸ hw) hwork
  obtain ⟨m, hrun, hm⟩ := message_fetch_run hfetch rfl (hv ▸ hw)
  rw [hv] at hm
  rw [hu] at hwants
  have hids : ((Creation.entries first wanted).map (·.dataId)).Nodup :=
    (Creation.newEntries_entries [] first wanted).distinct
  refine ⟨_, m, _, hfetch, hrun, hm, hids, ?_, rfl, rfl, ?_⟩
  · exact hids.sublist (dataId_listed w.ledger _)
  · cases hwants with
    | sensors type known =>
      exact ⟨fun _ => sensorsListed known rfl _ _ _, fun h => (by rw [type] at h; cases h)⟩
    | members type one found =>
      exact ⟨fun h => (by rw [type] at h; cases h),
        fun _ => ⟨_, _, one, found, membersListed rfl _ _ _⟩⟩

namespace Sample

/-- A group of the boiler, among members that are no sensors any more. -/
def hall : Group := ⟨"g1", "hall", none, none, none, ["s8", "s1", "s9"], [], .empty⟩

def crowded : World := ((Command.createGroup hall).run world).2

def hallRequest : TaskRequest :=
  ⟨some "hall", none, none, .empty, .fetch ⟨.group, [⟨"g1", "h.csv"⟩], clock, none⟩⟩

def hallWork : FetchWork :=
  ⟨[⟨"s8", FreshId.text 1, none, some "h.csv", none, none, none⟩,
    ⟨"s1", FreshId.text 2, none, some "h.csv", none, none, none⟩,
    ⟨"s9", FreshId.text 3, none, some "h.csv", none, none, none⟩], some clock, none, some "g1"⟩

def hallTask : Task :=
  .new (FreshId.text 4) clock "hall" "ada" (.new clock none) (.fetch hallWork) .empty

theorem crowded_indexed : crowded.ledger.Indexed :=
  (Ledger.Indexed.empty.createSensor (s := boiler) rfl rfl).createGroup (g := hall) rfl rfl

end Sample

/-- The message for a group is about the one member that is left. -/
theorem message_of_hall :
    Sample.crowded.ledger.Indexed ∧ ∃ v m sent,
      (Creation.build "ada" Sample.hallRequest).run.run Sample.crowded = (.ok Sample.hallTask, v) ∧
      (message Sample.hallTask).run.run v = (.ok m, v) ∧ m.payload = .fetch sent ∧
      sent.data = [⟨⟨"s1", "o1", "Temperature"⟩, "h.csv", FreshId.text 2⟩] := by
  have hbuild : (Creation.build "ada" Sample.hallRequest).run.run Sample.crowded =
      (.ok Sample.hallTask, _) := Prod.ext rfl rfl
  obtain ⟨work, m, sent, hwork, hrun, hm, -, -, -, -, -, hgroup⟩ :=
    message_of_fetch Sample.crowded_indexed rfl hbuild
  obtain ⟨e, g, hone, hg, hlisted⟩ := hgroup rfl
  cases hwork
  cases hone
  exact ⟨Sample.crowded_indexed, _, m, sent, hbuild, hrun, hm, hlisted.listed.trans rfl⟩

end Scheduling

end SensorTasks

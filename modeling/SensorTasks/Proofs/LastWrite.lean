import SensorTasks.Proofs.TaskMessage

/-!
The status of a task after many messages. What a message tells about a task takes the place of what
was said before, and what it does not mention stays. So each field of the status is what the last
message that mentions it tells, among the messages that were applied, or what it was at first.
-/

namespace SensorTasks

open Message

namespace Inbox

/-! ### What messages say -/

/-- What is said about a task; nothing is said about the fields that are left open. -/
structure Told where
  status : Option TaskStatus := none
  mode : Option TaskMode := none
  nextRunAt : Option Instant := none
  lastCompletedAt : Option Instant := none
  lastFailReason : Option String := none
  /-- The task is at work. -/
  works : Bool := false

namespace TaskMessage

/-- What a message tells about a task. -/
def tells (id : TaskId) : TaskMessage → Told
  | report m =>
    if m.taskId = id then
      { status := some m.status
        mode := m.mode
        nextRunAt := m.nextRunAt
        lastCompletedAt := m.lastCompletedAt
        works := m.status = .processing }
    else {}
  | failure f =>
    if f.taskId = id then { status := some .failed, lastFailReason := some f.reason } else {}
  | modes m => if id ∈ m.taskIds then { mode := some m.mode } else {}

/-- The last thing that messages say about a field of a task. -/
def lastTold {α : Type} (id : TaskId) (field : Told → Option α) (ms : List TaskMessage) :
    Option α :=
  (ms.filterMap fun m => field (m.tells id)).getLast?

theorem lastTold_append {α : Type} (id : TaskId) (field : Told → Option α)
    (ms ms' : List TaskMessage) :
    lastTold id field (ms ++ ms') = (lastTold id field ms').or (lastTold id field ms) := by
  unfold lastTold
  rw [List.filterMap_append, List.getLast?_append]

theorem lastTold_singleton {α : Type} (id : TaskId) (field : Told → Option α) (m : TaskMessage) :
    lastTold id field [m] = field (m.tells id) := by
  unfold lastTold
  cases h : field (m.tells id) <;> simp [h]

theorem works_iff {id : TaskId} {m : TaskMessage} : (m.tells id).works = true ↔
    ∃ s, m = report s ∧ s.taskId = id ∧ s.status = .processing := by
  cases m with
  | report s => by_cases h : s.taskId = id <;> simp [tells, h]
  | failure f => by_cases h : f.taskId = id <;> simp [tells, h]
  | modes m => by_cases h : id ∈ m.taskIds <;> simp [tells, h]

end TaskMessage

end Inbox

open Inbox TaskMessage

/-- The second task is the first one after messages about it: each field is what was said last. -/
structure Task.Heeds (t : Task) (ms : List TaskMessage) (t' : Task) : Prop where
  status : t'.status = (lastTold t.id (·.status) ms).getD t.status
  mode : t'.mode = (lastTold t.id (·.mode) ms).getD t.mode
  nextRunAt :
    t'.metadata.nextRunAt = (lastTold t.id (·.nextRunAt) ms).or t.metadata.nextRunAt
  lastCompletedAt : t'.metadata.lastCompletedAt =
    (lastTold t.id (·.lastCompletedAt) ms).or t.metadata.lastCompletedAt
  lastFailReason :
    t'.metadata.lastFailReason = (lastTold t.id (·.lastFailReason) ms).or t.metadata.lastFailReason
  lastRanAt : t'.metadata.lastRanAt.isSome ↔
    t.metadata.lastRanAt.isSome ∨ ∃ m ∈ ms, (m.tells t.id).works = true

namespace Task.Heeds

variable {t t' t'' : Task} {ms ms' : List TaskMessage}

theorem refl (t : Task) : t.Heeds [] t :=
  ⟨rfl, rfl, rfl, rfl, rfl, by simp⟩

/-- Later messages are heard after earlier ones. -/
theorem append (h : t.Heeds ms t') (hid : t'.id = t.id) (h' : t'.Heeds ms' t'') :
    t.Heeds (ms ++ ms') t'' := by
  obtain ⟨hstatus, hmode, hnext, hcompleted, hreason, hran⟩ := h
  obtain ⟨hstatus', hmode', hnext', hcompleted', hreason', hran'⟩ := h'
  rw [hid] at *
  refine ⟨?_, ?_, ?_, ?_, ?_, ?_⟩
  · rw [hstatus', hstatus, lastTold_append, Option.getD_or]
  · rw [hmode', hmode, lastTold_append, Option.getD_or]
  · rw [hnext', hnext, lastTold_append, Option.or_assoc]
  · rw [hcompleted', hcompleted, lastTold_append, Option.or_assoc]
  · rw [hreason', hreason, lastTold_append, Option.or_assoc]
  · simp only [hran', hran, List.mem_append, or_and_right, exists_or, or_assoc]

/-- Nothing is heard of a message that is about other tasks. -/
theorem silent {m : TaskMessage} (h : m.tells t.id = {}) : t.Heeds [m] t := by
  refine ⟨?_, ?_, ?_, ?_, ?_, ?_⟩ <;> simp [lastTold_singleton, h]

end Task.Heeds

/-- The patch changes what is told of the status of a task. -/
structure TaskPatch.Brings (p : TaskPatch) (told : Told) : Prop where
  status : p.status = told.status
  mode : p.mode = told.mode
  nextRunAt : p.nextRunAt = told.nextRunAt
  lastCompletedAt : p.lastCompletedAt = told.lastCompletedAt
  lastFailReason : p.lastFailReason = told.lastFailReason
  lastRanAt : p.lastRanAt.isSome = told.works

theorem Task.Heeds.patched {t : Task} {m : TaskMessage} {p : TaskPatch}
    (h : p.Brings (m.tells t.id)) (now : Instant) : t.Heeds [m] (p.apply now t) := by
  refine ⟨?_, ?_, ?_, ?_, ?_, ?_⟩
  · rw [lastTold_singleton, ← h.status]
    rfl
  · rw [lastTold_singleton, ← h.mode]
    rfl
  · rw [lastTold_singleton, ← h.nextRunAt]
    rfl
  · rw [lastTold_singleton, ← h.lastCompletedAt]
    rfl
  · rw [lastTold_singleton, ← h.lastFailReason]
    rfl
  · simp only [TaskPatch.apply, Option.isSome_or, Bool.or_eq_true, h.lastRanAt,
      List.mem_singleton, exists_eq_left, or_comm]

/-! ### Messages that are handled -/

namespace Inbox.TaskMessage

variable {w : World} {id : TaskId} {t : Task}

/-- The message is applied in a world, and neither refused nor dropped. -/
def applies (m : TaskMessage) (w : World) : Bool :=
  match (m.handle.run.run w).1 with
  | .ok applied => applied
  | .error _ => false

theorem applies_report {m : StatusReport Json} :
    (report m).applies w = true ↔ ∃ t', ((Report.status m).run.run w).1 = .ok (some t') := by
  unfold applies handle
  rw [Action.run_bind_run]
  rcases (Report.status m).run.run w with ⟨⟨e⟩ | ⟨o⟩, v⟩
  · simp
  · cases o <;> simp

/-- What a report may look like to be applied: it says nothing besides the status, or something that
belongs to its type and status and can be decoded. -/
inductive Applicable (m : StatusReport Json) : Prop where
  | plain (hp : m.payload = none)
  | results {j : Json} {rs : List FetchResult} (htype : m.taskType = .dataFetch)
    (hstatus : m.status = .done) (hp : m.payload = some j)
    (hj : FetchResult.listDecoder.fromValue j = .ok rs)
  | uploaded (htype : m.taskType = .dataUpload) (hstatus : m.status = .done)
  | objects {j : Json} {os : List ManagedObject} (htype : m.taskType = .objectSync)
    (hstatus : m.status = .processing) (hp : m.payload = some j)
    (hkey : (j.get? "objects").isSome) (hj : ManagedObject.listDecoder.fromValue j = .ok os)
  | objectAmount {j : Json} {n : Nat} (htype : m.taskType = .objectSync)
    (hstatus : m.status = .done) (hp : m.payload = some j)
    (hkey : (j.get? "objectAmount").isSome) (hj : objectAmountDecoder.fromValue j = .ok n)

theorem faultOf_eq_none {α : Type} {d : Json.Decoder α} {j : Json} :
    Report.faultOf d j = none ↔ ∃ a, d.fromValue j = .ok a := by
  unfold Report.faultOf
  cases d.fromValue j <;> simp

theorem applicable_iff {m : StatusReport Json} :
    Applicable m ↔ Report.content m ≠ .unknown ∧ (Report.content m).fault? = none := by
  constructor
  · rintro (hp | ⟨htype, hstatus, hp, hj⟩ | ⟨htype, hstatus⟩ | ⟨htype, hstatus, hp, hkey, hj⟩ |
      ⟨htype, hstatus, hp, hkey, hj⟩)
    · unfold Report.content
      rw [hp]
      split <;> simp_all [Report.Content.fault?]
    · simp [Report.content, htype, hstatus, hp, Report.Content.fault?, faultOf_eq_none, hj]
    · simp [Report.content, htype, hstatus, Report.Content.fault?]
    · simp [Report.content, htype, hstatus, hp, hkey, Report.Content.fault?, faultOf_eq_none, hj]
    · simp [Report.content, htype, hstatus, hp, hkey, Report.Content.fault?, faultOf_eq_none, hj]
  · unfold Report.content
    split
    · rename_i j htype hstatus hp
      rintro ⟨-, hj⟩
      obtain ⟨rs, hj⟩ := faultOf_eq_none.1 hj
      exact .results htype hstatus hp hj
    · rename_i htype hstatus
      exact fun _ => .uploaded htype hstatus
    · rename_i j htype hstatus hp
      split
      · rintro ⟨-, hj⟩
        obtain ⟨os, hj⟩ := faultOf_eq_none.1 hj
        exact .objects htype hstatus hp ‹_› hj
      · exact fun h => absurd rfl h.1
    · rename_i j htype hstatus hp
      split
      · rintro ⟨-, hj⟩
        obtain ⟨n, hj⟩ := faultOf_eq_none.1 hj
        exact .objectAmount htype hstatus hp ‹_› hj
      · exact fun h => absurd rfl h.1
    · exact fun _ => .plain ‹_›
    · exact fun h => absurd rfl h.1

theorem applies_iff (hw : w.Consistent) (m : StatusReport Json) :
    (report m).applies w = true ↔
      (∃ u, w.ledger.task? m.taskId = some u ∧ u.type = m.taskType) ∧ Applicable m := by
  rw [applies_report, Report.status_applied_iff hw, applicable_iff]

/-- After a message, a task has heard it if it was applied, and nothing if it was not. -/
def Answers (w : World) (m : TaskMessage) (t : Task) : Prop :=
  ∃ t', (m.handle.run.run w).2.ledger.task? t.id = some t' ∧ t'.id = t.id ∧
    t.Heeds (if m.applies w then [m] else []) t'

/-- What is left to show of a message that was dropped. -/
theorem answers_of_same {m : TaskMessage} (ht : w.ledger.task? t.id = some t)
    (hworld : (m.handle.run.run w).2 = w) (happlies : ¬m.applies w = true) : Answers w m t := by
  refine ⟨t, by rw [hworld, ht], rfl, ?_⟩
  rw [if_neg happlies]
  exact .refl t

/-- What is left to show of a message that patched a task. -/
theorem answers_of_patched {m : TaskMessage} {v : World} {u : Task} {p : TaskPatch} {now : Instant}
    (ht : w.ledger.task? t.id = some t) (htasks : v.ledger.tasks = w.ledger.tasks)
    (hworld : (m.handle.run.run w).2.ledger = v.ledger.putTask (p.apply now u))
    (happlies : m.applies w = true) (hu : w.ledger.task? u.id = some u)
    (hbrings : p.Brings (m.tells u.id)) (hsilent : ∀ id, id ≠ u.id → m.tells id = {}) :
    Answers w m t := by
  unfold Answers
  rw [if_pos happlies, hworld, Ledger.task?_putTask, TaskPatch.apply_id]
  by_cases hid : t.id = u.id
  · obtain rfl : t = u := by
      rw [hid, hu, Option.some.injEq] at ht
      exact ht.symm
    rw [if_pos rfl]
    exact ⟨_, rfl, rfl, .patched hbrings now⟩
  · rw [if_neg hid]
    refine ⟨t, ?_, rfl, .silent (hsilent _ hid)⟩
    rw [← ht, Ledger.task?, Ledger.task?, htasks]

theorem brings_basePatch (m : StatusReport Json) (now : Instant)
    (entries : Option (List FetchEntry)) :
    TaskPatch.Brings { Report.basePatch m now with fetchEntries := entries }
      ((report m).tells m.taskId) := by
  rw [tells, if_pos rfl]
  refine ⟨rfl, rfl, rfl, rfl, rfl, ?_⟩
  by_cases h : m.status = .processing <;> simp [Report.basePatch, h]

theorem brings_failurePatch (f : Failure) (now : Instant) :
    (Report.failurePatch f now).Brings ((failure f).tells f.taskId) := by
  rw [tells, if_pos rfl]
  exact ⟨rfl, rfl, rfl, rfl, rfl, rfl⟩

theorem answers_report (hw : w.Consistent) (m : StatusReport Json)
    (ht : w.ledger.task? t.id = some t) : Answers w (report m) t := by
  rcases Report.status_run hw m with ⟨hworld, hnot⟩ | ⟨u, p, v, hu, -, -, -, hrun, hstatus⟩
  · refine answers_of_same ht ((handle_report_run m w).trans hworld) fun happlies => ?_
    obtain ⟨t', ht'⟩ := applies_report.1 happlies
    exact hnot t' ht'
  · obtain ⟨htasks, hp⟩ := Report.applyContent_kept hrun
    have hid := hw.indexed.task_id hu
    have hworld : ((report m).handle.run.run w).2.ledger =
        v.ledger.putTask (p.apply v.clock u) := by rw [handle_report_run, hstatus]
    refine answers_of_patched ht htasks hworld ?_ (by rw [hid, hu]) ?_ ?_
    · exact applies_report.2 ⟨_, by rw [hstatus]⟩
    · rw [hp, hid]
      exact brings_basePatch m w.clock _
    · exact fun id hne => if_neg fun he => hne (he.symm.trans hid.symm)

theorem answers_failure (hw : w.Consistent) (f : Failure) (ht : w.ledger.task? t.id = some t) :
    Answers w (failure f) t := by
  rcases Report.failure_run w f with ⟨-, hrun⟩ | ⟨u, hu, hrun⟩
  · have hhandle : (handle (failure f)).run.run w = (.ok false, w) := by
      unfold handle
      rw [Action.run_bind_run, hrun]
      rfl
    exact answers_of_same ht (by rw [hhandle]) (by rw [applies, hhandle]; exact Bool.false_ne_true)
  · have hid := hw.indexed.task_id hu
    let p := Report.failurePatch f w.clock
    have hhandle : (handle (failure f)).run.run w =
        (.ok true, { w with ledger := w.ledger.putTask (p.apply w.clock u) }) := by
      unfold handle
      rw [Action.run_bind_run, hrun]
      rfl
    have hworld : ((handle (failure f)).run.run w).2.ledger =
        w.ledger.putTask (p.apply w.clock u) := by rw [hhandle]
    refine answers_of_patched ht rfl hworld (by rw [applies, hhandle]) (by rw [hid, hu]) ?_ ?_
    · rw [hid]
      exact brings_failurePatch f w.clock
    · exact fun id hne => if_neg fun he => hne (he.symm.trans hid.symm)

theorem answers_modes (hw : w.Consistent) (m : ModeChange) (ht : w.ledger.task? t.id = some t) :
    Answers w (modes m) t := by
  have happlies : (modes m).applies w = true := rfl
  have hset : ((handle (modes m)).run.run w).2.ledger.task? t.id = _ :=
    World.task?_setModes hw.indexed.task_id m.taskIds m.mode w.clock t.id
  unfold Answers
  rw [if_pos happlies, hset, ht, Option.map_some]
  by_cases hmem : t.id ∈ m.taskIds
  · have htells : (modes m).tells t.id = { mode := some m.mode } := if_pos hmem
    rw [if_pos hmem]
    by_cases hmode : t.mode = m.mode
    · rw [if_pos hmode]
      exact ⟨t, rfl, rfl, by constructor <;> simp [lastTold_singleton, htells, hmode]⟩
    · rw [if_neg hmode]
      refine ⟨_, rfl, rfl, .patched ?_ w.clock⟩
      rw [htells]
      exact ⟨rfl, rfl, rfl, rfl, rfl, rfl⟩
  · rw [if_neg hmem]
    exact ⟨t, rfl, rfl, .silent (if_neg hmem)⟩

/-- After a message, a stored task has heard it if it was applied, and nothing if it was not. -/
theorem answers (hw : w.Consistent) (m : TaskMessage) (ht : w.ledger.task? t.id = some t) :
    Answers w m t := by
  cases m with
  | report m => exact answers_report hw m ht
  | failure f => exact answers_failure hw f ht
  | modes m => exact answers_modes hw m ht

end Inbox.TaskMessage

/-! ### Runs -/

/-- A message that comes in at some time. -/
structure Arrival where
  clock : Instant
  key : RoutingKey
  payload : Payload

namespace World

variable {r : Registry} {w : World} {t : Task}

/-- The world after a message that came in was handled. -/
def receive (r : Registry) (w : World) (a : Arrival) : World :=
  ((process r a.key a.payload).run.run { w with clock := a.clock }).2

/-- The world after messages were handled one after the other. -/
def receiveAll (r : Registry) (w : World) (as : List Arrival) : World := as.foldl (receive r) w

/-- The message that came in, if it is one about tasks and is applied. -/
def applied? (r : Registry) (w : World) (a : Arrival) : Option TaskMessage :=
  (received? r a.key a.payload).filter (·.applies { w with clock := a.clock })

/-- The messages about tasks that were applied, in their order. -/
def applied (r : Registry) : World → List Arrival → List TaskMessage
  | _, [] => []
  | w, a :: as => (w.applied? r a).toList ++ (w.receive r a).applied r as

theorem Consistent.receive (hw : w.Consistent) (r : Registry) (a : Arrival) :
    (w.receive r a).Consistent := by
  have hclock : World.Consistent { w with clock := a.clock } := hw.outside rfl (Nat.le_refl _)
  have hrun := Operation.consistent_run hclock (.handle r a.key a.payload)
  rwa [Operation.program, Operation.forget_run] at hrun

/-- A task that is stored stays and hears every message that is applied. -/
theorem receive_heeds (hw : w.Consistent) (r : Registry) (a : Arrival)
    (ht : w.ledger.task? t.id = some t) :
    ∃ t', (w.receive r a).ledger.task? t.id = some t' ∧ t'.id = t.id ∧
      t.Heeds (w.applied? r a).toList t' := by
  have hclock : World.Consistent { w with clock := a.clock } := hw.outside rfl (Nat.le_refl _)
  unfold receive applied?
  cases hm : received? r a.key a.payload with
  | none =>
    have htasks := Program.Uses.tasks_run (uses_process hm fun _ _ _ _ => rfl)
      { w with clock := a.clock }
    exact ⟨t, by rw [Ledger.task?, htasks, ← Ledger.task?, ht], rfl, .refl t⟩
  | some m =>
    rw [process_run hm]
    obtain ⟨t', ht', hid, hheeds⟩ := answers hclock m ht
    refine ⟨t', ht', hid, ?_⟩
    rw [Option.filter_some]
    split at hheeds
    · rw [if_pos ‹_›]
      exact hheeds
    · rw [if_neg ‹_›]
      exact hheeds

theorem Consistent.receiveAll (hw : w.Consistent) (r : Registry) (as : List Arrival) :
    (w.receiveAll r as).Consistent := by
  induction as generalizing w with
  | nil => exact hw
  | cons a as ih => exact ih (hw.receive r a)

theorem receiveAll_heeds (hw : w.Consistent) (r : Registry) (as : List Arrival)
    (ht : w.ledger.task? t.id = some t) :
    ∃ t', (w.receiveAll r as).ledger.task? t.id = some t' ∧ t.Heeds (w.applied r as) t' := by
  induction as generalizing w t with
  | nil => exact ⟨t, ht, .refl t⟩
  | cons a as ih =>
    obtain ⟨u, hu, hid, hheeds⟩ := receive_heeds hw r a ht
    rw [← hid] at hu
    obtain ⟨t', ht', hheeds'⟩ := ih (hw.receive r a) hu
    exact ⟨t', hid ▸ ht', hheeds.append hid hheeds'⟩

/-- Whatever messages come in: each field of the status of a task is what the last message says that
was applied and mentions it, or else what it was at first, and the task has run if it had before or
if a report was applied that it is at work. A report is applied if its task is stored and of the
type that it says, and if it brings nothing besides or something that it may bring. -/
theorem last_write_wins (hw : w.Consistent) {id : TaskId} (ht : w.ledger.task? id = some t)
    (r : Registry) (as : List Arrival) :
    (∃ t', (w.receiveAll r as).ledger.task? id = some t' ∧
      t'.status = (lastTold id (·.status) (w.applied r as)).getD t.status ∧
      t'.mode = (lastTold id (·.mode) (w.applied r as)).getD t.mode ∧
      t'.metadata.nextRunAt =
        (lastTold id (·.nextRunAt) (w.applied r as)).or t.metadata.nextRunAt ∧
      t'.metadata.lastCompletedAt =
        (lastTold id (·.lastCompletedAt) (w.applied r as)).or t.metadata.lastCompletedAt ∧
      t'.metadata.lastFailReason =
        (lastTold id (·.lastFailReason) (w.applied r as)).or t.metadata.lastFailReason ∧
      (t'.metadata.lastRanAt.isSome ↔ t.metadata.lastRanAt.isSome ∨
        ∃ m, TaskMessage.report m ∈ w.applied r as ∧ m.taskId = id ∧ m.status = .processing)) ∧
    ∀ (m : StatusReport Json) (now : Instant),
      (TaskMessage.report m).applies { w.receiveAll r as with clock := now } = true ↔
        (∃ u, (w.receiveAll r as).ledger.task? m.taskId = some u ∧ u.type = m.taskType) ∧
          Applicable m := by
  constructor
  · obtain rfl := hw.indexed.task_id ht
    obtain ⟨t', ht', h⟩ := receiveAll_heeds hw r as ht
    refine ⟨t', ht', h.status, h.mode, h.nextRunAt, h.lastCompletedAt, h.lastFailReason,
      h.lastRanAt.trans (or_congr_right ?_)⟩
    constructor
    · rintro ⟨m, hm, hworks⟩
      obtain ⟨s, rfl, hs⟩ := works_iff.1 hworks
      exact ⟨s, hm, hs⟩
    · rintro ⟨s, hm, hs⟩
      exact ⟨_, hm, works_iff.2 ⟨s, rfl, hs⟩⟩
  · intro m now
    have hafter := (hw.receiveAll r as).outside (v := { w.receiveAll r as with clock := now }) rfl
      (Nat.le_refl _)
    exact applies_iff hafter m

/-- A task starts, fails, is disabled, and goes on without a word about its mode; a report that it
is done, with something else in place of the files that it brought, is refused. -/
theorem last_write_of_restarted :
    let clock := FetchReport.Sample.clock
    let id := FetchReport.Sample.fetching.id
    let report (status : TaskStatus) (mode : Option TaskMode) (content : Option Json) : Arrival :=
      ⟨clock, .taskStatus, .document (StatusReport.toJson (fun j => j)
        ⟨id, .dataFetch, status, mode, none, none, content⟩)⟩
    let as := [report .processing (some .enabled) none,
      ⟨clock, .taskStatusFailed, .document (Failure.toJson ⟨id, none, "no route", none⟩)⟩,
      ⟨clock, .taskModeChanged, .document (ModeChange.toJson ⟨[id, "stray"], .disabled⟩)⟩,
      report .waitingNextCycle none none,
      report .done (some .enabled) (some (.ofMembers [("data", .string "none")]))]
    let w := FetchReport.Sample.world
    (w.applied .standard as).length = 4 ∧
      ((w.receiveAll .standard as).ledger.task? id).map (fun t =>
          (t.status, t.mode, t.metadata.lastFailReason, t.metadata.lastRanAt.isSome)) =
        some (.waitingNextCycle, .disabled, some "no route", true) ∧
      ∃ t', (w.receiveAll .standard as).ledger.task? id = some t' ∧
        t'.mode = (lastTold id (·.mode) (w.applied .standard as)).getD .enabled := by
  intro clock id report as w
  have ht : w.ledger.task? id = some FetchReport.Sample.fetching := by rfl
  obtain ⟨⟨t', ht', -, hmode, -⟩, -⟩ :=
    last_write_wins FetchReport.Sample.world_reachable.consistent ht .standard as
  exact ⟨by decide +kernel, by decide +kernel, t', ht', hmode⟩

end World

end SensorTasks

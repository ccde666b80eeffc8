import SensorTasks.Proofs.Entries
import SensorTasks.Proofs.Footprint
import SensorTasks.Proofs.Rejection

/-!
Messages about tasks: reports, failures and changes of modes. A payload that comes in brings one of
them or leaves all tasks as they are. A report either changes nothing, or its content is taken into
account and then its task is patched; the other two patch the tasks that they name at once.
-/

namespace SensorTasks

open Message

/-- The result of a change of visibility that a payload brings, if it is read and accepted. -/
def Message.VisibilityResult.received? (r : Registry) (key : RoutingKey) (payload : Payload) :
    Option VisibilityResult :=
  match key, payload.read? with
  | .fileResultVisibilityState, some j =>
    match r.validate .fileResultVisibilityState j with
    | .error _ => none
    | .ok () => (decoder.fromValue j).toOption
  | _, _ => none

namespace Inbox

/-- A message about tasks. -/
inductive TaskMessage where
  | report (m : StatusReport Json)
  | failure (f : Failure)
  | modes (m : ModeChange)

namespace TaskMessage

/-- The tasks that the message names. -/
def names : TaskMessage → List TaskId
  | report m => [m.taskId]
  | failure f => [f.taskId]
  | modes m => m.taskIds

/-- Applies the message, and tells whether it was applied or dropped. -/
def handle : TaskMessage → Action HandlerError Bool
  | report m => do return (← Report.status m).isSome
  | failure f => do return (← Report.failure f).isSome
  | modes m => do
    let _ ← Report.modeChanged m
    return true

/-- The message in a document that came on a key. -/
def ofDocument? (key : RoutingKey) (j : Json) : Option TaskMessage :=
  match key with
  | .taskStatus | .taskStatusDataFetchResult | .taskStatusObjectSync
  | .taskStatusObjectSyncResult => ((StatusReport.decoder .json).fromValue j).toOption.map report
  | .taskStatusFailed => (Failure.decoder.fromValue j).toOption.map failure
  | .taskModeChanged => (ModeChange.decoder.fromValue j).toOption.map modes
  | _ => none

/-- The message that a payload brings, if it is read and accepted. -/
def received? (r : Registry) (key : RoutingKey) (payload : Payload) : Option TaskMessage :=
  match payload.read? with
  | none => none
  | some j =>
    match r.validate key j with
    | .error _ => none
    | .ok () => ofDocument? key j

variable {r : Registry} {key : RoutingKey} {payload : Payload} {j : Json} {m : TaskMessage}

/-- A message is decoded and then applied. -/
theorem handling_eq {α β : Type} {d : Json.Decoder α} {apply : α → Action HandlerError β}
    {make : α → TaskMessage} {told : β → Bool}
    (hmake : ∀ a, (make a).handle = apply a >>= fun b => pure (told b))
    (h : (d.fromValue j).toOption.map make = some m) :
    handling d apply key j = (do let _ ← m.handle; return ()) := by
  cases hd : d.fromValue j with
  | error e =>
    rw [hd] at h
    cases h
  | ok a =>
    rw [hd] at h
    obtain rfl := Option.some.inj h
    unfold handling decode
    rw [hd]
    simp only [hmake, pure_bind, bind_assoc]

theorem uses_handling {α β : Type} {d : Json.Decoder α} {apply : α → Action HandlerError β}
    {make : α → TaskMessage} {P : Command → Prop}
    (h : (d.fromValue j).toOption.map make = none) :
    (handling d apply key j).Uses P fun _ => True := by
  cases hd : d.fromValue j with
  | error e =>
    unfold handling decode
    rw [hd]
    exact .throw _
  | ok a =>
    rw [hd] at h
    cases h

theorem process_eq (h : received? r key payload = some m) :
    process r key payload = (do let _ ← m.handle; return ()).mapError ConsumeError.handler := by
  unfold received? at h
  cases hread : payload.read? with
  | none =>
    rw [hread] at h
    cases h
  | some j =>
    rw [hread] at h
    dsimp only at h
    cases haccepted : r.validate key j with
    | error e =>
      rw [haccepted] at h
      cases h
    | ok u =>
      rw [haccepted] at h
      dsimp only at h
      unfold process
      cases key <;> try cases h
      all_goals
        simp only [Handler.ofKey?, hread, haccepted]
        refine congrArg (Action.mapError ConsumeError.handler) ?_
        exact handling_eq (fun _ => rfl) h

/-- A payload that brings a message about tasks uses what applying the message uses. -/
theorem uses_process_of_handle {P : Command → Prop} (h : received? r key payload = some m)
    (hm : m.handle.Uses P fun _ => True) : (process r key payload).Uses P fun _ => True := by
  rw [process_eq h]
  exact Action.Uses.mapError (Action.Uses.bind (Q := fun _ => True) hm fun _ _ => .pure trivial) _

/-- What is left of a message that comes in is what applying it leaves. -/
theorem process_run (h : received? r key payload = some m) (w : World) :
    ((process r key payload).run.run w).2 = (m.handle.run.run w).2 := by
  rw [process_eq h, Action.run_mapError_run, Action.run_bind_run]
  rcases m.handle.run.run w with ⟨⟨e⟩ | ⟨b⟩, v⟩ <;> rfl

theorem handle_report_run (m : StatusReport Json) (w : World) :
    ((report m).handle.run.run w).2 = ((Report.status m).run.run w).2 := by
  unfold handle
  rw [Action.run_bind_run]
  rcases (Report.status m).run.run w with ⟨⟨e⟩ | ⟨t⟩, v⟩ <;> rfl

/-- A document that is no message about tasks touches nothing but the file that a result of a change
of visibility names. -/
theorem uses_handle {P : Command → Prop} {handler : Handler}
    (hkey : Handler.ofKey? key = some handler) (h : ofDocument? key j = none)
    (hresult : ∀ m, key = .fileResultVisibilityState →
      VisibilityResult.decoder.fromValue j = .ok m → ∀ p, Report.visibilityPatch? m = some p →
        P (.updateFile m.fileId p)) :
    (handler.handle key j).Uses P fun _ => True := by
  cases key <;> cases hkey
  case fileResultVisibilityState =>
    refine (Report.uses_decode _ _ j).bind fun m hm => ?_
    exact (Report.uses_visibility (hresult m rfl hm)).bind fun _ _ => .pure trivial
  all_goals exact uses_handling h

/-- A payload that brings no message about tasks touches nothing but the file that a result of a
change of visibility names. -/
theorem uses_process {P : Command → Prop} (h : received? r key payload = none)
    (hresult : ∀ m, VisibilityResult.received? r key payload = some m →
      ∀ p, Report.visibilityPatch? m = some p → P (.updateFile m.fileId p)) :
    (process r key payload).Uses P fun _ => True := by
  unfold received? at h
  unfold process
  cases hkey : Handler.ofKey? key with
  | none => exact .throw _
  | some handler =>
    cases hread : payload.read? with
    | none => exact .throw _
    | some j =>
      rw [hread] at h
      dsimp only at h ⊢
      cases haccepted : r.validate key j with
      | error e => exact .throw _
      | ok u =>
        rw [haccepted] at h
        refine (uses_handle hkey h fun m hk hm => hresult m ?_).mapError _
        subst hk
        simp only [VisibilityResult.received?, hread, haccepted, hm, Except.toOption]

/-- No payload brings a message about tasks and a result of a change of visibility. -/
theorem result_eq_none (h : received? r key payload = some m) :
    VisibilityResult.received? r key payload = none := by
  unfold received? at h
  unfold VisibilityResult.received?
  split
  · rename_i j hread
    rw [hread] at h
    dsimp only at h
    split
    · rfl
    · rename_i haccepted
      rw [haccepted] at h
      cases h
  · rfl

end TaskMessage

/-! ### What messages change -/

namespace Report

variable {w : World}

/-- A report either changes nothing, or it is applied: its content is taken into account, and then
its task is patched. -/
theorem status_run (hw : w.Consistent) (m : StatusReport Json) :
    ((status m).run.run w).2 = w ∧ (∀ t', ((status m).run.run w).1 ≠ .ok (some t')) ∨
      ∃ t p v, w.ledger.task? m.taskId = some t ∧ t.type = m.taskType ∧
        content m ≠ .unknown ∧ (content m).fault? = none ∧
        (applyContent t (basePatch m w.clock) (content m)).run.run w = (.ok (some p), v) ∧
        (status m).run.run w = (.ok (some (p.apply v.clock t)),
          { v with ledger := v.ledger.putTask (p.apply v.clock t) }) := by
  have hfate := status_fate hw m
  generalize hres : (status m).run.run w = res at hfate ⊢
  cases hfate with
  | unknownTask ht => exact Or.inl ⟨rfl, fun _ h => by cases h⟩
  | otherType ht htype => exact Or.inl ⟨rfl, fun _ h => by cases h⟩
  | unrecognised ht htype hc => exact Or.inl ⟨rfl, fun _ h => by cases h⟩
  | invalid ht htype he => exact Or.inl ⟨rfl, fun _ h => by cases h⟩
  | @applied t t' v' ht htype hc he =>
    obtain ⟨v, p, hrun, htasks⟩ := applyContent_run hw hc he t (basePatch m w.clock)
    have hv : v.ledger.task? t.id = some t := by
      rw [Ledger.task?, htasks]
      exact hw.indexed.task_id ht ▸ ht
    refine Or.inr ⟨t, p, v, ht, htype, hc, he, hrun, ?_⟩
    rw [← hres]
    unfold status
    rw [Action.run_perform_bind_run]
    simp only [Command.run, ht]
    rw [if_neg (not_not.2 htype), Action.run_perform_bind_run]
    simp only [Command.run]
    rw [Action.run_bind_run, hrun]
    exact updateTask_run hv p _

/-- A report is applied if its task is stored and of the reported type, and its content is known and
without fault. -/
theorem status_applied_iff (hw : w.Consistent) (m : StatusReport Json) :
    (∃ t', ((status m).run.run w).1 = .ok (some t')) ↔
      (∃ t, w.ledger.task? m.taskId = some t ∧ t.type = m.taskType) ∧
        content m ≠ .unknown ∧ (content m).fault? = none := by
  have hfate := status_fate hw m
  revert hfate
  generalize (status m).run.run w = res
  rintro (ht | ⟨ht, htype⟩ | ⟨ht, htype, hc⟩ | ⟨ht, htype, he⟩ | ⟨ht, htype, hc, he⟩)
  · simp [ht]
  · simp [ht, htype]
  · simp [hc]
  · simp [he]
  · simp [ht, htype, hc, he]

/-- The patch of a report that is applied brings what the report carries, and perhaps entries; until
then no task has changed. -/
theorem applyContent_kept {t : Task} {p p' : TaskPatch} {c : Content} {v : World}
    (h : (applyContent t p c).run.run w = (.ok (some p'), v)) :
    v.ledger.tasks = w.ledger.tasks ∧ p' = { p with fetchEntries := p'.fetchEntries } := by
  have huses := Program.Uses.run (keepsTasks_applyContent t (p := p) c)
    (K := fun v => v.ledger.tasks = w.ledger.tasks) (w := w)
    (fun c u hc hu => (Command.tasks_of_keepsTasks hc u).trans hu) rfl
  rw [h] at huses
  exact ⟨huses.1, huses.2 p' rfl⟩

end Report

end Inbox

/-! ### Operations -/

namespace Operation

open Inbox

/-- The result of a change of visibility that the operation handles, if it handles one. -/
def result? : Operation → Option VisibilityResult
  | handle r key payload => VisibilityResult.received? r key payload
  | _ => none

/-- The report about a task that the operation handles, if it handles one. -/
def report? : Operation → Option (StatusReport Json)
  | handle r key payload =>
    match TaskMessage.received? r key payload with
    | some (.report m) => some m
    | _ => none
  | _ => none

theorem report?_eq_some {op : Operation} {m : StatusReport Json} (h : op.report? = some m) :
    ∃ r key payload, op = .handle r key payload ∧
      TaskMessage.received? r key payload = some (.report m) := by
  unfold report? at h
  split at h
  · rename_i r key payload
    split at h
    · rename_i hreceived
      obtain rfl := Option.some.inj h
      exact ⟨r, key, payload, rfl, hreceived⟩
    · cases h
  · cases h

/-- An operation uses what services use, creates tasks and patches files, or does what applying the
message about tasks does that it handles. -/
theorem uses_program {P : Command → Prop} (hP : Serving P) (hstore : ∀ t, P (.createTask t))
    (hfile : ∀ id p, P (.updateFile id p)) {op : Operation}
    (h : ∀ r key payload m, op = .handle r key payload →
      TaskMessage.received? r key payload = some m → m.handle.Uses P fun _ => True) :
    op.program.Uses P fun _ => True := by
  by_cases hop : ∃ r key payload, op = .handle r key payload
  · obtain ⟨r, key, payload, rfl⟩ := hop
    cases hm : TaskMessage.received? r key payload with
    | none => exact uses_forget (TaskMessage.uses_process hm fun _ _ p _ => hfile _ p)
    | some m => exact uses_forget (TaskMessage.uses_process_of_handle hm (h _ _ _ m rfl hm))
  · exact uses_service hP hstore fun r key payload hr => hop ⟨r, key, payload, hr⟩

end Operation

end SensorTasks

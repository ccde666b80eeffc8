import SensorTasks.Proofs.Convergence
import SensorTasks.Proofs.Footprint
import SensorTasks.Proofs.Handling

/-!
Messages that are refused or dropped. Everything that can be wrong with a message shows before its
handler changes anything: what is decoded is decoded first, the task of a report is looked up first,
and from then on nothing fails. New files, sensors and groups cannot get in the way of the task that
is changed last, since none of them takes a task away. So a message that ends in an error, and one
that is dropped, leaves the world as it was.
-/

namespace SensorTasks

open Message

namespace Inbox

/-! ### What a report changes besides its task -/

/-- A run that takes over objects does not fail, and leaves the tasks alone. -/
theorem Synchronization.sync_run {w : World} (hw : w.Consistent) (objects : List ManagedObject) :
    ∃ v sum, (sync objects).run.run w = (.ok sum, v) ∧ v.ledger.tasks = w.ledger.tasks := by
  have htasks : ((sync objects).run.run w).2.ledger.tasks = w.ledger.tasks :=
    Program.Uses.tasks_run
      ((uses_sync objects).mono (fun _ => Command.keepsTasks_of_takesOver) fun _ h => h) w
  obtain ⟨sum, v, hrun, -⟩ := sync_complete hw objects
  rw [hrun] at htasks
  exact ⟨v, sum, hrun, htasks⟩

namespace Report

variable {w : World} {t : Task}

theorem exposeUploaded_run (w : World) (t : Task) :
    ∃ v, (exposeUploaded t).run.run w = (.ok (), v) ∧ v.ledger.tasks = w.ledger.tasks := by
  unfold exposeUploaded
  cases t.upload? with
  | none => exact ⟨w, rfl, rfl⟩
  | some u => exact ⟨_, rfl, Command.tasks_of_keepsTasks (c := .exposeFiles _ _) rfl w⟩

/-- Why a document is not what was wanted. -/
def faultOf {α : Type} (d : Json.Decoder α) (j : Json) : Option Json.DecodeError :=
  match d.fromValue j with
  | .ok _ => none
  | .error e => some e

/-- What is wrong with the content of a report that its handler has to decode. -/
def Content.fault? : Content → Option Json.DecodeError
  | .results j => faultOf FetchResult.listDecoder j
  | .objects j => faultOf ManagedObject.listDecoder j
  | .objectAmount j => faultOf objectAmountDecoder j
  | .uploaded | .nothing | .unknown => none

/-- What is decoded is decoded before anything is changed. -/
theorem decode_run {α : Type} (d : Json.Decoder α) (key : RoutingKey) (j : Json) :
    (∃ e, faultOf d j = some e ∧ decode d key j = throw (.invalidMessage key e.message)) ∨
      ∃ a, faultOf d j = none ∧ decode d key j = pure a := by
  unfold faultOf decode
  cases d.fromValue j with
  | ok a => exact Or.inr ⟨a, rfl, rfl⟩
  | error e => exact Or.inl ⟨e, rfl, rfl⟩

/-- Content at fault is refused before anything is changed. -/
theorem applyContent_of_fault {c : Content} {e : Json.DecodeError} (h : c.fault? = some e)
    (t : Task) (p : TaskPatch) (w : World) :
    (applyContent t p c).run.run w = (.error (.invalidMessage .taskStatus e.message), w) := by
  have hthrow : ∀ {α β : Type} (d : Json.Decoder α) (j : Json)
      (f : α → Action HandlerError β), faultOf d j = some e →
      (decode d .taskStatus j >>= f).run.run w =
        (.error (.invalidMessage .taskStatus e.message), w) := by
    intro α β d j f hd
    rcases decode_run d .taskStatus j with ⟨e', he', hrun⟩ | ⟨a, ha, -⟩
    · rw [hd, Option.some.injEq] at he'
      subst he'
      rw [hrun]
      rfl
    · rw [hd] at ha
      cases ha
  cases c with
  | results j => exact hthrow _ _ _ h
  | objects j => exact hthrow _ _ _ h
  | objectAmount j => exact hthrow _ _ _ h
  | uploaded => cases h
  | nothing => cases h
  | unknown => cases h

/-- Content that is known and without fault is taken into account, and the tasks stay. -/
theorem applyContent_run (hw : w.Consistent) {c : Content} (hc : c ≠ .unknown)
    (h : c.fault? = none) (t : Task) (p : TaskPatch) :
    ∃ v p', (applyContent t p c).run.run w = (.ok (some p'), v) ∧
      v.ledger.tasks = w.ledger.tasks := by
  have hpure : ∀ {α : Type} {d : Json.Decoder α} {j : Json}, faultOf d j = none →
      ∃ a, decode d .taskStatus j = pure a := by
    intro α d j hd
    rcases decode_run d .taskStatus j with ⟨e, he, -⟩ | ⟨a, -, ha⟩
    · rw [hd] at he
      cases he
    · exact ⟨a, ha⟩
  cases c with
  | results j =>
    obtain ⟨rs, hrs⟩ := hpure h
    simp only [applyContent, hrs, pure_bind]
    by_cases hempty : rs.isEmpty
    · rw [if_pos hempty]
      exact ⟨w, p, rfl, rfl⟩
    · rw [if_neg hempty, Action.run_bind_run]
      obtain ⟨v, fresh, -, -, htasks, -, hrun⟩ := FetchReport.reconcile_run (t := t) hw rs
      rw [hrun]
      exact ⟨v, _, rfl, htasks⟩
  | uploaded =>
    obtain ⟨v, hrun, htasks⟩ := exposeUploaded_run w t
    simp only [applyContent]
    rw [Action.run_bind_run, hrun]
    exact ⟨v, p, rfl, htasks⟩
  | objects j =>
    obtain ⟨os, hos⟩ := hpure h
    obtain ⟨v, sum, hrun, htasks⟩ := Synchronization.sync_run hw os
    simp only [applyContent, hos, pure_bind]
    rw [Action.run_bind_run, hrun]
    exact ⟨v, p, rfl, htasks⟩
  | objectAmount j =>
    obtain ⟨n, hn⟩ := hpure h
    simp only [applyContent, hn, pure_bind]
    exact ⟨w, p, rfl, rfl⟩
  | nothing => exact ⟨w, p, rfl, rfl⟩
  | unknown => exact absurd rfl hc

/-! ### What becomes of a report -/

/-- What a report about a task ends with, and the world after it. -/
inductive Fate (w : World) (m : StatusReport Json) :
    Except HandlerError (Option Task) × World → Prop where
  | unknownTask (ht : w.ledger.task? m.taskId = none) : Fate w m (.ok none, w)
  | otherType {t : Task} (ht : w.ledger.task? m.taskId = some t) (htype : t.type ≠ m.taskType) :
    Fate w m (.ok none, w)
  | unrecognised {t : Task} (ht : w.ledger.task? m.taskId = some t) (htype : t.type = m.taskType)
    (hc : content m = .unknown) : Fate w m (.ok none, w)
  | invalid {t : Task} {e : Json.DecodeError} (ht : w.ledger.task? m.taskId = some t)
    (htype : t.type = m.taskType) (he : (content m).fault? = some e) :
    Fate w m (.error (.invalidMessage .taskStatus e.message), w)
  | applied {t t' : Task} {v : World} (ht : w.ledger.task? m.taskId = some t)
    (htype : t.type = m.taskType) (hc : content m ≠ .unknown)
    (he : (content m).fault? = none) : Fate w m (.ok (some t'), v)

/-- A task that is there is changed. -/
theorem updateTask_run {ε : Type} {id : TaskId} (ht : w.ledger.task? id = some t) (p : TaskPatch)
    (f : Ledger.LedgerError → ε) :
    (some <$> (Action.updateTask id p).mapError f).run.run w =
      (.ok (some (p.apply w.clock t)),
        { w with ledger := w.ledger.putTask (p.apply w.clock t) }) := by
  have hcommand : (Action.updateTask id p).run.run w =
      (.ok (p.apply w.clock t),
        { w with ledger := w.ledger.putTask (p.apply w.clock t) }) :=
    Command.run_updateTask ht p
  rw [map_eq_pure_bind, Action.run_bind_run, Action.run_mapError_run, hcommand]
  rfl

theorem status_fate (hw : w.Consistent) (m : StatusReport Json) :
    Fate w m ((status m).run.run w) := by
  unfold status
  rw [Action.run_perform_bind_run]
  simp only [Command.run]
  cases ht : w.ledger.task? m.taskId with
  | none => exact .unknownTask ht
  | some t =>
    by_cases htype : t.type = m.taskType
    · dsimp only
      rw [if_neg (not_not.2 htype), Action.run_perform_bind_run]
      simp only [Command.run]
      rw [Action.run_bind_run]
      by_cases hc : content m = .unknown
      · rw [hc]
        exact .unrecognised ht htype hc
      · cases he : (content m).fault? with
        | some e =>
          rw [applyContent_of_fault he]
          exact .invalid ht htype he
        | none =>
          obtain ⟨v, p, hrun, htasks⟩ := applyContent_run hw hc he t (basePatch m w.clock)
          have hv : v.ledger.task? t.id = some t := by
            rw [Ledger.task?, htasks]
            exact hw.indexed.task_id ht ▸ ht
          rw [hrun]
          dsimp only
          rw [updateTask_run hv]
          exact .applied ht htype hc he
    · dsimp only
      rw [if_pos htype]
      exact .otherType ht htype

/-- A report is dropped by one of three reasons. -/
theorem status_dropped_iff (hw : w.Consistent) (m : StatusReport Json) :
    ((status m).run.run w).1 = .ok none ↔ w.ledger.task? m.taskId = none ∨
      (∃ t, w.ledger.task? m.taskId = some t ∧ t.type ≠ m.taskType) ∨ content m = .unknown := by
  have hfate := status_fate hw m
  revert hfate
  generalize (status m).run.run w = res
  rintro (ht | ⟨ht, htype⟩ | ⟨ht, htype, hc⟩ | ⟨ht, htype, he⟩ | ⟨ht, htype, hc, he⟩)
  · simp [ht]
  · simp [ht, htype]
  · simp [ht, hc]
  · have hc : content m ≠ .unknown := by
      intro hc
      rw [hc] at he
      cases he
    simp [ht, htype, hc]
  · simp [ht, htype, hc]

/-! ### Failures, modes and visibility -/

theorem unlessMissing_run {α : Type} (a : Action Ledger.LedgerError α) (w : World) :
    (unlessMissing a).run.run w =
      match a.run.run w with
      | (.ok x, v) => (.ok (some x), v)
      | (.error (.notFound ..), v) => (.ok none, v)
      | (.error e, v) => (.error (.ledger e), v) := by
  have hlift : (ExceptT.lift a.run : Action HandlerError (Except Ledger.LedgerError α)).run.run w =
      (.ok (a.run.run w).1, (a.run.run w).2) := Program.run_bind _ _ w
  unfold unlessMissing
  rw [Action.run_bind_run, hlift]
  rcases a.run.run w with ⟨⟨e⟩ | ⟨x⟩, v⟩
  · cases e <;> rfl
  · rfl

/-- Noting a failure only depends on whether the task is there. -/
theorem failure_run (w : World) (f : Failure) :
    w.ledger.task? f.taskId = none ∧ (failure f).run.run w = (.ok none, w) ∨
      ∃ t, w.ledger.task? f.taskId = some t ∧
        (failure f).run.run w = (.ok (some ((failurePatch f w.clock).apply w.clock t)),
          { w with ledger := w.ledger.putTask ((failurePatch f w.clock).apply w.clock t) }) := by
  unfold failure
  rw [Action.run_perform_bind_run, unlessMissing_run]
  simp only [Action.updateTask, Program.perform, ExceptT.run, Program.run_call, Program.run_done,
    Command.run, Ledger.updateTask]
  cases w.ledger.task? f.taskId with
  | none => exact Or.inl ⟨rfl, rfl⟩
  | some t => exact Or.inr ⟨t, rfl, rfl⟩

theorem failure_dropped_iff (w : World) (f : Failure) :
    ((failure f).run.run w).1 = .ok none ↔ w.ledger.task? f.taskId = none := by
  rcases failure_run w f with ⟨ht, hrun⟩ | ⟨t, ht, hrun⟩ <;> simp [hrun, ht]

/-- A change of modes that finds no task changes nothing. -/
theorem modeChanged_run (w : World) (m : ModeChange) :
    ∃ v n, (modeChanged m).run.run w = (.ok n, v) ∧
      ((∀ id ∈ m.taskIds, w.ledger.task? id = none) → v = w) := by
  refine ⟨_, _, rfl, fun hnone => ?_⟩
  have htasks : w.ledger.tasksOf m.taskIds = [] := List.filterMap_eq_nil_iff.2 hnone
  simp only [Command.run, Ledger.setModes, htasks, List.filter_nil, List.foldl_nil]

theorem visibility_run (w : World) (m : VisibilityResult) :
    (visibilityPatch? m = none ∨ w.ledger.file? m.fileId = none) ∧
        (visibility m).run.run w = (.ok none, w) ∨
      visibilityPatch? m ≠ none ∧ (w.ledger.file? m.fileId).isSome ∧
        ∃ v f, (visibility m).run.run w = (.ok (some f), v) := by
  unfold visibility
  cases hp : visibilityPatch? m with
  | none => exact Or.inl ⟨Or.inl rfl, rfl⟩
  | some p =>
    dsimp only
    rw [unlessMissing_run]
    simp only [Action.updateFile, Program.perform, ExceptT.run, Program.run_call, Program.run_done,
      Command.run, Ledger.updateFile]
    cases w.ledger.file? m.fileId with
    | none => exact Or.inl ⟨Or.inr rfl, rfl⟩
    | some f => exact Or.inr ⟨by simp, rfl, _, _, rfl⟩

theorem visibility_dropped_iff (w : World) (m : VisibilityResult) :
    ((visibility m).run.run w).1 = .ok none ↔
      visibilityPatch? m = none ∨ w.ledger.file? m.fileId = none := by
  rcases visibility_run w m with ⟨h, hrun⟩ | ⟨hp, hf, v, f, hrun⟩
  · simp [hrun, h]
  · simp [hrun, hp, Option.isSome_iff_ne_none.1 hf]

end Report

/-! ### Messages without a trace -/

/-- The key is one of those of the reports about the status of a task. -/
def isReport : RoutingKey → Bool
  | .taskStatus | .taskStatusDataFetchResult | .taskStatusObjectSync
  | .taskStatusObjectSyncResult => true
  | _ => false

/-- The message of a document is dropped by the handler of its key. -/
inductive Dropped (w : World) : RoutingKey → Json → Prop where
  /-- A report about a task that is not known. -/
  | unknownTask {key : RoutingKey} {j : Json} {m : StatusReport Json} (hkey : isReport key = true)
    (hm : (StatusReport.decoder .json).fromValue j = .ok m)
    (ht : w.ledger.task? m.taskId = none) : Dropped w key j
  /-- A report about a task that is of another type. -/
  | otherType {key : RoutingKey} {j : Json} {m : StatusReport Json} {t : Task}
    (hkey : isReport key = true) (hm : (StatusReport.decoder .json).fromValue j = .ok m)
    (ht : w.ledger.task? m.taskId = some t) (htype : t.type ≠ m.taskType) : Dropped w key j
  /-- A report whose type, status and content do not go together. -/
  | unrecognised {key : RoutingKey} {j : Json} {m : StatusReport Json} (hkey : isReport key = true)
    (hm : (StatusReport.decoder .json).fromValue j = .ok m)
    (hc : Report.content m = .unknown) : Dropped w key j
  /-- The failure of a task that is not known. -/
  | unknownFailure {j : Json} {f : Failure} (hf : Failure.decoder.fromValue j = .ok f)
    (ht : w.ledger.task? f.taskId = none) : Dropped w .taskStatusFailed j
  /-- Another mode of tasks none of which is known. -/
  | unknownModes {j : Json} {m : ModeChange} (hm : ModeChange.decoder.fromValue j = .ok m)
    (ht : ∀ id ∈ m.taskIds, w.ledger.task? id = none) : Dropped w .taskModeChanged j
  /-- Another visibility of a file that is not known. -/
  | unknownFile {j : Json} {m : VisibilityResult}
    (hm : VisibilityResult.decoder.fromValue j = .ok m) (hf : w.ledger.file? m.fileId = none) :
    Dropped w .fileResultVisibilityState j
  /-- The outcome of a change of visibility that tells neither what there is now nor what is
  wrong. -/
  | noOutcome {j : Json} {m : VisibilityResult}
    (hm : VisibilityResult.decoder.fromValue j = .ok m) (hp : Report.visibilityPatch? m = none) :
    Dropped w .fileResultVisibilityState j

variable {w : World} {key : RoutingKey} {j : Json}

/-- The handling of a message: it is decoded and then applied, and what comes of it is not told. -/
def handling {α β : Type} (d : Json.Decoder α) (apply : α → Action HandlerError β)
    (key : RoutingKey) (j : Json) : Action HandlerError Unit := do
  let m ← decode d key j
  let _ ← apply m
  return ()

theorem handling_of_error {α β : Type} {d : Json.Decoder α} {apply : α → Action HandlerError β}
    {e : Json.DecodeError} (h : d.fromValue j = .error e) :
    (handling d apply key j).run.run w = (.error (.invalidMessage key e.message), w) := by
  unfold handling
  rw [decode_of_error h]
  rfl

theorem handling_of_ok {α β : Type} {d : Json.Decoder α} {apply : α → Action HandlerError β} {m : α}
    (h : d.fromValue j = .ok m) :
    (handling d apply key j).run.run w =
      match (apply m).run.run w with
      | (.ok _, v) => (.ok (), v)
      | (.error e, v) => (.error e, v) := by
  unfold handling
  rw [decode_of_ok h, pure_bind, Action.run_bind_run]
  rcases (apply m).run.run w with ⟨⟨e⟩ | ⟨b⟩, v⟩ <;> rfl

theorem handle_report (hkey : isReport key = true) (j : Json) :
    Handler.handle .tasks key j = handling (StatusReport.decoder .json) Report.status key j := by
  cases key <;> first | rfl | cases hkey

theorem handle_failure (j : Json) : Handler.handle .tasks .taskStatusFailed j =
    handling Failure.decoder Report.failure .taskStatusFailed j :=
  rfl

theorem handle_modeChanged (j : Json) : Handler.handle .tasks .taskModeChanged j =
    handling ModeChange.decoder Report.modeChanged .taskModeChanged j :=
  rfl

theorem handle_visibility (j : Json) : Handler.handle .files .fileResultVisibilityState j =
    handling VisibilityResult.decoder Report.visibility .fileResultVisibilityState j :=
  rfl

/-- What comes of an action leaves no trace if it is an error, or if the message is dropped. -/
def Traceless {α : Type} (w : World) (key : RoutingKey) (j : Json) (a : Action HandlerError α) :
    Prop :=
  (∃ e, a.run.run w = (.error e, w)) ∨
    ∃ x v, a.run.run w = (.ok x, v) ∧ (Dropped w key j → v = w)

theorem handling_traceless {α β : Type} {d : Json.Decoder α} {apply : α → Action HandlerError β}
    (h : ∀ m, d.fromValue j = .ok m → Traceless w key j (apply m)) :
    Traceless w key j (handling d apply key j) := by
  cases hm : d.fromValue j with
  | error e => exact Or.inl ⟨_, handling_of_error hm⟩
  | ok m =>
    unfold Traceless
    rw [handling_of_ok hm]
    rcases h m hm with ⟨e, he⟩ | ⟨x, v, hx, hv⟩
    · rw [he]
      exact Or.inl ⟨e, rfl⟩
    · rw [hx]
      exact Or.inr ⟨(), v, rfl, hv⟩

theorem status_traceless (hw : w.Consistent) (hkey : isReport key = true) {m : StatusReport Json}
    (hm : (StatusReport.decoder .json).fromValue j = .ok m) :
    Traceless w key j (Report.status m) := by
  unfold Traceless
  have hfate := Report.status_fate hw m
  revert hfate
  generalize (Report.status m).run.run w = res
  rintro (ht | ⟨ht, htype⟩ | ⟨ht, htype, hc⟩ | ⟨ht, htype, he⟩ | ⟨ht, htype, hc, he⟩)
  · exact Or.inr ⟨_, w, rfl, fun _ => rfl⟩
  · exact Or.inr ⟨_, w, rfl, fun _ => rfl⟩
  · exact Or.inr ⟨_, w, rfl, fun _ => rfl⟩
  · exact Or.inl ⟨_, rfl⟩
  · -- none of the reasons to drop a report holds
    refine Or.inr ⟨_, _, rfl, fun hdropped => ?_⟩
    cases hdropped with
    | unknownTask _ hm' ht' =>
      obtain rfl := Except.ok.inj (hm.symm.trans hm')
      simp [ht] at ht'
    | otherType _ hm' ht' htype' =>
      obtain rfl := Except.ok.inj (hm.symm.trans hm')
      obtain rfl := Option.some.inj (ht.symm.trans ht')
      exact absurd htype htype'
    | unrecognised _ hm' hc' =>
      obtain rfl := Except.ok.inj (hm.symm.trans hm')
      exact absurd hc' hc
    | _ => cases hkey

theorem failure_traceless {f : Failure} (hf : Failure.decoder.fromValue j = .ok f) :
    Traceless w .taskStatusFailed j (Report.failure f) := by
  rcases Report.failure_run w f with ⟨-, hrun⟩ | ⟨t, ht, hrun⟩
  · exact Or.inr ⟨_, w, hrun, fun _ => rfl⟩
  · refine Or.inr ⟨_, _, hrun, fun hdropped => ?_⟩
    cases hdropped with
    | unknownFailure hf' ht' =>
      obtain rfl := Except.ok.inj (hf.symm.trans hf')
      simp [ht'] at ht
    | unknownTask hkey => cases hkey
    | otherType hkey => cases hkey
    | unrecognised hkey => cases hkey

theorem modeChanged_traceless {m : ModeChange} (hm : ModeChange.decoder.fromValue j = .ok m) :
    Traceless w .taskModeChanged j (Report.modeChanged m) := by
  obtain ⟨v, n, hrun, hv⟩ := Report.modeChanged_run w m
  refine Or.inr ⟨n, v, hrun, fun hdropped => ?_⟩
  cases hdropped with
  | unknownModes hm' ht =>
    obtain rfl := Except.ok.inj (hm.symm.trans hm')
    exact hv ht
  | unknownTask hkey => cases hkey
  | otherType hkey => cases hkey
  | unrecognised hkey => cases hkey

theorem visibility_traceless {m : VisibilityResult}
    (hm : VisibilityResult.decoder.fromValue j = .ok m) :
    Traceless w .fileResultVisibilityState j (Report.visibility m) := by
  rcases Report.visibility_run w m with ⟨-, hrun⟩ | ⟨hp, hf, v, f, hrun⟩
  · exact Or.inr ⟨_, w, hrun, fun _ => rfl⟩
  · refine Or.inr ⟨_, v, hrun, fun hdropped => ?_⟩
    cases hdropped with
    | unknownFile hm' hf' =>
      obtain rfl := Except.ok.inj (hm.symm.trans hm')
      simp [hf'] at hf
    | noOutcome hm' hp' =>
      obtain rfl := Except.ok.inj (hm.symm.trans hm')
      exact absurd hp' hp
    | unknownTask hkey => cases hkey
    | otherType hkey => cases hkey
    | unrecognised hkey => cases hkey

/-- A handler that refuses or drops a message has changed nothing. -/
theorem handle_traceless (hw : w.Consistent) (h : Handler) (key : RoutingKey) (j : Json)
    (hkey : Handler.ofKey? key = some h) : Traceless w key j (h.handle key j) := by
  cases key <;> cases hkey
  case taskStatusFailed => exact handling_traceless fun f => failure_traceless
  case taskModeChanged => exact handling_traceless fun m => modeChanged_traceless
  case fileResultVisibilityState => exact handling_traceless fun m => visibility_traceless
  all_goals exact handling_traceless fun m => status_traceless hw rfl

/-! ### Payloads -/

/-- The payload of some bytes; there is none if they are not text. -/
def payloadOf? (bytes : ByteArray) : Option Payload :=
  (String.fromUTF8? bytes).map .text

/-- Handles what came on a key. Bytes that are not text are not JSON either. -/
def receive (r : Registry) (key : RoutingKey) : Option Payload → Action ConsumeError Unit
  | some payload => process r key payload
  | none =>
    match Handler.ofKey? key with
    | none => throw (.noHandler key)
    | some _ => throw .notJson

theorem process_traceless (hw : w.Consistent) (r : Registry) (key : RoutingKey)
    (payload : Payload) :
    (∃ e, (process r key payload).run.run w = (.error e, w)) ∨
      ∃ v, (process r key payload).run.run w = (.ok (), v) ∧
        ∀ j, payload.read? = some j → Dropped w key j → v = w := by
  unfold process
  cases hkey : Handler.ofKey? key with
  | none => exact Or.inl ⟨_, rfl⟩
  | some h =>
    cases hread : payload.read? with
    | none => exact Or.inl ⟨_, rfl⟩
    | some j =>
      dsimp only
      cases r.validate key j with
      | error e => exact Or.inl ⟨_, rfl⟩
      | ok u =>
        dsimp only
        rw [Action.run_mapError_run]
        rcases handle_traceless hw h key j hkey with ⟨e, hrun⟩ | ⟨x, v, hrun, hv⟩
        · rw [hrun]
          exact Or.inl ⟨_, rfl⟩
        · rw [hrun]
          exact Or.inr ⟨v, rfl, fun j' hj' => Option.some.inj hj' ▸ hv⟩

/-- A message that ends in an error, and one that its handler drops, leaves the world as it was. -/
theorem receive_leaves_no_trace (hw : w.Reachable) (r : Registry) (key : RoutingKey)
    (payload : Option Payload) :
    (∀ e, ((receive r key payload).run.run w).1 = .error e →
      ((receive r key payload).run.run w).2 = w) ∧
    ∀ p j, payload = some p → p.read? = some j → Dropped w key j →
      ((receive r key payload).run.run w).2 = w := by
  cases payload with
  | none =>
    unfold receive
    cases Handler.ofKey? key <;> exact ⟨fun _ _ => rfl, fun _ _ hp => by cases hp⟩
  | some payload =>
    have hreceive : receive r key (some payload) = process r key payload := rfl
    rw [hreceive]
    rcases process_traceless hw.consistent r key payload with ⟨e, hrun⟩ | ⟨v, hrun, hv⟩
    · rw [hrun]
      exact ⟨fun _ _ => rfl, fun _ _ _ _ _ => rfl⟩
    · rw [hrun]
      refine ⟨fun e he => (by cases he), fun p j hp hj hdropped => ?_⟩
      obtain rfl := Option.some.inj hp
      exact hv j hj hdropped

/-- Bytes that are not text are refused, and the report of a task that is not known is dropped. -/
theorem receive_of_no_text :
    let w := FetchReport.Sample.world
    let bytes : Option Payload := payloadOf? ⟨#[0xff]⟩
    let stray := StatusReport.toJson id ⟨"stray", .objectSync, .done, none, none, none, none⟩
    ((receive .standard .taskStatus bytes).run.run w).1 = .error .notJson ∧
      ((receive .standard .taskStatus bytes).run.run w).2 = w ∧
      ((receive .standard .taskStatus (some (.document stray))).run.run w).1 = .ok () ∧
      ((receive .standard .taskStatus (some (.document stray))).run.run w).2 = w := by
  intro w bytes stray
  have hbytes : bytes = none := Option.isNone_iff_eq_none.1 (by decide +kernel)
  have hrefused : ((receive .standard .taskStatus bytes).run.run w).1 = .error .notJson := by
    rw [hbytes]
    rfl
  have hstray : (StatusReport.decoder .json).fromValue stray =
      .ok ⟨"stray", .objectSync, .done, none, none, none, none⟩ := by
    rfl
  have hdropped : Dropped w .taskStatus stray := .unknownTask rfl hstray (by rfl)
  have hall := receive_leaves_no_trace FetchReport.Sample.world_reachable .standard .taskStatus
  exact ⟨hrefused, (hall bytes).1 _ hrefused, by decide +kernel,
    (hall (some (.document stray))).2 _ _ rfl rfl hdropped⟩

end Inbox

end SensorTasks

import SensorTasks.Proofs.TaskMessage

/-!
What never changes about a task. A task that is stored stays, and everything about it stays but how
far it is and what a fetch has brought: patches have no other fields. And a message changes no task
but those that it names, since the id that it patches a task under is the one it found it by.
-/

namespace SensorTasks

open Message Inbox

/-! ### Identity -/

/-- The second task is the first one, perhaps further on. -/
structure Task.SameIdentity (t t' : Task) : Prop where
  id : t'.id = t.id
  name : t'.name = t.name
  type : t'.type = t.type
  initiatedByUser : t'.initiatedByUser = t.initiatedByUser
  createdAt : t'.createdAt = t.createdAt
  firstRunAt : t'.metadata.firstRunAt = t.metadata.firstRunAt
  recurrence : t'.metadata.recurrence = t.metadata.recurrence
  attributes : t'.attributes = t.attributes
  /-- The dates and the group of a fetch. -/
  fetch : t'.fetch?.map (fun w => (w.dateFrom, w.dateTo, w.group)) =
    t.fetch?.map fun w => (w.dateFrom, w.dateTo, w.group)
  /-- All of an upload. -/
  upload : t'.upload? = t.upload?

namespace Task.SameIdentity

variable {t t' t'' : Task}

theorem refl (t : Task) : t.SameIdentity t := ⟨rfl, rfl, rfl, rfl, rfl, rfl, rfl, rfl, rfl, rfl⟩

theorem trans (h : t.SameIdentity t') (h' : t'.SameIdentity t'') : t.SameIdentity t'' where
  id := h'.id.trans h.id
  name := h'.name.trans h.name
  type := h'.type.trans h.type
  initiatedByUser := h'.initiatedByUser.trans h.initiatedByUser
  createdAt := h'.createdAt.trans h.createdAt
  firstRunAt := h'.firstRunAt.trans h.firstRunAt
  recurrence := h'.recurrence.trans h.recurrence
  attributes := h'.attributes.trans h.attributes
  fetch := h'.fetch.trans h.fetch
  upload := h'.upload.trans h.upload

/-- Patches leave the identity of a task as it is, also those that do not go with its work. -/
theorem apply (p : TaskPatch) (now : Instant) (t : Task) : t.SameIdentity (p.apply now t) where
  id := rfl
  name := rfl
  type := TaskPatch.apply_type
  initiatedByUser := rfl
  createdAt := rfl
  firstRunAt := rfl
  recurrence := rfl
  attributes := rfl
  fetch := by
    unfold Task.fetch? TaskPatch.apply
    cases t.work <;> rfl
  upload := by
    unfold Task.upload? TaskPatch.apply
    cases t.work <;> rfl

end Task.SameIdentity

/-- The command touches no tasks but those of the ids. -/
inductive Command.TouchesOnly (ids : List TaskId) : Command → Prop where
  | updateTask {id : TaskId} {p : TaskPatch} (h : id ∈ ids) : TouchesOnly ids (.updateTask id p)
  | setModes {listed : List TaskId} {mode : TaskMode} (h : listed ⊆ ids) :
    TouchesOnly ids (.setModes listed mode)
  | other {c : Command} (h : c.keepsTasks = true) : TouchesOnly ids c

theorem Command.TouchesOnly.run {ids : List TaskId} {c : Command} {w : World}
    (h : TouchesOnly ids c) (hw : w.Consistent) {id : TaskId} (hid : id ∉ ids) :
    (c.run w).2.ledger.task? id = w.ledger.task? id := by
  cases h with
  | @updateTask tid p hmem =>
    have hne : id ≠ tid := fun he => hid (he ▸ hmem)
    exact World.commit_induction (motive := (·.ledger.task? id = w.ledger.task? id)) rfl
      fun t l hl => (hw.indexed.task?_updateTask hl id).trans (if_neg hne)
  | @setModes listed mode hlisted =>
    exact (World.task?_setModes hw.indexed.task_id listed mode w.clock id).trans
      (if_neg fun hmem => hid (hlisted hmem))
  | other hk =>
    unfold Ledger.task?
    rw [tasks_of_keepsTasks hk]

variable {ids : List TaskId} {past : List Event} {w : World}

/-- The action touches no tasks but those of the ids, whatever others do in between. -/
def Action.TouchesOnly {ε α : Type} (ids : List TaskId) (a : Action ε α) (past : List Event)
    (w : World) : Prop :=
  a.run.Obeys .consistency (fun _ _ c => c.TouchesOnly ids) (fun _ _ _ => True) past w

namespace Action.TouchesOnly

variable {ε ε' α β : Type}

theorem of_uses {a : Action ε α} {Q : α → Prop} (h : a.Uses (·.TouchesOnly ids) Q) :
    a.TouchesOnly ids past w :=
  (Program.Uses.obeys h (fun _ _ _ h => h) past w).mono (fun _ _ _ _ h => h) fun _ _ _ _ _ =>
    trivial

theorem bind {a : Action ε α} {f : α → Action ε β} (h : a.TouchesOnly ids past w)
    (hf : ∀ x past v, (f x).TouchesOnly ids past v) : (a >>= f).TouchesOnly ids past w := by
  unfold TouchesOnly
  rw [run_bind]
  refine Program.Obeys.bind (Program.Obeys.mono h (fun _ _ _ _ h => h) fun past' v r _ _ => ?_)
  cases r with
  | ok x => exact hf x past' v
  | error e => exact fun _ _ _ => trivial

theorem mapError {a : Action ε α} (h : a.TouchesOnly ids past w) (f : ε → ε') :
    (a.mapError f).TouchesOnly ids past w := by
  unfold TouchesOnly
  rw [run_mapError]
  refine Program.Obeys.bind (Program.Obeys.mono h (fun _ _ _ _ h => h) fun past' v r _ _ => ?_)
  cases r <;> exact fun _ _ _ => trivial

theorem pure (x : α) : (Pure.pure x : Action ε α).TouchesOnly ids past w := fun _ _ _ => trivial

theorem perform_bind {c : Command} {f : c.Answer → Action ε α} (hc : c.TouchesOnly ids)
    (hf : ∀ v, v.Consistent → (f (c.run v).1).TouchesOnly ids (past ++ [⟨c, (c.run v).1⟩])
      (c.run v).2) : (Action.perform c >>= f).TouchesOnly ids past w :=
  fun v hv _ => ⟨hc, fun _ _ => hf v hv⟩

end Action.TouchesOnly

namespace Inbox

namespace Report

/-- A report touches its task only: the id that it patches is that of the task that it found. -/
theorem touchesOnly_status (m : StatusReport Json) : (status m).TouchesOnly [m.taskId] past w := by
  refine .perform_bind (.other rfl) fun v hv => ?_
  simp only [Command.run]
  cases ht : v.ledger.task? m.taskId with
  | none => exact .pure none
  | some t =>
    have hid : t.id ∈ [m.taskId] := List.mem_singleton.2 (hv.indexed.task_id ht)
    dsimp only
    split
    · exact .pure none
    · refine .perform_bind (.other rfl) fun u _ => ?_
      refine Action.TouchesOnly.bind (.of_uses ((keepsTasks_applyContent t (content m)).mono
        (fun _ => .other) fun _ h => h)) fun patch past v => ?_
      cases patch with
      | none => exact .pure none
      | some p =>
        have hupdate : (Action.updateTask t.id p).TouchesOnly [m.taskId] past v :=
          .of_uses (Action.uses_updateTask (.updateTask hid))
        show Action.TouchesOnly _ (some <$> (Action.updateTask t.id p).mapError _) past v
        rw [map_eq_pure_bind]
        exact (hupdate.mapError _).bind fun t _ _ => .pure _

end Report

/-- The tasks that are named in the message that a payload brings; none if it brings no message. -/
def namedBy (r : Registry) (key : RoutingKey) (payload : Payload) : List TaskId :=
  match TaskMessage.received? r key payload with
  | some m => m.names
  | none => []

theorem TaskMessage.touchesOnly_handle (m : TaskMessage) :
    m.handle.TouchesOnly m.names past w := by
  cases m with
  | report m => exact (Report.touchesOnly_status m).bind fun _ _ _ => .pure _
  | failure f =>
    exact (Action.TouchesOnly.of_uses (Report.uses_failure (.other rfl)
      fun _ => .updateTask (List.mem_singleton_self _))).bind fun _ _ _ => .pure _
  | modes m =>
    exact .of_uses (Q := fun _ => True) ⟨.setModes (List.Subset.refl _), fun _ => trivial⟩

/-- A message that comes in touches no tasks but those that it names. -/
theorem touchesOnly_process (r : Registry) (key : RoutingKey) (payload : Payload) :
    (process r key payload).TouchesOnly (namedBy r key payload) past w := by
  unfold namedBy
  cases hm : TaskMessage.received? r key payload with
  | none =>
    exact .of_uses (TaskMessage.uses_process hm fun _ _ _ _ => .other rfl)
  | some m =>
    rw [TaskMessage.process_eq hm]
    exact ((TaskMessage.touchesOnly_handle m).bind fun _ _ _ => .pure ()).mapError _

end Inbox

/-! ### Runs -/

namespace Operation

/-- The operation of the thread has touched no tasks but those of the ids, and will not do so. -/
structure Keeping (ids : List TaskId) (k : Nat) (s : State) : Prop where
  lt : k < s.1.length
  obeys : ∀ t : Thread Unit, s.1[k]? = some t →
    t.rest.Obeys .consistency (fun _ _ c => c.TouchesOnly ids) (fun _ _ _ => True) t.past s.2

variable {ts : List (Thread Unit)} {v : World} {k : Nat}

theorem Keeping.begin (h : Keeping ids k (ts, w)) (p : Program Unit) :
    Keeping ids k (ts ++ [Thread.start p], w) := by
  refine ⟨Nat.lt_of_lt_of_le h.lt (by simp), fun t ht => h.obeys t ?_⟩
  rwa [List.getElem?_append_left h.lt] at ht

theorem Keeping.later (h : Keeping ids k (ts, w)) (hn : w.nextNumber ≤ v.nextNumber) :
    Keeping ids k (ts, v) :=
  ⟨h.lt, fun t ht => (h.obeys t ht).later hn⟩

theorem Keeping.act (h : Keeping ids k (ts, w)) {i : Nat} {c : Command}
    {next : c.Answer → Program Unit} (hi : ts[i]? = some ⟨past, .call c next⟩)
    (hw : w.Consistent) (hrun : (c.run w).2.Consistent) :
    Keeping ids k (ts.set i (Thread.after past c next w), (c.run w).2) := by
  refine ⟨by simpa using h.lt, fun t ht => ?_⟩
  rcases Thread.of_set ht with ⟨rfl, rfl⟩ | ⟨-, ht⟩
  · exact (h.obeys _ hi w hw (Nat.le_refl _)).2 hrun (c.le_nextNumber w)
  · exact (h.obeys t ht).later (c.le_nextNumber w)

/-- The next command of the thread leaves other tasks as they are. -/
theorem Keeping.turn {s : State} (h : Keeping ids k s) (hw : s.2.Consistent) {id : TaskId}
    (hid : id ∉ ids) : (Thread.turn s k).2.ledger.task? id = s.2.ledger.task? id := by
  obtain ⟨ts, w⟩ := s
  unfold Thread.turn
  split
  · rename_i past c next hk
    exact (h.obeys _ hk w hw (Nat.le_refl _)).1.run hw hid
  · rfl

end Operation

end SensorTasks

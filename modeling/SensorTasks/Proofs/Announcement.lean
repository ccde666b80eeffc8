import SensorTasks.Lifecycle.Scheduling
import SensorTasks.Proofs.Building
import SensorTasks.Proofs.Decoding

/-!
Creating tasks and announcing them, by any number of callers at once. A caller looks up all that it
needs before it changes anything; once its task is stored, nothing can go wrong any more. So a call
that fails has changed nothing, and one that succeeds has stored its task, counted it and published
its message, in this order. Names are kept apart by the ledger: when two callers race for one, the
second task is refused.
-/

namespace SensorTasks

open Message

/-! ### Announcements -/

/-- The document says of the task what it is, and is one that may be sent. -/
structure Announces (o : Outbox) (t : Task) (j : Json) : Prop where
  taskId : j.get? "taskId" = some (.string t.id)
  taskName : j.get? "taskName" = some (.string t.name)
  taskType : j.get? "taskType" = some (.string t.type.name)
  accepted : o.registry.validate t.type.scheduledKey j = .ok ()

/-- What the message of a task says of it. -/
theorem Message.Scheduled.toJson_get? (m : Scheduled ScheduledWork) :
    (m.toJson ScheduledWork.toJson).get? "taskId" = some (.string m.taskId) ∧
      (m.toJson ScheduledWork.toJson).get? "taskName" = some (.string m.taskName) ∧
      (m.toJson ScheduledWork.toJson).get? "taskType" = some (.string m.taskType.name) := by
  unfold Scheduled.toJson Json.ofMembers Json.get? Json.extendMembers Json.optional
  cases m.recurrence <;> simp [Json.lookup_insertMember, TaskType.toJson]

/-! ### What a call does -/

/-- The event changed nothing: a lookup, or a task that was refused. -/
def Event.isQuiet : Event → Bool
  | ⟨.createTask _, .error _⟩ => true
  | ⟨c, _⟩ => c.isLookup

/-- The events that changed something, in their order. -/
def effects (past : List Event) : List Event := past.filter fun e => !e.isQuiet

/-- The effects of a call that succeeds. -/
def announcement (o : Outbox) (t : Task) (j : Json) : List Event :=
  [⟨.createTask t, .ok ()⟩, ⟨.count .tasksCreated, ()⟩,
    ⟨.publish o.exchange t.type.scheduledKey (.document j), ()⟩, ⟨.count .messagesPublished, ()⟩]

theorem isQuiet_of_isLookup {e : Event} (h : e.command.isLookup = true) : e.isQuiet = true := by
  obtain ⟨c, answer⟩ := e
  cases c <;> first | exact h | cases h

theorem LooksOnly.effects_eq {past past' : List Event} (h : LooksOnly past past') :
    effects past' = effects past := by
  obtain ⟨more, rfl, hmore⟩ := h
  have hquiet : effects more = [] := by
    rw [effects, List.filter_eq_nil_iff]
    intro e he
    simp [isQuiet_of_isLookup (hmore e he)]
  rw [effects, List.filter_append]
  exact (congrArg (effects past ++ ·) hquiet).trans (List.append_nil _)

/-- An effect comes after those that were there. -/
theorem effects_append {past done : List Event} (hdone : effects past = done) {e : Event}
    (h : e.isQuiet = false) : effects (past ++ [e]) = done ++ [e] := by
  rw [← hdone]
  simp [effects, h]

theorem effects_append_quiet (past : List Event) {e : Event} (h : e.isQuiet = true) :
    effects (past ++ [e]) = effects past := by
  simp [effects, h]

/-- The rules of a call: it looks things up, stores a new task as its first effect, and then
announces it. -/
def mayAnnounce (o : Outbox) : Rules := fun past _ c =>
  c.isLookup = true ∨
    (∃ t, c = .createTask t ∧ effects past = [] ∧ Creation.NewTask past t) ∨
    ∃ t j answer rest, Announces o t j ∧ effects past ≠ [] ∧
      announcement o t j = effects past ++ ⟨c, answer⟩ :: rest

/-- What is wanted of a call. -/
def announced (o : Outbox) (r : TaskRequest) : Goal (Except TaskError Task) :=
  Action.endsIn
    (fun past _ t => (∀ name, r.givenName = some name → t.name = name) ∧
      ∃ j, Announces o t j ∧ effects past = announcement o t j)
    fun past _ _ => effects past = []

/-- The next event of the announcement. -/
theorem mayAnnounce_next {o : Outbox} {t : Task} {j : Json} {past done rest : List Event}
    {w : World} {c : Command} {answer : c.Answer} (hj : Announces o t j)
    (hdone : effects past = done) (hne : done ≠ [])
    (h : announcement o t j = done ++ ⟨c, answer⟩ :: rest) : mayAnnounce o past w c := by
  subst hdone
  exact Or.inr (Or.inr ⟨t, j, answer, rest, hj, hne, h⟩)

theorem mayAnnounce_lookup {o : Outbox} (past : List Event) (w : World) (c : Command)
    (h : c.isLookup = true) : mayAnnounce o past w c :=
  Or.inl h

namespace Scheduling

theorem reads_checkName (r : TaskRequest) : (checkName r).Reads fun _ => True := by
  unfold checkName
  split
  · exact Action.reads_pure trivial
  · refine Action.reads_perform_bind rfl fun found => ?_
    split
    · exact Action.reads_throw _
    · exact Action.reads_pure trivial

theorem reads_scheduledWork (t : Task) : (scheduledWork t).Reads fun _ => True := by
  unfold scheduledWork
  split
  · refine Action.Reads.bind (Q := fun _ => True) ?_ fun _ _ => Action.reads_pure trivial
    refine (Action.reads_orFail (Q := fun _ => True) fun _ _ => trivial).bind fun dateFrom _ => ?_
    exact Action.reads_perform_bind rfl fun sensors => Action.reads_pure trivial
  · exact Action.reads_pure trivial
  · exact Action.reads_pure trivial

/-- The message of a task says what the task is. -/
theorem reads_message (t : Task) :
    (message t).Reads fun m => m.taskId = t.id ∧ m.taskName = t.name ∧ m.taskType = t.type :=
  (reads_scheduledWork t).bind fun _ _ => Action.reads_pure ⟨rfl, rfl, rfl⟩

/-- A call keeps to its rules and comes to what is wanted of it, whatever the others do. -/
theorem obeys_createAndSchedule {R : Rely} (o : Outbox) (user : UserId) (r : TaskRequest)
    (w : World) :
    (createAndSchedule o user r).run.Obeys R (mayAnnounce o) (announced o r) [] w := by
  have ha := mayAnnounce_lookup (o := o)
  unfold createAndSchedule announced
  refine (reads_checkName r).obeys_bind ha (fun _ p₁ v₁ _ h₁ _ => ?_) fun _ _ _ h _ => h.effects_eq
  refine Action.obeys_bind ((Creation.obeys_build ha user r p₁ v₁).mono (fun _ _ _ _ h => h)
    fun p₂ v₂ res _ hres => ?_)
  cases res with
  | error e => exact fun _ _ _ => (h₁.trans hres).effects_eq
  | ok t =>
    obtain ⟨h₂, hname, hnew⟩ := hres
    refine ((reads_message t).mapError _).obeys_bind ha (fun m p₃ v₃ hm h₃ _ => ?_)
      fun _ _ _ h _ => (h₁.trans (h₂.trans h)).effects_eq
    have hquiet : effects p₃ = [] := (h₁.trans (h₂.trans h₃)).effects_eq
    obtain ⟨hmid, hmname, hmtype⟩ := m.toJson_get?
    rw [hm.1] at hmid
    rw [hm.2.1] at hmname
    rw [hm.2.2] at hmtype
    dsimp only
    cases hvalid : o.registry.validate t.type.scheduledKey (m.toJson ScheduledWork.toJson) with
    | error e => exact fun _ _ _ => hquiet
    | ok u =>
      have hj : Announces o t (m.toJson ScheduledWork.toJson) := ⟨hmid, hmname, hmtype, hvalid⟩
      refine Action.obeys_bind ((Creation.obeys_store fun v _ =>
        Or.inr (Or.inl ⟨t, rfl, hquiet, hnew.looksOnly h₃⟩)).mono (fun _ _ _ _ h => h)
          fun p₄ v₄ res _ hres => ?_)
      cases res with
      | error e =>
        obtain ⟨e', rfl⟩ := hres
        exact fun _ _ _ => (effects_append_quiet p₃ rfl).trans hquiet
      | ok u =>
        let created : Event := ⟨.createTask t, .ok ()⟩
        let counted : Event := ⟨.count .tasksCreated, ()⟩
        let sent : Event :=
          ⟨.publish o.exchange t.type.scheduledKey (.document (m.toJson ScheduledWork.toJson)), ()⟩
        have hp₄ : p₄ = p₃ ++ [created] := hres
        subst hp₄
        -- every step appends the next event of the announcement
        have h₁ : effects (p₃ ++ [created]) = [created] := effects_append hquiet rfl
        have h₂ : effects (p₃ ++ [created] ++ [counted]) = [created, counted] :=
          effects_append h₁ rfl
        have h₃ : effects (p₃ ++ [created] ++ [counted] ++ [sent]) = [created, counted, sent] :=
          effects_append h₂ rfl
        intro v₅ _ _
        refine ⟨mayAnnounce_next hj h₁ (List.cons_ne_nil _ _) rfl, fun _ _ => ?_⟩
        intro v₆ _ _
        refine ⟨mayAnnounce_next hj h₂ (List.cons_ne_nil _ _) rfl, fun _ _ => ?_⟩
        intro v₇ _ _
        refine ⟨mayAnnounce_next hj h₃ (List.cons_ne_nil _ _) rfl, fun _ _ => ?_⟩
        exact fun _ _ _ => ⟨hname, _, hj, effects_append h₃ rfl⟩

/-! ### Calls that take turns -/

/-- Others may store tasks, but those that are stored stay as they are. -/
def storing : Rely where
  holds := World.Consistent
  later u v := u.nextNumber ≤ v.nextNumber ∧
    ∀ id t, u.ledger.task? id = some t → v.ledger.task? id = some t
  refl _ := ⟨Nat.le_refl _, fun _ _ h => h⟩
  trans h h' := ⟨Nat.le_trans h.1 h'.1, fun id t ht => h'.2 id t (h.2 id t ht)⟩

/-- Storing a task: its name was free, and it is the only one that is new. -/
theorem createTask_ok {l l' : Ledger} {t : Task} (h : l.createTask t = .ok l') :
    l.taskNames.contains (Ledger.Key.taskName t.name) = false ∧
      ∀ id, l'.task? id = if id = t.id then some t else l.task? id :=
  ⟨(Ledger.createTask_eq_ok h).1, Ledger.task?_createTask h⟩

theorem run_createTask_ok {w : World} {t : Task}
    (h : ((Command.createTask t).run w).1 = .ok ()) :
    w.ledger.taskNames.contains (Ledger.Key.taskName t.name) = false ∧
      ∀ id, ((Command.createTask t).run w).2.ledger.task? id =
        if id = t.id then some t else w.ledger.task? id := by
  cases hl : w.ledger.createTask t with
  | ok l =>
    have hrun : (Command.createTask t).run w = (.ok (), { w with ledger := l }) := by
      simp only [Command.run, hl, World.commitUnit]
    rw [hrun]
    exact createTask_ok hl
  | error e =>
    simp only [Command.run, hl, World.commitUnit] at h
    cases h

theorem run_createTask_error {w : World} {t : Task} {e : Ledger.LedgerError}
    (h : ((Command.createTask t).run w).1 = .error e) :
    ((Command.createTask t).run w).2 = w := by
  cases hl : w.ledger.createTask t with
  | ok l =>
    simp only [Command.run, hl, World.commitUnit] at h
    cases h
  | error e => simp only [Command.run, hl, World.commitUnit]

/-- After its first effect a call only counts and publishes. -/
theorem counts_or_publishes {o : Outbox} {t : Task} {j : Json} {past rest : List Event}
    {c : Command} {answer : c.Answer} (hne : past ≠ [])
    (h : announcement o t j = past ++ ⟨c, answer⟩ :: rest) :
    (∃ counter, c = .count counter) ∨
      ∃ exchange key payload, c = .publish exchange key payload := by
  obtain ⟨e, past, rfl⟩ := List.exists_cons_of_ne_nil hne
  have hmem : (⟨c, answer⟩ : Event) ∈ (announcement o t j).tail := by
    rw [h]
    simp
  simp only [announcement, List.tail_cons, List.mem_cons, List.not_mem_nil, or_false,
    Event.mk.injEq] at hmem
  rcases hmem with ⟨rfl, -⟩ | ⟨rfl, -⟩ | ⟨rfl, -⟩
  · exact Or.inl ⟨_, rfl⟩
  · exact Or.inr ⟨_, _, _, rfl⟩
  · exact Or.inl ⟨_, rfl⟩

theorem ledger_of_announcement {o : Outbox} {t : Task} {j : Json} {past rest : List Event}
    {c : Command} {answer : c.Answer} (hne : past ≠ [])
    (h : announcement o t j = past ++ ⟨c, answer⟩ :: rest) (w : World) :
    (c.run w).2.ledger = w.ledger ∧ c.newId? = none ∧ c.Fresh w := by
  rcases counts_or_publishes hne h with ⟨counter, rfl⟩ | ⟨exchange, key, payload, rfl⟩ <;>
    exact ⟨rfl, rfl, trivial⟩

/-- Whoever publishes has stored the task that the message is about. -/
theorem of_published {o : Outbox} {t : Task} {j : Json} {past rest : List Event}
    {exchange : String} {key : RoutingKey} {payload : Payload} (hne : effects past ≠ [])
    (h : announcement o t j = effects past ++ ⟨.publish exchange key payload, ()⟩ :: rest) :
    Event.mk (.createTask t) (.ok ()) ∈ past ∧ exchange = o.exchange ∧
      key = t.type.scheduledKey ∧ payload = .document j := by
  constructor
  · obtain ⟨e, more, he⟩ := List.exists_cons_of_ne_nil hne
    rw [he] at h
    obtain rfl : Event.mk (.createTask t) (.ok ()) = e := (List.cons.inj h).1
    have hmem : Event.mk (.createTask t) (.ok ()) ∈ effects past := by
      rw [he]
      exact List.mem_cons_self
    exact (List.mem_filter.1 hmem).1
  · have hmem : Event.mk (.publish exchange key payload) () ∈ announcement o t j := by
      rw [h]
      simp
    simpa [announcement] using hmem

theorem owns_of_mayAnnounce {o : Outbox} {past : List Event} {w : World} {c : Command}
    (h : mayAnnounce o past w c) : OwnsNewId past c := by
  rcases h with h | ⟨t, rfl, -, h⟩ | ⟨t, j, answer, rest, -, hne, h⟩
  · exact ownsNewId_of_none (Command.newId?_of_isLookup h)
  · exact h.ownsNewId
  · exact ownsNewId_of_none (ledger_of_announcement hne h w).2.1

/-- What a call may do keeps the world consistent and all tasks that are stored. -/
theorem kept_of_mayAnnounce {o : Outbox} {past : List Event} {w : World} {c : Command}
    (hw : w.Consistent) (h : mayAnnounce o past w c) (hfree : Thread.NewIdFree w c) :
    storing.holds (c.run w).2 ∧ storing.later w (c.run w).2 := by
  rcases h with h | ⟨t, rfl, -, hnew⟩ | ⟨t, j, answer, rest, -, hne, h⟩
  · refine ⟨hw.run (Command.fresh_of_isLookup h w), c.le_nextNumber w, fun id t ht => ?_⟩
    rw [Command.ledger_of_isLookup h, ht]
  · obtain ⟨hunused, hold⟩ := hfree t.id rfl
    have hids : t.IdsAre w.Old := ⟨hold, fun e he f hf => by
      rw [hnew.entries.fileId e he] at hf
      cases hf⟩
    refine ⟨hw.run (c := .createTask t) ⟨hunused.task, hids⟩, Command.le_nextNumber _ w,
      fun id u hu => ?_⟩
    cases hrun : ((Command.createTask t).run w).1 with
    | ok _ =>
      rw [(run_createTask_ok hrun).2, if_neg, hu]
      rintro rfl
      rw [hunused.task] at hu
      cases hu
    | error e => rw [run_createTask_error hrun, hu]
  · obtain ⟨hl, -, hfresh⟩ := ledger_of_announcement hne h w
    exact ⟨hw.run hfresh, c.le_nextNumber w, fun id t ht => by rw [hl, ht]⟩

/-- A task that was stored is still there. -/
theorem stored_of_recorded {o : Outbox} {past : List Event} {w : World} {t : Task}
    (h : Thread.Recorded storing (mayAnnounce o) past w)
    (ht : Event.mk (.createTask t) (.ok ()) ∈ past) : w.ledger.task? t.id = some t := by
  obtain ⟨before, after, rfl⟩ := List.append_of_mem ht
  obtain ⟨v, -, -, hanswer, -, hlater⟩ := h before _ after rfl
  refine hlater.2 t.id t ?_
  rw [(run_createTask_ok hanswer.symm).2, if_pos rfl]

/-- A call that takes turns with others. -/
abbrev Call := Thread (Except TaskError Task)

/-- Every stored task was there before or was stored by a call, and no two calls have stored tasks
of one name. -/
structure StoredBy (w₀ : World) (s : List Call × World) : Prop where
  origin : ∀ id t, s.2.ledger.task? id = some t → w₀.ledger.task? id = some t ∨
    ∃ (i : Nat) (call : Call), s.1[i]? = some call ∧ Event.mk (.createTask t) (.ok ()) ∈ call.past
  names : ∀ (i i' : Nat) (call call' : Call) t t', i ≠ i' → s.1[i]? = some call →
    s.1[i']? = some call' → Event.mk (.createTask t) (.ok ()) ∈ call.past →
    Event.mk (.createTask t') (.ok ()) ∈ call'.past → t.name ≠ t'.name

theorem StoredBy.start {ι : Type} {xs : List ι} {f : ι → Program (Except TaskError Task)}
    (w : World) : StoredBy w (xs.map fun x => Thread.start (f x), w) where
  origin id t ht := Or.inl ht
  names i i' call call' t t' _ hi _ ht _ := by
    obtain ⟨x, -, rfl⟩ := Thread.of_start hi
    cases ht

/-- A task that a call stores has a name that no task has which is stored already. -/
theorem name_ne_of_createTask {w : World} (hw : w.Consistent) {t u : Task} {id : TaskId}
    (ht : ((Command.createTask t).run w).1 = .ok ()) (hu : w.ledger.task? id = some u) :
    u.name ≠ t.name := by
  intro he
  refine hw.indexed.tasks.not_named (run_createTask_ok ht).1 hu ?_
  rw [he]

theorem eq_createTask {c : Command} {w : World} {t : Task}
    (h : Event.mk (.createTask t) (.ok ()) = ⟨c, (c.run w).1⟩) :
    c = .createTask t ∧ ((Command.createTask t).run w).1 = .ok () := by
  obtain ⟨rfl, h⟩ := Event.mk.inj h
  exact ⟨rfl, (eq_of_heq h).symm⟩

section Step

variable {o : Outbox} {goal : Nat → Goal (Except TaskError Task)} {w₀ w : World} {ts : List Call}
  {i : Nat} {past : List Event} {c : Command} {next : c.Answer → Program (Except TaskError Task)}

/-- What a call has stored after a step, it has stored before or just now. -/
theorem stored_of_step (hi : ts[i]? = some ⟨past, .call c next⟩) {k : Nat} {call : Call} {t : Task}
    (hk : (ts.set i (Thread.after past c next w))[k]? = some call)
    (ht : Event.mk (.createTask t) (.ok ()) ∈ call.past) :
    (∃ old, ts[k]? = some old ∧ Event.mk (.createTask t) (.ok ()) ∈ old.past) ∨
      k = i ∧ c = .createTask t ∧ ((Command.createTask t).run w).1 = .ok () := by
  rcases Thread.mem_past_of_step hi hk ht with hold | ⟨rfl, he⟩
  · exact Or.inl hold
  · exact Or.inr ⟨rfl, eq_createTask he⟩

theorem StoredBy.step (hi : ts[i]? = some ⟨past, .call c next⟩)
    (h : Thread.Lawful storing (fun _ => mayAnnounce o) goal (ts, w)) (hs : StoredBy w₀ (ts, w))
    (ha : mayAnnounce o past w c) :
    StoredBy w₀ (ts.set i (Thread.after past c next w), (c.run w).2) where
  origin id t ht := by
    have hold : w.ledger.task? id = some t → w₀.ledger.task? id = some t ∨
        ∃ (k : Nat) (call : Call), (ts.set i (Thread.after past c next w))[k]? = some call ∧
          Event.mk (.createTask t) (.ok ()) ∈ call.past := by
      intro ht
      rcases hs.origin id t ht with h₀ | ⟨k, call, hk, hmem⟩
      · exact Or.inl h₀
      · obtain ⟨call', hk', hmore⟩ := Thread.exists_of_step hi hk w
        exact Or.inr ⟨k, call', hk', hmore _ hmem⟩
    rcases ha with hlook | ⟨u, rfl, -⟩ | ⟨u, j, answer, rest, -, hne, hrest⟩
    · rw [Command.ledger_of_isLookup hlook] at ht
      exact hold ht
    · cases hrun : ((Command.createTask u).run w).1 with
      | ok r =>
        rw [(run_createTask_ok hrun).2] at ht
        split at ht
        · obtain rfl := Option.some.inj ht
          refine Or.inr ⟨i, Thread.after past _ next w, ?_, ?_⟩
          · rw [List.getElem?_set_self (List.getElem?_eq_some_iff.1 hi).1]
          · simp [Thread.after, hrun]
        · exact hold ht
      | error e =>
        rw [run_createTask_error hrun] at ht
        exact hold ht
    · rw [(ledger_of_announcement hne hrest w).1] at ht
      exact hold ht
  names k k' call call' t t' hkk hk hk' ht ht' := by
    have hfresh : ∀ {k : Nat} {old : Call} {t t' : Task}, ts[k]? = some old →
        Event.mk (.createTask t) (.ok ()) ∈ old.past →
        ((Command.createTask t').run w).1 = .ok () → t.name ≠ t'.name :=
      fun hk ht hrun => name_ne_of_createTask h.holds hrun
        (stored_of_recorded (h.recorded _ _ hk) ht)
    rcases stored_of_step hi hk ht with ⟨old, hold, ht⟩ | ⟨rfl, -, hrun⟩
    · rcases stored_of_step hi hk' ht' with ⟨old', hold', ht'⟩ | ⟨-, -, hrun'⟩
      · exact hs.names k k' old old' t t' hkk hold hold' ht ht'
      · exact hfresh hold ht hrun'
    · rcases stored_of_step hi hk' ht' with ⟨old', hold', ht'⟩ | ⟨rfl, -⟩
      · exact (hfresh hold' ht' hrun).symm
      · exact absurd rfl hkk

end Step

/-- What any number of calls come to that take turns. -/
structure AllOrNothing (o : Outbox) (calls : List (UserId × TaskRequest)) (w₀ : World)
    (ts : List Call) (w : World) : Prop where
  /-- A call that has failed has changed nothing. -/
  failed : ∀ (i : Nat) past e, ts[i]? = some ⟨past, .done (.error e)⟩ → effects past = []
  /-- A call that has succeeded has stored its task, counted it and published its message. -/
  succeeded : ∀ (i : Nat) past t, ts[i]? = some ⟨past, .done (.ok t)⟩ →
    w.ledger.task? t.id = some t ∧ ∃ j, Announces o t j ∧ effects past = announcement o t j
  /-- The task has the name that was asked for. -/
  given : ∀ (i : Nat) past t user r name, ts[i]? = some ⟨past, .done (.ok t)⟩ →
    calls[i]? = some (user, r) → r.givenName = some name → t.name = name
  /-- No two calls have succeeded with one name. -/
  once : ∀ (i i' : Nat) past past' t t', i ≠ i' → ts[i]? = some ⟨past, .done (.ok t)⟩ →
    ts[i']? = some ⟨past', .done (.ok t')⟩ → t.name ≠ t'.name
  /-- No two stored tasks have one name. -/
  names : ∀ id id' t t', w.ledger.task? id = some t → w.ledger.task? id' = some t' →
    t.name = t'.name → t = t'
  /-- What was published names a stored task of its kind, also by calls on their way. -/
  published : ∀ (i : Nat) call exchange type payload, ts[i]? = some call →
    Event.mk (.publish exchange (TaskType.scheduledKey type) payload) () ∈ Thread.past call →
    ∃ t j, w.ledger.task? t.id = some t ∧ exchange = o.exchange ∧ t.type = type ∧
      payload = .document j ∧ Announces o t j
  /-- The tasks are those that were there and those that calls have stored. -/
  stored : ∀ id t, w.ledger.task? id = some t ↔ w₀.ledger.task? id = some t ∨
    id = t.id ∧ ∃ (i : Nat) (call : Call), ts[i]? = some call ∧
      Event.mk (.createTask t) (.ok ()) ∈ call.past

theorem scheduledKey_injective {a b : TaskType} (h : a.scheduledKey = b.scheduledKey) : a = b := by
  cases a <;> cases b <;> first | rfl | cases h

/-- Creating and scheduling is all or nothing and keeps names apart, in whatever order the commands
of the calls are carried out. -/
theorem createAndSchedule_allOrNothing {w₀ w : World} (h₀ : w₀.Reachable) (o : Outbox)
    (calls : List (UserId × TaskRequest)) {ts : List Call}
    (run : Thread.Steps
      (calls.map fun call => Thread.start (createAndSchedule o call.1 call.2).run, w₀) (ts, w)) :
    AllOrNothing o calls w₀ ts w := by
  let goal : Nat → Goal (Except TaskError Task) := fun i past v res =>
    ∀ user r, calls[i]? = some (user, r) → announced o r past v res
  have hlawful : Thread.Lawful storing (fun _ => mayAnnounce o) goal
      (calls.map fun call => Thread.start (createAndSchedule o call.1 call.2).run, w₀) := by
    refine Thread.Lawful.start h₀.consistent fun i ⟨user, r⟩ hcall => ?_
    refine (obeys_createAndSchedule o user r w₀).mono (fun _ _ _ _ h => h)
      fun past v res _ hres user' r' hcall' => ?_
    obtain ⟨rfl, rfl⟩ := Prod.mk.inj (Option.some.inj (hcall.symm.trans hcall'))
    exact hres
  obtain ⟨hl, -, hs, hlater⟩ := run.lawful_of_owning (K := StoredBy w₀) (fun _ h => h)
    (fun _ _ _ _ => owns_of_mayAnnounce) (fun _ _ _ _ hw ha hf => kept_of_mayAnnounce hw ha hf)
    (fun ts w i past c next hi h hK ha _ => StoredBy.step hi h hK ha) hlawful
    (Thread.Owning.start w₀) (StoredBy.start w₀)
  -- a call at its end has a request, and has reached what is wanted of it
  have hreached : ∀ (i : Nat) past res, ts[i]? = some ⟨past, .done res⟩ →
      ∃ user r, calls[i]? = some (user, r) ∧ announced o r past w res := by
    intro i past res hi
    obtain ⟨⟨user, r⟩, hcall⟩ := run.exists_origin hi
    exact ⟨user, r, hcall, hl.reached hi user r hcall⟩
  have hcreated : ∀ {past : List Event} {t : Task} {j : Json}, effects past = announcement o t j →
      Event.mk (.createTask t) (.ok ()) ∈ past := by
    intro past t j he
    have hmem : Event.mk (.createTask t) (.ok ()) ∈ effects past := by
      rw [he]
      exact List.mem_cons_self
    exact (List.mem_filter.1 hmem).1
  exact {
    failed := fun i past e hi => by
      obtain ⟨user, r, -, h⟩ := hreached i past _ hi
      exact h
    succeeded := fun i past t hi => by
      obtain ⟨user, r, -, -, j, hj, he⟩ := hreached i past _ hi
      exact ⟨stored_of_recorded (hl.recorded i _ hi) (hcreated he), j, hj, he⟩
    given := fun i past t user r name hi hcall hname => by
      obtain ⟨user', r', hcall', h, -⟩ := hreached i past _ hi
      obtain ⟨rfl, rfl⟩ := Prod.mk.inj (Option.some.inj (hcall.symm.trans hcall'))
      exact h name hname
    once := fun i i' past past' t t' hii hi hi' => by
      obtain ⟨-, -, -, -, j, -, he⟩ := hreached i past _ hi
      obtain ⟨-, -, -, -, j', -, he'⟩ := hreached i' past' _ hi'
      exact hs.names i i' _ _ t t' hii hi hi' (hcreated he) (hcreated he')
    names := fun id id' t t' ht ht' hname =>
      hl.holds.indexed.tasks.unique ht ht' rfl (by rw [hname])
    published := fun i call exchange type payload hi hmem => by
      obtain ⟨before, after, hpast⟩ := List.append_of_mem hmem
      obtain ⟨v, -, ha, -⟩ := hl.recorded i call hi before _ after hpast
      rcases ha with ha | ⟨t, ha, -⟩ | ⟨t, j, answer, rest, hj, hne, he⟩
      · cases ha
      · cases ha
      · obtain ⟨hcreate, hexchange, hkey, rfl⟩ := of_published hne he
        obtain rfl := scheduledKey_injective hkey
        refine ⟨t, j, stored_of_recorded (hl.recorded i call hi) ?_, hexchange, rfl, rfl, hj⟩
        rw [hpast]
        exact List.mem_append_left _ hcreate
    stored := fun id t => by
      constructor
      · intro ht
        rcases hs.origin id t ht with h | h
        · exact Or.inl h
        · exact Or.inr ⟨(hl.holds.indexed.task_id ht).symm, h⟩
      · rintro (ht | ⟨rfl, i, call, hi, hmem⟩)
        · exact hlater.2 id t ht
        · exact stored_of_recorded (hl.recorded i call hi) hmem }

/-- Two calls that ask for one name and both find it free: the one that stores second is refused. -/
theorem createAndSchedule_race :
    let clock : Instant := ⟨0, 0, by decide⟩
    let o : Outbox := ⟨.standard, "tasks"⟩
    let calls : List (UserId × TaskRequest) :=
      [("ada", ⟨some "sync", none, none, .empty, .sync⟩),
        ("bob", ⟨some " sync ", none, none, .empty, .sync⟩)]
    let start := calls.map fun call => Thread.start (createAndSchedule o call.1 call.2).run
    let s := Thread.turns (start, World.new 8 clock) (0 :: List.replicate 8 1 ++ List.replicate 8 0)
    (s.1.map fun call => call.result?.map fun
      | .ok t => t.name
      | .error e => e.message) = [some (TaskError.duplicateName "sync").message, some "sync"] ∧
      AllOrNothing o calls (.new 8 clock) s.1 s.2 := by
  intro clock o calls start s
  have hall : ∀ order, AllOrNothing o calls (.new 8 clock)
      (Thread.turns (start, World.new 8 clock) order).1
      (Thread.turns (start, World.new 8 clock) order).2 := fun order =>
    createAndSchedule_allOrNothing (.new 8 clock) o calls
      (Thread.Steps.turns (start, World.new 8 clock) order)
  exact ⟨by decide +kernel, hall _⟩

end Scheduling

end SensorTasks

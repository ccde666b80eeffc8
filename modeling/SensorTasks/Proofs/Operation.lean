import SensorTasks.Proofs.Compliance

/-!
Runs of the whole application. Operations begin at any time, each on a thread of its own, and take
turns at every command, while time goes by and others use the bus and give out ids. Whatever the
rules of all operations keep, every run keeps.
-/

namespace SensorTasks

open Message

/-- What the application can be asked to do. -/
inductive Operation where
  /-- To handle a message. -/
  | handle (registry : Registry) (key : RoutingKey) (payload : Payload)
  | respond (s : Http.Service) (r : Http.Request)
  | createTask (user : UserId) (r : TaskRequest)
  | createAndSchedule (o : Outbox) (user : UserId) (r : TaskRequest)
  | findTask (id : TaskId)
  | searchTasks (filter : TaskFilter) (paging : Paging)
  | requestMode (o : Outbox) (ids : List TaskId) (mode : TaskMode)
  | findFile (id : FileId)
  | requestVisibility (o : Outbox) (id : FileId) (published : Bool)
    (platforms : Option (List Platform))
  | deleteFiles (o : Outbox) (ids : List FileId)
  | announceUser (o : Outbox) (u : User)

/-- A program whose result does not matter. -/
def Program.forget {α : Type} (p : Program α) : Program Unit := p >>= fun _ => done ()

namespace Operation

def program : Operation → Program Unit
  | handle registry key payload => (Inbox.process registry key payload).run.forget
  | respond s r => (s.respond r).forget
  | createTask user r => (Creation.create user r).run.forget
  | createAndSchedule o user r => (Scheduling.createAndSchedule o user r).run.forget
  | findTask id => (Scheduling.find id).run.forget
  | searchTasks filter paging => (Program.perform (.searchTasks filter paging)).forget
  | requestMode o ids mode => (Scheduling.requestMode o ids mode).run.forget
  | findFile id => (Visibility.find id).run.forget
  | requestVisibility o id published platforms =>
    (Visibility.requestChange o id published platforms).run.forget
  | deleteFiles o ids => (Deletion.deleteFiles o ids).run.forget
  | announceUser o u => (u.announce o).run.forget

theorem obeys_forget {α : Type} {R : Rely} {allowed : Rules} {p : Program α} {past : List Event}
    {w : World} (h : p.Obeys R allowed (fun _ _ _ => True) past w) :
    p.forget.Obeys R allowed (fun _ _ _ => True) past w :=
  Program.Obeys.bind (h.mono (fun _ _ _ _ h => h) fun _ _ _ _ _ _ _ _ => trivial)

theorem uses_forget {α : Type} {P : Command → Prop} {Q : α → Prop} {p : Program α}
    (h : p.Uses P Q) : p.forget.Uses P fun _ => True :=
  Program.uses_bind.2 (h.mono (fun _ h => h) fun _ _ => trivial)

/-- What is asked of a service uses what services use, and creates tasks. -/
theorem uses_service {P : Command → Prop} (hP : Serving P) (hstore : ∀ t, P (.createTask t))
    {op : Operation} (h : ∀ r key payload, op ≠ .handle r key payload) :
    op.program.Uses P fun _ => True := by
  cases op with
  | handle r key payload => exact absurd rfl (h r key payload)
  | respond s r => exact uses_forget (s.uses_respond hP hstore r)
  | createTask user r => exact uses_forget (Creation.uses_create hstore hP user r)
  | createAndSchedule o user r =>
    exact uses_forget (Scheduling.uses_createAndSchedule hP hstore o user r)
  | findTask id => exact uses_forget (Scheduling.uses_find hP id)
  | searchTasks filter paging => exact ⟨hP.lookup _ rfl, fun _ => trivial⟩
  | requestMode o ids mode => exact uses_forget (Scheduling.uses_requestMode hP o ids mode)
  | findFile id => exact uses_forget (Visibility.uses_find hP id)
  | requestVisibility o id published platforms =>
    exact uses_forget (Visibility.uses_requestChange hP o id published platforms)
  | deleteFiles o ids => exact uses_forget (Deletion.uses_deleteFiles hP o ids)
  | announceUser o u => exact uses_forget (u.uses_announce hP o)

/-- All operations keep to the rules. -/
theorem obeys {R : Rely} (hR : R.Orderly) (op : Operation) (w : World) :
    op.program.Obeys R (MayDo R) (fun _ _ _ => True) [] w := by
  cases op with
  | handle registry key payload =>
    exact obeys_forget (Inbox.complies_process hR registry key payload [] w)
  | respond s r => exact obeys_forget (s.obeys_respond r w)
  | createTask user r => exact obeys_forget (Creation.complies_create user r [] w)
  | createAndSchedule o user r =>
    exact obeys_forget (Scheduling.complies_createAndSchedule o user r w)
  | findTask id =>
    exact obeys_forget (Action.Complies.of_uses (Scheduling.uses_find .serves id) [] w)
  | searchTasks filter paging =>
    exact obeys_forget fun _ _ _ => ⟨.lookup rfl, fun _ _ _ _ _ => trivial⟩
  | requestMode o ids mode =>
    exact obeys_forget
      (Action.Complies.of_uses (Scheduling.uses_requestMode .serves o ids mode) [] w)
  | findFile id =>
    exact obeys_forget (Action.Complies.of_uses (Visibility.uses_find .serves id) [] w)
  | requestVisibility o id published platforms =>
    exact obeys_forget (Action.Complies.of_uses
      (Visibility.uses_requestChange .serves o id published platforms) [] w)
  | deleteFiles o ids =>
    exact obeys_forget (Action.Complies.of_uses (Deletion.uses_deleteFiles .serves o ids) [] w)
  | announceUser o u =>
    exact obeys_forget (Action.Complies.of_uses (u.uses_announce .serves o) [] w)

/-! ### Operations by themselves -/

end Operation

/-- The worlds are consistent, and no number is given out twice. -/
def Rely.consistency : Rely where
  holds := World.Consistent
  later u v := u.nextNumber ≤ v.nextNumber
  refl _ := Nat.le_refl _
  trans := Nat.le_trans

theorem Rely.consistency_orderly : Rely.consistency.Orderly := ⟨id, id⟩

/-- A program that keeps to the rules and runs alone leaves a consistent world, and keeps what every
command that it may use keeps. -/
theorem Program.Obeys.alone {α : Type} {p : Program α} {allowed : Rules} {goal : Goal α}
    {w : World} {K : World → Prop} (h : p.Obeys .consistency allowed goal [] w)
    (may : ∀ past v c, allowed past v c → MayDo .consistency past v c)
    (kept : ∀ past v c, v.Consistent → allowed past v c → K v → K (c.run v).2)
    (hw : w.Consistent) (hK : K w) :
    (p.run w).2.Consistent ∧ K (p.run w).2 := by
  have hend : p.Obeys .consistency allowed (fun _ v _ => v.Consistent) [] w :=
    h.mono (fun _ _ _ _ h => h) fun _ _ _ hv _ => hv
  obtain ⟨⟨_, hconsistent⟩, -, hK⟩ := Thread.alone_of_owning (fun _ hv => hv)
    (fun past v c ha => (may past v c ha).ownsNewId)
    (fun past v c hv ha hfree => ⟨World.Consistent.run hv
      ((may past v c ha).fresh Rely.consistency_orderly hfree), c.le_nextNumber v⟩) kept hw hK hend
  exact ⟨hconsistent, hK⟩

namespace Operation

@[simp] theorem forget_run {α : Type} (p : Program α) (w : World) :
    (p.forget.run w).2 = (p.run w).2 := by
  unfold Program.forget
  rw [Program.run_bind]
  rfl

/-- An operation that runs alone leaves a consistent world. -/
theorem consistent_run {w : World} (hw : w.Consistent) (op : Operation) :
    (op.program.run w).2.Consistent :=
  ((op.obeys Rely.consistency_orderly w).alone (K := fun _ => True) (fun _ _ _ h => h)
    (fun _ _ _ _ _ _ => trivial) hw trivial).1

/-! ### Runs -/

/-- The operations that have begun, and the world that they act on. -/
abbrev State := List (Thread Unit) × World

inductive Step : State → State → Prop where
  | begin {ts : List (Thread Unit)} {w : World} (op : Operation) :
    Step (ts, w) (ts ++ [Thread.start op.program], w)
  | act {s s' : State} (h : Thread.Step s s') : Step s s'
  /-- Time goes by, and others use the bus, count messages and give out ids. -/
  | outside {ts : List (Thread Unit)} {w v : World} (hl : v.ledger = w.ledger)
    (hn : w.nextNumber ≤ v.nextNumber) : Step (ts, w) (ts, v)

/-- Any number of steps. -/
def Steps : State → State → Prop := Relation.ReflTransGen Step

theorem Steps.begin (s : State) (op : Operation) :
    Steps s (s.1 ++ [Thread.start op.program], s.2) :=
  .single (.begin op)

theorem Steps.act {s s' : State} (run : Thread.Steps s s') : Steps s s' := by
  induction run with
  | refl => exact .refl
  | tail _ h ih => exact ih.tail (.act h)

/-- One of the operations has done what the event tells. -/
def Happened (s : State) (e : Event) : Prop := ∃ t ∈ s.1, e ∈ t.past

/-- The task that was stored, if the event is that of storing one. -/
def created? : Event → Option Task
  | ⟨.createTask t, .ok ()⟩ => some t
  | _ => none

/-- The tasks that the operations have created. -/
def created (s : State) : List Task := s.1.flatMap fun t => t.past.filterMap created?

theorem created?_eq_some {e : Event} {t : Task} :
    created? e = some t ↔ e = ⟨.createTask t, .ok ()⟩ := by
  constructor
  · intro h
    unfold created? at h
    split at h
    · obtain rfl := Option.some.inj h
      rfl
    · cases h
  · rintro rfl
    rfl

theorem mem_created {s : State} {t : Task} :
    t ∈ created s ↔ Happened s ⟨.createTask t, .ok ()⟩ := by
  simp only [created, Happened, List.mem_flatMap, List.mem_filterMap, created?_eq_some,
    exists_eq_right]

variable {ts : List (Thread Unit)} {u v w : World} {i : Nat} {past : List Event} {c : Command}
  {next : c.Answer → Program Unit} {e : Event}

theorem happened_begin {p : Program Unit} :
    Happened (ts ++ [Thread.start p], v) e ↔ Happened (ts, w) e := by
  simp [Happened, Thread.start, or_and_right, exists_or]

/-- What has happened after a step, has happened before or just now. -/
theorem happened_act (hi : ts[i]? = some ⟨past, .call c next⟩) :
    Happened (ts.set i (Thread.after past c next w), v) e ↔
      Happened (ts, u) e ∨ e = ⟨c, (c.run w).1⟩ := by
  constructor
  · rintro ⟨t, ht, he⟩
    obtain ⟨k, hk⟩ := List.mem_iff_getElem?.1 ht
    rcases Thread.mem_past_of_step hi hk he with ⟨t', hk', he'⟩ | ⟨-, rfl⟩
    · exact Or.inl ⟨t', List.mem_of_getElem? hk', he'⟩
    · exact Or.inr rfl
  · rintro (⟨t, ht, he⟩ | rfl)
    · obtain ⟨k, hk⟩ := List.mem_iff_getElem?.1 ht
      obtain ⟨t', hk', hmore⟩ := Thread.exists_of_step hi hk w
      exact ⟨t', List.mem_of_getElem? hk', hmore e he⟩
    · have hlt := (List.getElem?_eq_some_iff.1 hi).1
      exact ⟨_, List.mem_of_getElem? (List.getElem?_set_self hlt),
        List.mem_append_right past (List.mem_singleton_self _)⟩

/-! ### What all runs keep -/

variable {R : Rely}

/-- All threads of a run keep to the rules. -/
abbrev Lawful (R : Rely) (s : State) : Prop :=
  Thread.Lawful R (fun _ => MayDo R) (fun _ _ _ _ => True) s

/-- What has happened was allowed when it happened. -/
theorem Lawful.of_happened {s : State} (h : Lawful R s) (he : Happened s e) :
    ∃ past v, R.holds v ∧ MayDo R past v e.command ∧ e.answer = (e.command.run v).1 ∧
      R.later (e.command.run v).2 s.2 := by
  obtain ⟨t, ht, he⟩ := he
  obtain ⟨i, hi⟩ := List.mem_iff_getElem?.1 ht
  obtain ⟨before, after, hpast⟩ := List.append_of_mem he
  obtain ⟨v, hv, ha, hanswer, -, hlater⟩ := h.recorded i t hi before e after hpast
  exact ⟨before, v, hv, ha, hanswer, hlater⟩

theorem getElem?_begin {p : Program Unit} {t : Thread Unit}
    (h : (ts ++ [Thread.start p])[i]? = some t) :
    ts[i]? = some t ∨ i = ts.length ∧ t = Thread.start p := by
  rw [List.getElem?_append] at h
  split at h
  · exact Or.inl h
  · obtain ⟨hlt, rfl⟩ := List.getElem?_eq_some_iff.1 h
    rw [List.length_singleton] at hlt
    exact Or.inr ⟨by omega, by simp⟩

theorem Lawful.begin (h : Lawful R (ts, w)) (hR : R.Orderly) (op : Operation) :
    Lawful R (ts ++ [Thread.start op.program], w) where
  holds := h.holds
  obeys j t ht := by
    rcases getElem?_begin ht with ht | ⟨-, rfl⟩
    · exact h.obeys j t ht
    · exact op.obeys hR w
  recorded j t ht := by
    rcases getElem?_begin ht with ht | ⟨-, rfl⟩
    · exact h.recorded j t ht
    · intro before e after he
      simp [Thread.start] at he

theorem Lawful.outside (h : Lawful R (ts, w)) (hv : R.holds v) (hwv : R.later w v) :
    Lawful R (ts, v) where
  holds := hv
  obeys j t ht := (h.obeys j t ht).later hwv
  recorded j t ht := (h.recorded j t ht).later hwv

theorem owning_begin (h : Thread.Owning (ts, w)) (p : Program Unit) :
    Thread.Owning (ts ++ [Thread.start p], w) := by
  have hold : ∀ {j : Nat} {t : Thread Unit} {n}, (ts ++ [Thread.start p])[j]? = some t →
      Owns t.past n → ts[j]? = some t := by
    intro j t n ht hn
    rcases getElem?_begin ht with ht | ⟨-, rfl⟩
    · exact ht
    · exact absurd hn (not_owns_nil n)
  exact ⟨fun j t n ht hn => h.unused j t n (hold ht hn) hn,
    fun j k t u n ht hu hn hm => h.disjoint j k t u n (hold ht hn) (hold hu hm) hn hm⟩

theorem owning_outside (h : Thread.Owning (ts, w)) (hl : v.ledger = w.ledger)
    (hn : w.nextNumber ≤ v.nextNumber) : Thread.Owning (ts, v) := by
  refine ⟨fun j t n ht hown => ?_, h.disjoint⟩
  obtain ⟨hlt, hunused⟩ := h.unused j t n ht hown
  exact ⟨Nat.lt_of_lt_of_le hlt hn, by rw [hl]; exact hunused.task,
    by rw [hl]; exact hunused.sensor, by rw [hl]; exact hunused.group⟩

/-- What a thread has reserved is given out. -/
theorem lt_of_reserved {allowed : Rules} (hR : R.Orderly) (h : Thread.Recorded R allowed past w)
    {n : Nat} (hn : Reserved past n) : n < w.nextNumber := by
  obtain ⟨⟨c, answer⟩, he, hr⟩ := hn
  obtain ⟨before, after, rfl⟩ := List.append_of_mem he
  obtain ⟨v, -, -, hanswer, -, hlater⟩ := h before _ after rfl
  dsimp only at hanswer
  subst hanswer
  exact Nat.lt_of_lt_of_le (reserves_run hr).2 (hR.number hlater)

theorem Lawful.nil {w : World} (hw : R.holds w) : Lawful R ([], w) :=
  ⟨hw, fun i t ht => (by cases ht), fun i t ht => (by cases ht)⟩

theorem owning_nil (w : World) : Thread.Owning (([], w) : State) :=
  ⟨fun i t n ht => (by cases ht), fun i j t u n ht => (by cases ht)⟩

section Keep

variable (hR : R.Orderly)
  (kept : ∀ past w c, R.holds w → Thread.Recorded R (MayDo R) past w → MayDo R past w c →
    Thread.NewIdFree w c → R.holds (c.run w).2 ∧ R.later w (c.run w).2)
  (outside : ∀ w v, R.holds w → v.ledger = w.ledger → w.nextNumber ≤ v.nextNumber →
    R.holds v ∧ R.later w v)
  {K : State → Prop}
  (keptK : ∀ ts w i past c next, ts[i]? = some ⟨past, .call c next⟩ → Lawful R (ts, w) →
    K (ts, w) → MayDo R past w c → Thread.NewIdFree w c →
    K (ts.set i (Thread.after past c next w), (c.run w).2))
  (beginK : ∀ ts w p, K (ts, w) → K (ts ++ [Thread.start p], w))
  (outsideK : ∀ ts w v, K (ts, w) → v.ledger = w.ledger → w.nextNumber ≤ v.nextNumber → K (ts, v))

include hR kept outside keptK beginK outsideK

/-- A rely that whatever the rules allow keeps is kept from then on in all runs, and so is what else
every step keeps. -/
theorem Steps.keep_since {s s' : State} (run : Steps s s') (hl : Lawful R s)
    (hown : Thread.Owning s) (hK : K s) :
    Lawful R s' ∧ Thread.Owning s' ∧ K s' ∧ R.later s.2 s'.2 := by
  induction run with
  | refl => exact ⟨hl, hown, hK, R.refl _⟩
  | tail _ step ih =>
    obtain ⟨hl, hown, hK, hsince⟩ := ih
    cases step with
    | begin op => exact ⟨hl.begin hR op, owning_begin hown _, beginK _ _ _ hK, hsince⟩
    | act h =>
      obtain ⟨hl', ⟨hown', hK'⟩, hlater⟩ := Thread.Steps.lawful
        (J := fun s => Thread.Owning s ∧ K s) (fun ts w i past c next hi hl hJ ha => by
          have hfree : Thread.NewIdFree w c := fun id hid => hJ.1.newId hi ha.ownsNewId hid
          obtain ⟨hh, hlater⟩ := kept past w c hl.holds (hl.recorded i _ hi) ha hfree
          exact ⟨hh, hlater, hJ.1.step (hR.consistent hl.holds) hi ha.ownsNewId,
            keptK ts w i past c next hi hl hJ.2 ha hfree⟩) (.single h) hl ⟨hown, hK⟩
      exact ⟨hl', hown', hK', R.trans hsince hlater⟩
    | outside hledger hn =>
      obtain ⟨hh, hlater⟩ := outside _ _ hl.holds hledger hn
      exact ⟨hl.outside hh hlater, owning_outside hown hledger hn, outsideK _ _ _ hK hledger hn,
        R.trans hsince hlater⟩

theorem Steps.keep {w₀ : World} {s : State} (run : Steps ([], w₀) s) (h₀ : R.holds w₀)
    (hK : K ([], w₀)) : Lawful R s ∧ Thread.Owning s ∧ K s := by
  obtain ⟨hl, hown, hK, -⟩ :=
    run.keep_since hR kept outside keptK beginK outsideK (.nil h₀) (owning_nil w₀) hK
  exact ⟨hl, hown, hK⟩

end Keep

end Operation

end SensorTasks

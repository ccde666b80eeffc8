import SensorTasks.Proofs.Ownership

/-!
Programs that only look things up. A lookup leaves the ledger, the bus and the counters as they are;
it may take the time or reserve numbers. A program of lookups obeys every rule that allows lookups,
and what it comes to has a property if it has it for all answers.
-/

namespace SensorTasks

namespace Command

/-- The command leaves the ledger, the bus and the counters as they are. -/
def isLookup : Command → Bool
  | now | reserve _ | stats | metrics | busHealth => true
  | findTask _ | findTaskNamed _ | findTasks _ | searchTasks .. => true
  | findFile _ | findFiles _ | findFileOf .. => true
  | findSensor _ | findSensors _ | findSensorOf .. => true
  | findGroup _ | findGroupOf _ => true
  | _ => false

variable {c : Command}

theorem ledger_of_isLookup (h : c.isLookup = true) (w : World) :
    (c.run w).2.ledger = w.ledger := by
  cases c <;> first | rfl | cases h

theorem newId?_of_isLookup (h : c.isLookup = true) : c.newId? = none := by
  cases c <;> first | rfl | cases h

theorem fresh_of_isLookup (h : c.isLookup = true) (w : World) : c.Fresh w := by
  cases c <;> trivial

/-- The command leaves the tasks as they are. -/
def keepsTasks : Command → Bool
  | createTask _ | updateTask .. | setModes .. => false
  | _ => true

theorem keepsTasks_of_isLookup (h : c.isLookup = true) : c.keepsTasks = true := by
  cases c <;> first | rfl | cases h

theorem keepsTasks_iff : c.keepsTasks = true ↔ c.writes? ≠ some .task := by
  cases c <;> simp [keepsTasks, writes?]

theorem tasks_of_keepsTasks (h : c.keepsTasks = true) (w : World) :
    (c.run w).2.ledger.tasks = w.ledger.tasks :=
  ((c.agreesBut_run w).tasks (keepsTasks_iff.1 h)).1

end Command

/-- The second past is the first one with some lookups after it. -/
def LooksOnly (past past' : List Event) : Prop :=
  ∃ more, past' = past ++ more ∧ ∀ e ∈ more, e.command.isLookup = true

namespace LooksOnly

variable {past past' past'' : List Event}

theorem refl (past : List Event) : LooksOnly past past := ⟨[], by simp, by simp⟩

theorem trans (h : LooksOnly past past') (h' : LooksOnly past' past'') : LooksOnly past past'' := by
  obtain ⟨more, rfl, hmore⟩ := h
  obtain ⟨more', rfl, hmore'⟩ := h'
  refine ⟨more ++ more', List.append_assoc _ _ _, fun e he => ?_⟩
  rcases List.mem_append.1 he with he | he
  · exact hmore e he
  · exact hmore' e he

theorem single {c : Command} (h : c.isLookup = true) (answer : c.Answer) :
    LooksOnly past (past ++ [⟨c, answer⟩]) :=
  ⟨[⟨c, answer⟩], rfl, fun _ he => List.mem_singleton.1 he ▸ h⟩

/-- Lookups use no numbers up. -/
theorem owns (h : LooksOnly past past') {n : Nat} (hn : Owns past n) : Owns past' n := by
  obtain ⟨more, rfl, hmore⟩ := h
  obtain ⟨before, e, after, rfl, he, hafter⟩ := hn
  refine ⟨before, e, after ++ more, by simp, he, fun d hd => ?_⟩
  rcases List.mem_append.1 hd with hd | hd
  · exact hafter d hd
  · rw [Command.newId?_of_isLookup (hmore d hd)]
    simp

end LooksOnly

/-! ### Programs -/

namespace Program

variable {α β : Type} {R : Rely} {allowed : Rules} {Q : α → Prop}

/-- The program only looks things up, and what it comes to has a property. -/
def Reads (Q : α → Prop) : Program α → Prop
  | done a => Q a
  | call c next => c.isLookup = true ∧ ∀ answer, (next answer).Reads Q

theorem Reads.bind {p : Program α} {f : α → Program β} {Q' : β → Prop} (h : p.Reads Q)
    (hf : ∀ a, Q a → (f a).Reads Q') : (p >>= f).Reads Q' := by
  induction p with
  | done a => exact hf a h
  | call c next ih => exact ⟨h.1, fun answer => ih answer (h.2 answer)⟩

theorem Reads.mono {p : Program α} (h : p.Reads Q) {Q' : α → Prop} (hq : ∀ a, Q a → Q' a) :
    p.Reads Q' := by
  induction p with
  | done a => exact hq a h
  | call c next ih => exact ⟨h.1, fun answer => ih answer (h.2 answer)⟩

/-- What a program comes to when it runs alone is one of the things that it can come to. -/
theorem Reads.of_run {p : Program α} (h : p.Reads Q) (w : World) : Q (p.run w).1 := by
  induction p generalizing w with
  | done a => exact h
  | call c next ih => exact ih _ (h.2 _) _

theorem Reads.obeys {p : Program α} (h : p.Reads Q)
    (ha : ∀ past w c, c.isLookup = true → allowed past w c) (past : List Event) (w : World) :
    p.Obeys R allowed (fun past' _ a => Q a ∧ LooksOnly past past') past w := by
  induction p generalizing past w with
  | done a => exact fun _ _ _ => ⟨h, .refl past⟩
  | call c next ih =>
    intro v hv hwv
    refine ⟨ha past v c h.1, fun hr hl => ?_⟩
    refine (ih _ (h.2 _) _ _).mono (fun _ _ _ _ h => h) fun past' _ a _ hgoal => ?_
    exact ⟨hgoal.1, (LooksOnly.single h.1 _).trans hgoal.2⟩

end Program

namespace Action

variable {ε ε' α β : Type} {R : Rely} {allowed : Rules} {Q : α → Prop}

/-- The action only looks things up, and its value, if it ends with one, has a property. -/
def Reads (Q : α → Prop) (a : Action ε α) : Prop :=
  a.run.Reads fun
    | .ok x => Q x
    | .error _ => True

theorem reads_pure {a : α} (h : Q a) : (pure a : Action ε α).Reads Q := h

theorem reads_throw (e : ε) : (throw e : Action ε α).Reads Q := trivial

theorem reads_perform_bind {c : Command} {f : c.Answer → Action ε α} (hc : c.isLookup = true)
    (h : ∀ answer, (f answer).Reads Q) : (perform c >>= f).Reads Q :=
  ⟨hc, h⟩

theorem reads_orFail {e : ε} {o : Option α} (h : ∀ a, o = some a → Q a) :
    (orFail e o).Reads Q := by
  cases o with
  | none => exact reads_throw e
  | some a => exact reads_pure (h a rfl)

theorem Reads.bind {a : Action ε α} {f : α → Action ε β} {Q' : β → Prop} (h : a.Reads Q)
    (hf : ∀ x, Q x → (f x).Reads Q') : (a >>= f).Reads Q' := by
  unfold Reads
  rw [run_bind]
  refine Program.Reads.bind h fun r hr => ?_
  cases r with
  | ok x => exact hf x hr
  | error e => trivial

theorem Reads.mono {a : Action ε α} (h : a.Reads Q) {Q' : α → Prop} (hq : ∀ x, Q x → Q' x) :
    a.Reads Q' :=
  Program.Reads.mono h fun r hr =>
    match r, hr with
    | .ok x, hx => hq x hx
    | .error _, _ => trivial

theorem Reads.of_run {a : Action ε α} (h : a.Reads Q) {w : World} {x : α}
    (hx : (a.run.run w).1 = .ok x) : Q x := by
  have hq := Program.Reads.of_run h w
  rw [hx] at hq
  exact hq

theorem Reads.mapError {a : Action ε α} (h : a.Reads Q) (f : ε → ε') : (a.mapError f).Reads Q := by
  unfold Reads
  rw [run_mapError]
  refine Program.Reads.bind h fun r hr => ?_
  cases r with
  | ok x => exact hr
  | error e => trivial

theorem Reads.obeys {a : Action ε α} (h : a.Reads Q)
    (ha : ∀ past w c, c.isLookup = true → allowed past w c) (past : List Event) (w : World) :
    a.run.Obeys R allowed (endsIn (fun past' _ x => Q x ∧ LooksOnly past past')
      fun past' _ _ => LooksOnly past past') past w := by
  refine (Program.Reads.obeys h ha past w).mono (fun _ _ _ _ h => h) fun past' v r _ hr => ?_
  cases r with
  | ok x => exact hr
  | error e => exact hr.2

/-- Lookups first, and then something that obeys whatever they have found. -/
theorem Reads.obeys_bind {a : Action ε α} (h : a.Reads Q)
    (ha : ∀ past w c, c.isLookup = true → allowed past w c) {f : α → Action ε β} {good : Goal β}
    {bad : Goal ε} {past : List Event} {w : World}
    (hf : ∀ x past' v, Q x → LooksOnly past past' → R.holds v →
      (f x).run.Obeys R allowed (endsIn good bad) past' v)
    (hbad : ∀ e past' v, LooksOnly past past' → R.holds v → bad past' v e) :
    (a >>= f).run.Obeys R allowed (endsIn good bad) past w := by
  refine Action.obeys_bind ((h.obeys ha past w).mono (fun _ _ _ _ h => h)
    fun past' v r hv hr => ?_)
  cases r with
  | ok x => exact hf x past' v hr.1 hr.2 hv
  | error e => exact fun u hu _ => hbad e past' u hr hu

end Action

end SensorTasks

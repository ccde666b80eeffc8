import SensorTasks.Proofs.Handling

/-!
The names of tasks. The tasks and the ids by their names stand in two tables, and only creating a
task writes to both; changing a task puts another one of the same name in its place. So the names
stay those of the tasks, each task has a name of its own, and looking a name up finds the same task
as going through all of them.
-/

namespace SensorTasks

namespace Ledger.Indexed

variable {l : Ledger}

theorem taskNamed?_eq_some (h : l.Indexed) {name : String} {t : Task} :
    l.taskNamed? name = some t ↔ t ∈ l.tasks.values ∧ t.name = name := by
  refine h.tasks.lookup_eq_some.trans (and_congr_right fun _ => ?_)
  rw [Option.some.injEq, Key.taskName, Key.taskName, String.append_right_inj]

/-- No two tasks have the same name. -/
theorem nodup_names (h : l.Indexed) : (l.tasks.values.map (·.name)).Nodup := by
  refine h.tasks.nodup_values.map_on fun a ha b hb hname => ?_
  have ha := h.taskNamed?_eq_some.2 ⟨ha, hname⟩
  exact Option.some.inj (ha.symm.trans (h.taskNamed?_eq_some.2 ⟨hb, rfl⟩))

/-- Going through all tasks finds the one that is found by its name. -/
theorem filter_named (h : l.Indexed) (name : String) :
    l.tasks.values.filter (fun t => t.name = name) = (l.taskNamed? name).toList :=
  h.tasks.filter_eq fun t _ => by
    rw [decide_eq_true_eq, Option.some.injEq, Key.taskName, Key.taskName, String.append_right_inj]

theorem contains_taskName (h : l.Indexed) (name : String) :
    l.taskNames.contains (Key.taskName name) = true ↔ ∃ t ∈ l.tasks.values, t.name = name := by
  simp only [h.tasks.contains_eq_true, Option.some.injEq, Key.taskName, String.append_right_inj]

end Ledger.Indexed

theorem Paging.sort_toList (p : Paging) (o : Option Task) : p.sort o.toList = o.toList := by
  cases o with
  | none => exact List.mergeSort_nil
  | some t => exact List.mergeSort_singleton t

/-- One item stands on the first page. -/
theorem Page.ofSorted_toList {α : Type} {p : Paging} (hp : p.currentPage ≤ 1) (o : Option α) :
    (Page.ofSorted o.toList p).data = o.toList := by
  have hskip : p.skip = 0 := by rw [Paging.skip, Nat.sub_eq_zero_of_le hp, Nat.zero_mul]
  have hlimit : o.toList.length ≤ p.limit :=
    Nat.le_trans (by cases o <;> simp) (Nat.le_max_left 1 _)
  simp only [Page.ofSorted, hskip, List.drop_zero, List.take_of_length_le hlimit]

namespace World

/-- The worlds that creating and changing tasks leads to from an empty ledger, while time goes by.
A task is created with an id that no task has. -/
inductive TaskCalls : World → Prop where
  | new (capacity : Nat) (clock : Instant) : TaskCalls (.new capacity clock)
  | create {w : World} (h : TaskCalls w) {t : Task} (hnew : w.ledger.task? t.id = none) :
    TaskCalls ((Command.createTask t).run w).2
  | update {w : World} (h : TaskCalls w) (id : TaskId) (p : TaskPatch) :
    TaskCalls ((Command.updateTask id p).run w).2
  | setModes {w : World} (h : TaskCalls w) (ids : List TaskId) (mode : TaskMode) :
    TaskCalls ((Command.setModes ids mode).run w).2
  | later {w : World} (h : TaskCalls w) (clock : Instant) : TaskCalls { w with clock := clock }

variable {w : World}

theorem TaskCalls.indexed (h : w.TaskCalls) : w.ledger.Indexed := by
  induction h with
  | new capacity clock => exact .empty
  | @create w _ t hnew ih =>
    exact commitUnit_induction (motive := (·.ledger.Indexed)) ih fun l hl => ih.createTask hnew hl
  | @update w _ id p ih =>
    exact commit_induction (motive := (·.ledger.Indexed)) ih fun t l hl => ih.updateTask hl
  | setModes _ ids mode ih => exact ih.setModes ids mode _
  | later _ clock ih => exact ih

/-- Creating a task fails if there is one of its name, and then changes nothing. -/
theorem run_createTask_cases (h : w.ledger.Indexed) (t : Task) :
    (∃ u ∈ w.ledger.tasks.values, u.name = t.name) ∧
        (Command.createTask t).run w = (.error (.duplicateKey .task t.name), w) ∨
      (¬∃ u ∈ w.ledger.tasks.values, u.name = t.name) ∧
        ((Command.createTask t).run w).1 = .ok () := by
  rw [← h.contains_taskName]
  simp only [Command.run, Ledger.createTask]
  split
  · exact Or.inl ⟨‹_›, rfl⟩
  · exact Or.inr ⟨‹_›, rfl⟩

/-- However tasks are created and changed: a name leads to the task that has it, and to nothing if
none has it; no two tasks have the same name; creating another one fails and changes nothing; and
the pages of a search for a name are those of the task that it leads to, which stands on the first
one. -/
theorem names_exact (h : w.TaskCalls) (name : String) :
    (∀ t, w.ledger.taskNamed? name = some t ↔ t ∈ w.ledger.tasks.values ∧ t.name = name) ∧
      (w.ledger.tasks.values.map (·.name)).Nodup ∧
      (∀ t : Task, ((Command.createTask t).run w).1 = .error (.duplicateKey .task t.name) ↔
        ∃ u ∈ w.ledger.tasks.values, u.name = t.name) ∧
      (∀ (t : Task) e, ((Command.createTask t).run w).1 = .error e →
        ((Command.createTask t).run w).2 = w) ∧
      ∀ p : Paging,
        w.ledger.search { name := some name } p =
          Page.ofSorted (w.ledger.taskNamed? name).toList p ∧
        (p.currentPage ≤ 1 →
          (w.ledger.search { name := some name } p).data = (w.ledger.taskNamed? name).toList) := by
  have hl := h.indexed
  refine ⟨fun t => hl.taskNamed?_eq_some, hl.nodup_names, fun t => ?_, fun t e => ?_, fun p => ?_⟩
  · rcases run_createTask_cases hl t with ⟨hu, hrun⟩ | ⟨hu, hrun⟩ <;> simp [hrun, hu]
  · rcases run_createTask_cases hl t with ⟨-, hrun⟩ | ⟨-, hrun⟩
    · exact fun _ => by rw [hrun]
    · simp [hrun]
  · have haccepts : TaskFilter.accepts { name := some name } = fun t => decide (t.name = name) := by
      funext t
      simp [TaskFilter.accepts, agrees]
    have hsearch : w.ledger.search { name := some name } p =
        Page.ofSorted (w.ledger.taskNamed? name).toList p := by
      unfold Ledger.search
      rw [haccepts, hl.filter_named, Paging.sort_toList]
    exact ⟨hsearch, fun hp => by rw [hsearch, Page.ofSorted_toList hp]⟩

/-- A task is created, done and disabled: it is still found by its name, and another task of that
name is refused. -/
theorem name_of_changed :
    let t := FetchReport.Sample.fetching
    let created := ((Command.createTask t).run (.new 8 t.createdAt)).2
    let changed := ((Command.updateTask t.id { status := some .done }).run created).2
    let w := ((Command.setModes [t.id, "stray"] .disabled).run changed).2
    let other := { t with id := "other" }
    w.TaskCalls ∧
      (w.ledger.taskNamed? t.name).map (fun t => (t.id, t.status, t.mode)) =
        some (t.id, .done, .disabled) ∧
      (Command.createTask other).run w = (.error (.duplicateKey .task t.name), w) ∧
      (w.ledger.search { name := some t.name } {}).data = (w.ledger.taskNamed? t.name).toList := by
  intro t created changed w other
  have hw : w.TaskCalls :=
    .setModes (.update (.create (.new 8 t.createdAt) (t := t) rfl) t.id _) _ _
  obtain ⟨hnamed, -, hfails, hkeeps, hsearch⟩ := names_exact hw t.name
  have hfound : (w.ledger.taskNamed? t.name).isSome := by decide +kernel
  obtain ⟨u, hu⟩ := Option.isSome_iff_exists.1 hfound
  have herror := (hfails other).2 ⟨u, (hnamed u).1 hu⟩
  exact ⟨hw, by decide +kernel, Prod.ext herror (hkeeps other _ herror),
    (hsearch {}).2 (Nat.le_refl 1)⟩

end World

end SensorTasks

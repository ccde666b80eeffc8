import SensorTasks.Proofs.Handling
import SensorTasks.Proofs.Operation

/-!
The entries of a fetch over whole runs. A report replaces all entries of its task by a list that was
made from an older one, so what another report has added in between may be lost. What is never lost
are the entries that the task was built with: every list that was ever read begins with them, and a
merge keeps what it reads in its place. The new entries of a merge have ids that were given out
after the list was read, so no two entries of one list have the same id.
-/

namespace SensorTasks

open Message

/-! ### What commands do to tasks -/

namespace World

/-- Putting tasks again, of which only one has the id. -/
theorem task?_putTasks {ts : List Task} {id : TaskId} {t : Task} {change : Task → Task}
    (l : Ledger) (hid : ∀ u, (change u).id = u.id) (hts : ∀ u ∈ ts, u.id = id → u = t) :
    (ts.foldl (fun l u => l.putTask (change u)) l).task? id =
      if ∃ u ∈ ts, u.id = id then some (change t) else l.task? id := by
  induction ts generalizing l with
  | nil => simp
  | cons u ts ih =>
    rw [List.foldl_cons, ih _ fun x hx => hts x (List.mem_cons_of_mem u hx), Ledger.task?_putTask,
      hid]
    by_cases hu : u.id = id
    · rw [if_pos hu.symm, hts u List.mem_cons_self hu, ite_self, if_pos]
      exact ⟨t, List.mem_cons_self, hts u List.mem_cons_self hu ▸ hu⟩
    · simp only [List.mem_cons, exists_eq_or_imp, hu, Ne.symm hu, if_false, false_or]

/-- A change of modes changes the tasks that it lists and that have another mode. -/
theorem task?_setModes {l : Ledger} (hl : ∀ {id t}, l.task? id = some t → t.id = id)
    (ids : List TaskId) (mode : TaskMode) (now : Instant) (id : TaskId) :
    (l.setModes ids mode now).2.task? id =
      if id ∈ ids then (l.task? id).map fun t =>
        if t.mode = mode then t else TaskPatch.apply { mode := some mode } now t
      else l.task? id := by
  -- the tasks that are put again are those that are stored, listed and of another mode
  have hchanged : ∀ u, u ∈ (l.tasksOf ids).filter (fun t => t.mode ≠ mode) ↔
      u.id ∈ ids ∧ l.task? u.id = some u ∧ u.mode ≠ mode := by
    intro u
    simp only [Ledger.tasksOf, List.mem_filter, List.mem_filterMap, decide_eq_true_eq]
    constructor
    · rintro ⟨⟨tid, hmem, hu⟩, hmode⟩
      rw [hl hu]
      exact ⟨hmem, hu, hmode⟩
    · rintro ⟨hmem, hu, hmode⟩
      exact ⟨⟨u.id, hmem, hu⟩, hmode⟩
  cases ht : l.task? id with
  | none =>
    rw [Ledger.task?_setModes_eq_none hl ht, Option.map_none, ite_self]
  | some t =>
    have hid := hl ht
    have hset : (l.setModes ids mode now).2.task? id = _ :=
      task?_putTasks (t := t) l (fun _ => rfl) fun u hu he => by
        obtain ⟨-, hu, -⟩ := (hchanged u).1 hu
        rw [he, ht] at hu
        exact (Option.some.inj hu).symm
    have hmem : (∃ u ∈ (l.tasksOf ids).filter (fun t => t.mode ≠ mode), u.id = id) ↔
        id ∈ ids ∧ t.mode ≠ mode := by
      constructor
      · rintro ⟨u, hu, rfl⟩
        obtain ⟨hids, hu, hmode⟩ := (hchanged u).1 hu
        obtain rfl := Option.some.inj (hu.symm.trans ht)
        exact ⟨hids, hmode⟩
      · rintro ⟨hids, hmode⟩
        exact ⟨t, (hchanged t).2 ⟨hid.symm ▸ hids, hid.symm ▸ ht, hmode⟩, hid⟩
    rw [hset, ht, Option.map_some]
    simp only [hmem]
    by_cases hids : id ∈ ids <;> by_cases hmode : t.mode = mode <;> simp [hids, hmode]

/-- What has become of the task of an id after a command. -/
inductive TaskAfter (w : World) (c : Command) (id : TaskId) (o : Option Task) : Prop where
  | same (h : o = w.ledger.task? id)
  | created {t : Task} (hc : c = .createTask t) (hid : t.id = id) (h : o = some t)
  | patched {t : Task} {p : TaskPatch} (ht : w.ledger.task? id = some t)
    (hp : c = .updateTask id p ∨ p.fetchEntries = none) (h : o = some (p.apply w.clock t))

theorem taskAfter_run {w : World} (hw : w.Consistent) (c : Command) (id : TaskId) :
    TaskAfter w c id ((c.run w).2.ledger.task? id) := by
  cases hk : c.keepsTasks with
  | true =>
    refine .same ?_
    unfold Ledger.task?
    rw [Command.tasks_of_keepsTasks hk]
  | false =>
    cases c with
    | createTask t =>
      cases hrun : ((Command.createTask t).run w).1 with
      | ok u =>
        have htask := (Scheduling.run_createTask_ok hrun).2 id
        by_cases hid : id = t.id
        · rw [if_pos hid] at htask
          exact .created rfl hid.symm htask
        · rw [if_neg hid] at htask
          exact .same htask
      | error e => exact .same (by rw [Scheduling.run_createTask_error hrun])
    | updateTask tid p =>
      refine commit_induction (motive := (TaskAfter w (.updateTask tid p) id <| ·.ledger.task? id))
        (.same rfl) fun t l hl => ?_
      have htask := hw.indexed.task?_updateTask hl id
      obtain ⟨old, hold, rfl, -⟩ := Ledger.updateTask_eq_ok hl
      by_cases hid : id = tid
      · subst hid
        exact .patched hold (Or.inl rfl) (htask.trans (if_pos rfl))
      · exact .same (htask.trans (if_neg hid))
    | setModes ids mode =>
      have hset := task?_setModes hw.indexed.task_id ids mode w.clock id
      split at hset
      · cases ht : w.ledger.task? id with
        | none =>
          rw [ht] at hset
          exact .same (hset.trans ht.symm)
        | some t =>
          rw [ht, Option.map_some] at hset
          split at hset
          · exact .same (hset.trans ht.symm)
          · exact .patched ht (Or.inr rfl) hset
      · exact .same hset
    | _ => cases hk

end World

theorem TaskPatch.apply_entries_cases (p : TaskPatch) (now : Instant) (t : Task) :
    (p.apply now t).entries = t.entries ∨
      ∃ data, p.fetchEntries = some data ∧ (p.apply now t).entries = data := by
  cases hp : p.fetchEntries with
  | none => exact Or.inl (apply_entries_of_none hp)
  | some data =>
    by_cases ht : t.type = .dataFetch
    · exact Or.inr ⟨data, rfl, apply_entries hp ht⟩
    · left
      unfold Task.type at ht
      unfold Task.entries Task.fetch? apply
      cases hw : t.work with
      | fetch w => simp [hw, Work.type] at ht
      | upload w => rfl
      | sync => rfl

/-! ### Ids of entries -/

/-- No two entries have one id, and no id is still to be given out. -/
structure DistinctIds (w : World) (data : List FetchEntry) : Prop where
  nodup : (data.map (·.dataId)).Nodup
  old : ∀ e ∈ data, w.Old e.dataId

theorem DistinctIds.mono {u v : World} {data : List FetchEntry} (h : DistinctIds u data)
    (huv : u.nextNumber ≤ v.nextNumber) : DistinctIds v data :=
  ⟨h.nodup, fun e he => (h.old e he).mono huv⟩

/-- New entries with ids that were given out later. -/
theorem DistinctIds.mergeResults {u v : World} {data : List FetchEntry} {first : Nat}
    {rs : List ResolvedResult} (h : DistinctIds u data) (hfirst : u.nextNumber ≤ first)
    (hlast : first + rs.length ≤ v.nextNumber) :
    DistinctIds v
      (SensorTasks.mergeResults data (fun i => FreshId.text (first + i)) rs).entries := by
  let fresh := fun i => FreshId.text (first + i)
  let m := SensorTasks.mergeResults data fresh rs
  obtain ⟨added, hlabels, hadded, hle⟩ := Merge.labels_mergeResults data fresh rs
  have hids : m.entries.map (·.dataId) =
      data.map (·.dataId) ++ (List.range m.inserted).map fresh := by
    have h' := congrArg (List.map (·.2)) hlabels
    rw [List.map_append, hadded, List.map_map, List.map_map] at h'
    exact h'
  constructor
  · show (m.entries.map (·.dataId)).Nodup
    have hfresh : ((List.range m.inserted).map fresh).Nodup :=
      List.pairwise_map.2 (List.nodup_range.imp fun hne he => hne
        (Nat.add_left_cancel (FreshId.text_injective he)))
    rw [hids, List.nodup_append]
    refine ⟨h.nodup, hfresh, ?_⟩
    rintro d hd _ hd' rfl
    obtain ⟨e, he, rfl⟩ := List.mem_map.1 hd
    obtain ⟨i, -, hi⟩ := List.mem_map.1 hd'
    have := h.old e he _ hi.symm
    omega
  · intro e he
    have hmem : e.dataId ∈ m.entries.map (·.dataId) := List.mem_map_of_mem he
    rw [hids, List.mem_append] at hmem
    rcases hmem with hmem | hmem
    · obtain ⟨a, ha, hid⟩ := List.mem_map.1 hmem
      rw [← hid]
      exact (h.old a ha).mono (by omega)
    · obtain ⟨i, hi, hid⟩ := List.mem_map.1 hmem
      rw [← hid]
      have hi : i < m.inserted := List.mem_range.1 hi
      have hle : m.inserted ≤ rs.length := hle
      exact World.old_text (by omega)

/-! ### The worlds of a run -/

/-- The tasks of the earlier world are still there, and the entries of those that are new have
different ids. -/
structure Tidy (w₀ w : World) : Prop where
  consistent : w.Consistent
  stays : ∀ id, (w₀.ledger.task? id).isSome → (w.ledger.task? id).isSome
  distinct : ∀ {id t}, w.ledger.task? id = some t → w₀.ledger.task? id = none →
    DistinctIds w t.entries

/-- Tasks do not go away. -/
def keeping (w₀ : World) : Rely where
  holds := Tidy w₀
  later u v := u.nextNumber ≤ v.nextNumber ∧
    ∀ id, (u.ledger.task? id).isSome → (v.ledger.task? id).isSome
  refl _ := ⟨Nat.le_refl _, fun _ h => h⟩
  trans h h' := ⟨Nat.le_trans h.1 h'.1, fun id hid => h'.2 id (h.2 id hid)⟩

theorem keeping_orderly (w₀ : World) : (keeping w₀).Orderly where
  consistent h := Tidy.consistent h
  number h := h.1

variable {w₀ w : World}

theorem stays_run (hw : w.Consistent) (c : Command) (id : TaskId)
    (h : (w.ledger.task? id).isSome) : ((c.run w).2.ledger.task? id).isSome := by
  cases World.taskAfter_run hw c id with
  | same heq => rw [heq, h]
  | created hc hid heq => rw [heq, Option.isSome_some]
  | patched ht hp heq => rw [heq, Option.isSome_some]

theorem kept_of_mayDo (past : List Event) (w : World) (c : Command) (h : Tidy w₀ w)
    (hrec : Thread.Recorded (keeping w₀) (MayDo (keeping w₀)) past w)
    (ha : MayDo (keeping w₀) past w c) (hfree : Thread.NewIdFree w c) :
    Tidy w₀ (c.run w).2 ∧ (keeping w₀).later w (c.run w).2 := by
  have hR := keeping_orderly w₀
  have hn := c.le_nextNumber w
  have hstays := stays_run h.consistent c
  refine ⟨⟨h.consistent.run (ha.fresh hR hfree), fun id hid => hstays id (h.stays id hid),
    fun {id t} ht hnew => ?_⟩, hn, hstays⟩
  cases World.taskAfter_run h.consistent c id with
  | same heq => exact (h.distinct (heq.symm.trans ht) hnew).mono hn
  | created hc hid heq =>
    rw [heq, Option.some.injEq] at ht
    subst ht
    subst hc
    cases ha with
    | createTask hnew =>
      refine DistinctIds.mono ⟨hnew.entries.distinct, fun e he => ?_⟩ hn
      obtain ⟨n, hn, hid⟩ := hnew.entries.reserved e he
      exact hid ▸ World.old_text (Operation.lt_of_reserved hR hrec hn)
    | other hk _ => cases hk
  | @patched t' p ht' hp heq =>
    rw [heq, Option.some.injEq] at ht
    subst ht
    rcases p.apply_entries_cases w.clock t' with he | ⟨data, hdata, he⟩
    · rw [he]
      exact (h.distinct ht' hnew).mono hn
    · rcases hp with rfl | hp
      · cases ha with
        | updateTask hrecon =>
          obtain ⟨u, seen, first, rs, rfl, hseen, hfirst, hlast, -, rfl⟩ := hrecon data hdata
          rw [he]
          exact ((hseen.holds.distinct hseen.stored hnew).mergeResults hfirst hlast).mono hn
        | other hk _ => cases hk
      · rw [hp] at hdata
        cases hdata

/-! ### Tasks since their creation -/

/-- The second task is the first one later: its entries begin with those of the first. -/
structure Continues (t t' : Task) : Prop where
  type : t'.type = t.type
  begins : t.entries.map FetchEntry.label <+: t'.entries.map FetchEntry.label

theorem Continues.refl (t : Task) : Continues t t := ⟨rfl, List.prefix_refl _⟩

/-- The entries may be replaced by some that go on from those of a task which continues this one. -/
theorem Continues.apply {t t' : Task} (h : Continues t t') {p : TaskPatch} {now : Instant}
    (hp : ∀ data, p.fetchEntries = some data →
      t.entries.map FetchEntry.label <+: data.map FetchEntry.label) :
    Continues t (p.apply now t') := by
  refine ⟨TaskPatch.apply_type.trans h.type, ?_⟩
  rcases p.apply_entries_cases now t' with he | ⟨data, hdata, he⟩
  · rw [he]
    exact h.begins
  · rw [he]
    exact hp data hdata

/-- All that was stored or read of a task since its creation continues it. -/
structure Intact (w₀ : World) (s : Operation.State) : Prop where
  isNew : ∀ {t}, Operation.Happened s ⟨.createTask t, .ok ()⟩ → w₀.ledger.task? t.id = none
  stored : ∀ {t}, Operation.Happened s ⟨.createTask t, .ok ()⟩ →
    ∃ t', s.2.ledger.task? t.id = some t' ∧ Continues t t'
  seen : ∀ {t t'}, Operation.Happened s ⟨.createTask t, .ok ()⟩ →
    Operation.Happened s ⟨.findTask t.id, some t'⟩ → Continues t t'

section Step

variable {ts : List (Thread Unit)} {i : Nat} {past : List Event} {c : Command}
  {next : c.Answer → Program Unit} {t : Task}

/-- What a command leaves of a task that was created before. -/
theorem Intact.stored_run (h : Intact w₀ (ts, w)) (hw : Tidy w₀ w)
    (hi : ts[i]? = some ⟨past, .call c next⟩) (ha : MayDo (keeping w₀) past w c)
    (hfree : Thread.NewIdFree w c) (ht : Operation.Happened (ts, w) ⟨.createTask t, .ok ()⟩) :
    ∃ t', (c.run w).2.ledger.task? t.id = some t' ∧ Continues t t' := by
  obtain ⟨t', ht', hcont⟩ := h.stored ht
  cases World.taskAfter_run hw.consistent c t.id with
  | same heq => exact ⟨t', heq.trans ht', hcont⟩
  | @created u hc hid heq =>
    -- the id of a new task is not in use
    have hunused := (hfree u.id (by rw [hc, Command.newId?])).1.task
    rw [hid, show w.ledger.task? t.id = some t' from ht'] at hunused
    cases hunused
  | @patched u p hu hp heq =>
    obtain rfl : u = t' := Option.some.inj (hu.symm.trans ht')
    refine ⟨_, heq, hcont.apply fun data hdata => ?_⟩
    rcases hp with rfl | hp
    · cases ha with
      | updateTask hrecon =>
        obtain ⟨v, seen, first, rs, hid, hseen, -, -, -, rfl⟩ := hrecon data hdata
        have hevent : Operation.Happened (ts, w) ⟨.findTask t.id, some seen⟩ :=
          hid ▸ ⟨_, List.mem_of_getElem? hi, hseen.event⟩
        obtain ⟨added, hlabels, -⟩ := Merge.labels_mergeResults seen.entries
          (fun i => FreshId.text (first + i)) rs
        rw [hlabels]
        exact (h.seen ht hevent).begins.trans (List.prefix_append _ _)
      | other hk _ => cases hk
    · rw [hp] at hdata
      cases hdata

theorem Intact.act (h : Intact w₀ (ts, w)) (hi : ts[i]? = some ⟨past, .call c next⟩)
    (hl : Operation.Lawful (keeping w₀) (ts, w)) (ha : MayDo (keeping w₀) past w c)
    (hfree : Thread.NewIdFree w c) :
    Intact w₀ (ts.set i (Thread.after past c next w), (c.run w).2) := by
  have hw : Tidy w₀ w := hl.holds
  -- the id of a task that is created now is not in use
  have hunused : ∀ {t}, c = .createTask t → w.ledger.task? t.id = none := fun hc =>
    (hfree _ (by rw [hc, Command.newId?])).1.task
  refine ⟨fun {t} ht => ?_, fun {t} ht => ?_, fun {t t'} ht ht' => ?_⟩
  · rcases (Operation.happened_act (u := w) hi).1 ht with ht | he
    · exact h.isNew ht
    · have hnone := hunused (Scheduling.eq_createTask he).1
      cases h₀ : w₀.ledger.task? t.id with
      | none => rfl
      | some u =>
        have := hw.stays t.id (by rw [h₀, Option.isSome_some])
        rw [hnone] at this
        cases this
  · rcases (Operation.happened_act (u := w) hi).1 ht with ht | he
    · exact h.stored_run hw hi ha hfree ht
    · obtain ⟨rfl, hok⟩ := Scheduling.eq_createTask he
      exact ⟨t, by rw [(Scheduling.run_createTask_ok hok).2, if_pos rfl], .refl t⟩
  · rcases (Operation.happened_act (u := w) hi).1 ht with ht | he
    · rcases (Operation.happened_act (u := w) hi).1 ht' with ht' | he'
      · exact h.seen ht ht'
      · obtain ⟨u, hu, hcont⟩ := h.stored ht
        obtain ⟨rfl, hanswer⟩ := Event.mk.inj he'
        have hanswer : some t' = w.ledger.task? t.id := eq_of_heq hanswer
        obtain rfl : t' = u := Option.some.inj (hanswer.trans hu)
        exact hcont
    · obtain ⟨rfl, -⟩ := Scheduling.eq_createTask he
      have hnone := hunused rfl
      rcases (Operation.happened_act (u := w) hi).1 ht' with ht' | he'
      · -- nobody can have read the task before
        obtain ⟨_, v, -, -, hanswer, hlater⟩ := hl.of_happened ht'
        have hstays := hlater.2 t.id (by
          show (v.ledger.task? t.id).isSome
          rw [← show some t' = v.ledger.task? t.id from hanswer, Option.isSome_some])
        rw [hnone] at hstays
        cases hstays
      · obtain ⟨hc, -⟩ := Event.mk.inj he'
        cases hc

end Step

/-- Whatever the application is asked to do, in whatever order: the entries of a task begin with
those that it was created with, with their sensors and ids, and no two entries have one id. -/
theorem created_entries_stay (h₀ : w₀.Reachable) {s : Operation.State}
    (run : Operation.Steps ([], w₀) s) {t : Task} (ht : t ∈ Operation.created s) :
    ∃ t', s.2.ledger.task? t.id = some t' ∧ t'.type = t.type ∧
      t.entries.map FetchEntry.label <+: t'.entries.map FetchEntry.label ∧
      (t'.entries.map (·.dataId)).Nodup := by
  have hstart : Tidy w₀ w₀ := ⟨h₀.consistent, fun _ h => h, fun ht hnew => by
    rw [hnew] at ht
    cases ht⟩
  obtain ⟨hl, -, hK⟩ := run.keep (K := Intact w₀) (keeping_orderly w₀) kept_of_mayDo
    (fun w v hw hledger hn => ⟨⟨hw.consistent.outside hledger hn, by rw [hledger]; exact hw.stays,
      fun ht hnew => (hw.distinct (hledger ▸ ht) hnew).mono hn⟩, hn,
      by rw [hledger]; exact fun _ h => h⟩)
    (fun ts w i past c next hi hl h ha hfree => h.act hi hl ha hfree)
    (fun ts w p h => ⟨fun ht => h.isNew (Operation.happened_begin.1 ht),
      fun ht => h.stored (Operation.happened_begin.1 ht),
      fun ht ht' => h.seen (Operation.happened_begin.1 ht) (Operation.happened_begin.1 ht')⟩)
    (fun ts w v h hledger _ => ⟨h.isNew, by simp only [hledger]; exact h.stored, h.seen⟩)
    hstart ⟨fun h => by simp [Operation.Happened] at h, fun h => by simp [Operation.Happened] at h,
      fun h => by simp [Operation.Happened] at h⟩
  have ht := Operation.mem_created.1 ht
  obtain ⟨t', ht', hcont⟩ := hK.stored ht
  have hw : Tidy w₀ s.2 := hl.holds
  exact ⟨t', ht', hcont.type, hcont.begins, (hw.distinct ht' (hK.isNew ht)).nodup⟩

/-- A task is created, and two reports about it overlap: the one that changes the task last has not
seen the entry that the other one added. -/
theorem created_entries_race :
    let sensor := FetchReport.Sample.sensor.id
    let clock := FetchReport.Sample.clock
    let request : TaskRequest :=
      ⟨some "again", none, none, .empty, .fetch ⟨.sensor, [⟨sensor, "a.csv"⟩], clock, none⟩⟩
    let report (name : String) : Operation := .handle .standard .taskStatus
      (.document (StatusReport.toJson FetchResult.listToJson ⟨FreshId.text 5, .dataFetch, .done,
        none, none, none, some [FetchReport.Sample.brought none name]⟩))
    let ops := [.createTask "ada" request, report "b.csv", report "c.csv"]
    let start := ops.map fun op => Thread.start op.program
    let order := List.replicate 6 0 ++ [1, 2] ++ List.replicate 8 1 ++ List.replicate 8 2
    let s := Thread.turns (start, FetchReport.Sample.world) order
    (Operation.created s).map (fun t => (t.id, t.entries.map FetchEntry.label)) =
        [(FreshId.text 5, [(sensor, FreshId.text 4)])] ∧
      (s.2.ledger.task? (FreshId.text 5)).map
          (fun t => t.entries.map fun e => (e.label, e.fileName)) =
        some [((sensor, FreshId.text 4), some "a.csv"), ((sensor, FreshId.text 9), some "c.csv")] ∧
      ∀ t ∈ Operation.created s, ∃ t', s.2.ledger.task? t.id = some t' ∧ t'.type = t.type ∧
        t.entries.map FetchEntry.label <+: t'.entries.map FetchEntry.label ∧
        (t'.entries.map (·.dataId)).Nodup := by
  intro sensor clock request report ops start order s
  have hbegin : Operation.Steps ([], FetchReport.Sample.world) (start, FetchReport.Sample.world) :=
    .tail (.tail (.tail .refl (.begin _)) (.begin _)) (.begin _)
  have hrun : Operation.Steps ([], FetchReport.Sample.world) s :=
    hbegin.trans (Operation.Steps.act (Thread.Steps.turns _ order))
  refine ⟨by decide +kernel, by decide +kernel, fun t ht => ?_⟩
  exact created_entries_stay FetchReport.Sample.world_reachable hrun ht

end SensorTasks

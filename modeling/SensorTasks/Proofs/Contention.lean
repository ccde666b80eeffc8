import SensorTasks.Proofs.Handling
import SensorTasks.Proofs.ResultFiles

/-!
Reports that are handled at the same time and bring files. A handling looks for the file of a result
and creates it by a later command, which does not look again. Between the two another handling may
have created the file. So tasks have one file for each sensor and name, in any order of the
commands, just if no two of the reports bring the same file: each handling then finds that still
missing which it has just looked for in vain.
-/

namespace SensorTasks

open Message Inbox Ledger Ledger.Key

/-! ### Twins -/

/-- One task has created both files, for a common sensor and under one name. -/
def File.Twin (f g : File) : Prop :=
  f.createdByTask.isSome = true ∧ g.createdByTask = f.createdByTask ∧ g.name = f.name ∧
    ∃ sensor ∈ f.metadata.sensors, sensor ∈ g.metadata.sensors

instance (f g : File) : Decidable (f.Twin g) :=
  inferInstanceAs (Decidable (_ ∧ _ ∧ _ ∧ _))

/-- No two of the stored files are twins. -/
def Ledger.Twinless (l : Ledger) : Prop :=
  ∀ id id' f g, l.file? id = some f → l.file? id' = some g → f.Twin g → id = id'

theorem File.twin_of_origin {f g : File} {task : TaskId} {sensor : SensorId} {name : String}
    (hf : f.origin = (some task, [sensor], name)) (hg : g.origin = (some task, [sensor], name)) :
    f.Twin g := by
  simp only [File.origin, Prod.mk.injEq] at hf hg
  exact ⟨by rw [hf.1]; rfl, by rw [hg.1, hf.1], by rw [hg.2.2, hf.2.2], sensor, by simp [hf.2.1],
    by simp [hg.2.1]⟩

/-- The index leads to every file of a task, so there is no other one like it. -/
theorem World.Filed.twinless {w : World} (hf : w.Filed) (hw : w.Consistent) :
    w.ledger.Twinless := by
  rintro id id' f g hid hid' ⟨htask, htask', hname, sensor, hs, hs'⟩
  obtain ⟨task, htask⟩ := Option.isSome_iff_exists.1 htask
  obtain ⟨ht, a, ha, hsensors⟩ := hf.filed.files _ f hid task htask
  obtain ⟨-, b, -, hsensors'⟩ := hf.filed.files _ g hid' task (htask'.trans htask)
  rw [hsensors, List.mem_singleton] at hs
  rw [hsensors', List.mem_singleton] at hs'
  subst hs hs'
  have hfind : w.ledger.fileOf? task sensor f.name = some f :=
    (hf.filed.fileOf?_eq_some ht ha).2
      ⟨Table.mem_values.2 ⟨_, hid⟩, by rw [File.origin, htask, hsensors]⟩
  have hfind' : w.ledger.fileOf? task sensor f.name = some g :=
    (hf.filed.fileOf?_eq_some ht ha).2
      ⟨Table.mem_values.2 ⟨_, hid'⟩, by rw [File.origin, htask', htask, hsensors', hname]⟩
  obtain rfl := Option.some.inj (hfind.symm.trans hfind')
  rw [← hw.indexed.file_id hid, ← hw.indexed.file_id hid']

/-! ### What is lacking -/

namespace Ledger

variable {l l' : Ledger} {task task' : TaskId} {slot : SensorId × String}

theorem lacks_iff : l.lacks task slot = true ↔
    (l.sensor? slot.1).isSome = true ∧ l.fileOf? task slot.1 slot.2 = none := by
  simp [lacks]

/-- Only sensors and files matter for what is lacking. -/
theorem lacks_congr (hs : l'.sensors = l.sensors) (hf : l'.files = l.files)
    (hi : l'.fileIndex = l.fileIndex) (task : TaskId) (slot : SensorId × String) :
    l'.lacks task slot = l.lacks task slot := by
  unfold lacks sensor? fileOf?
  rw [hs, hi, show l'.file? = l.file? from funext fun id => by rw [file?, file?, hf]]

/-- A new file of one task is none of another one. -/
theorem lacks_createFile_of_ne (hl : l.Indexed)
    (hplain : ∀ {id s}, l.sensor? id = some s → Plain id) (ht : Plain task) (ht' : Plain task')
    (hs : Plain slot.1) {f : File} (hid : l.file? f.id = none)
    (hkeys : indexKeys f = [Key.fileOf task slot.1 slot.2]) (hne : task' ≠ task)
    (other : SensorId × String) : (l.createFile f).lacks task' other = l.lacks task' other := by
  have hfile := hl.fileOf?_createFile hid task' other.1 other.2
  simp only [hkeys, List.mem_singleton] at hfile
  change ((l.sensor? other.1).isSome && ((l.createFile f).fileOf? task' other.1 other.2).isNone) = _
  rw [hfile, lacks]
  cases hsensor : l.sensor? other.1 with
  | none => rfl
  | some s =>
    rw [if_neg]
    exact fun hk => hne (fileOf_injective ht' ht (hplain hsensor) hs hk).1

end Ledger

namespace FetchReport

/-! ### What a report brings -/

/-- The report names the sensor and the name, its task is stored and fetches, and the sensor is
known. -/
structure Names (m : FetchReport) (w : World) (slot : SensorId × String) : Prop where
  task : (w.ledger.task? m.task).map Task.type = some .dataFetch
  mem : slot ∈ m.results.map (·.slot)
  sensor : (w.ledger.sensor? slot.1).isSome = true

/-- The report brings the file for the sensor under the name: it names them, and there is none. -/
def Brings (m : FetchReport) (w : World) (slot : SensorId × String) : Prop :=
  m.Names w slot ∧ w.ledger.lacks m.task slot = true

/-- What was done last is to look for the file, in vain. -/
def Missed (past : List Event) (task : TaskId) (slot : SensorId × String) : Prop :=
  past.getLast? = some ⟨.findFileOf task slot.1 slot.2, none⟩

theorem missed_append {past : List Event} {e : Event} {task : TaskId}
    {slot : SensorId × String} :
    Missed (past ++ [e]) task slot ↔ e = ⟨.findFileOf task slot.1 slot.2, none⟩ := by
  simp [Missed]

/-! ### The rules -/

/-- What handlings that bring files may count on: the worlds are consistent, and the sensors and the
kinds of the tasks stay as they are. -/
def bringing (w : World) : Rely where
  holds v := v.Consistent ∧ v.ledger.sensors = w.ledger.sensors ∧
    ∀ id, (v.ledger.task? id).map Task.type = (w.ledger.task? id).map Task.type
  later := Rely.consistency.later
  refl := Rely.consistency.refl
  trans := Rely.consistency.trans

theorem bringing_orderly (w : World) : (bringing w).Orderly := ⟨fun h => h.1, id⟩

/-- The rules of a handling, seen from the world in which the reports arrive: it looks for what it
names, and creates only what it has just looked for in vain. -/
inductive MayBring (w : World) (m : FetchReport) (past : List Event) : Command → Prop where
  | lookUp {c : Command} (h : c.isLookup = true)
    (hc : ∀ task sensor name, c ≠ .findFileOf task sensor name) : MayBring w m past c
  | lookFor {slot : SensorId × String} (h : m.Names w slot) :
    MayBring w m past (.findFileOf m.task slot.1 slot.2)
  | create {new : NewFile} {slot : SensorId × String} (h : Missed past m.task slot)
    (hnew : (new.createdByTask, new.metadata.sensors, new.name) =
      (some m.task, [slot.1], slot.2)) : MayBring w m past (.createFile new)
  | update (p : TaskPatch) : MayBring w m past (.updateTask m.task p)

/-- A handling keeps to the rules of all operations, and to those of handlings that bring files. -/
def mayBring (w : World) (m : FetchReport) : Rules := fun past v c =>
  MayDo (bringing w) past v c ∧ MayBring w m past c

variable {u v w : World} {m : FetchReport} {t : Task} {past : List Event} {r : FetchResult}

theorem fileFor_brings (hid : t.id = m.task) {s : Sensor} (hs : s.id = r.sensorId)
    (hnames : m.Names w r.slot) :
    (Report.fileFor t s r).Ensures (bringing w) (fun past _ c => MayBring w m past c)
      (fun _ _ _ => True) past u := by
  unfold Report.fileFor
  rw [hid, hs]
  refine Action.Ensures.perform fun v _ _ => ⟨.lookFor hnames, fun _ _ => ?_⟩
  simp only [Command.run]
  cases hf : v.ledger.fileOf? m.task r.sensorId r.fileName with
  | some f => exact Action.Ensures.pure fun _ _ _ => trivial
  | none =>
    intro x _ _
    have hmissed : Missed (past ++ [⟨.findFileOf m.task r.sensorId r.fileName, none⟩]) m.task
        r.slot := missed_append.2 rfl
    refine ⟨.create hmissed ?_, fun _ _ _ _ _ => trivial⟩
    simp only [Report.newFile, hid, hs, FetchResult.slot]

theorem resolveAll_brings (hid : t.id = m.task) {rs : List FetchResult}
    (hrs : ∀ r ∈ rs, r ∈ m.results)
    (ht : (w.ledger.task? m.task).map Task.type = some .dataFetch) :
    (Report.resolveAll t rs).Ensures (bringing w) (fun past _ c => MayBring w m past c)
      (fun _ _ _ => True) past u := by
  induction rs generalizing past u with
  | nil => exact Action.Ensures.pure fun _ _ _ => trivial
  | cons r rs ih =>
    have hresolve : (Report.resolve t r).Ensures (bringing w) (fun past _ c => MayBring w m past c)
        (fun _ _ _ => True) past u := by
      unfold Report.resolve
      refine Action.Ensures.perform fun v hv _ =>
        ⟨.lookUp rfl (fun _ _ _ h => by cases h), fun _ _ => ?_⟩
      have hsensor : ∀ id, v.ledger.sensor? id = w.ledger.sensor? id := fun id => by
        unfold Ledger.sensor?
        rw [hv.2.1]
      simp only [Command.run]
      cases hs : v.ledger.sensor? r.sensorId with
      | none => exact Action.Ensures.pure fun _ _ _ => trivial
      | some s =>
        have hnames : m.Names w r.slot := by
          refine ⟨ht, List.mem_map.2 ⟨r, hrs r List.mem_cons_self, rfl⟩, ?_⟩
          rw [← hsensor, FetchResult.slot, hs]
          rfl
        refine (fileFor_brings hid (hv.1.indexed.sensor_id hs) hnames).bind fun _ _ _ _ _ _ => ?_
        exact Action.Ensures.pure fun _ _ _ => trivial
    unfold Report.resolveAll
    refine hresolve.bind fun _ _ _ _ _ _ => ?_
    refine (ih fun a ha => hrs a (List.mem_cons_of_mem r ha)).bind fun _ _ _ _ _ _ => ?_
    exact Action.Ensures.pure fun _ _ _ => trivial

theorem update_brings (hid : t.id = m.task) (now : Instant) (entries : Option (List FetchEntry)) :
    (m.update t now entries).run.Obeys (bringing w) (fun past _ c => MayBring w m past c)
      (fun _ _ _ => True) past u := by
  rw [update_program, hid]
  refine fun v _ _ => ⟨.update _, fun _ _ => ?_⟩
  cases (Command.run (.updateTask m.task (m.patch now entries)) v).1 <;> exact fun _ _ _ => trivial

theorem apply_brings (hid : t.id = m.task) (now : Instant)
    (ht : (w.ledger.task? m.task).map Task.type = some .dataFetch) :
    (m.apply t now).run.Obeys (bringing w) (fun past _ c => MayBring w m past c)
      (fun _ _ _ => True) past u := by
  cases hrs : FetchResult.listDecoder.fromValue m.body with
  | error e =>
    rw [apply_of_error hrs]
    exact fun _ _ _ => trivial
  | ok rs =>
    rw [apply_of_ok hrs, ← results_of_ok hrs]
    by_cases hempty : m.results.isEmpty
    · rw [if_pos hempty]
      exact update_brings hid now none
    · rw [if_neg hempty, Action.run_bind]
      have hreconcile : (Report.reconcile t m.results).Ensures (bringing w)
          (fun past _ c => MayBring w m past c) (fun _ _ _ => True) past u := by
        refine (resolveAll_brings hid (fun _ h => h) ht).bind fun _ _ _ _ _ _ => ?_
        exact Action.Ensures.perform fun _ _ _ =>
          ⟨.lookUp rfl (fun _ _ _ h => by cases h), fun _ _ => .pure fun _ _ _ => trivial⟩
      refine Program.Obeys.bind ((hreconcile.mapError fun _ _ _ _ _ _ h => h).mono
        (fun _ _ _ _ h => h) fun _ _ res _ hres => ?_)
      cases res with
      | ok entries => exact update_brings hid now entries
      | error e => exact hres.elim

/-- A handling keeps to its rules, whatever other handlings do. -/
theorem handle_brings (m : FetchReport) (w u : World) :
    m.handle.Obeys (bringing w) (mayBring w m) (fun _ _ _ => True) [] u := by
  have hbrings : m.handle.Obeys (bringing w) (fun past _ c => MayBring w m past c)
      (fun _ _ _ => True) [] u := by
    rw [handle_eq, Action.run_perform_bind]
    refine fun v hv _ => ⟨.lookUp rfl (fun _ _ _ h => by cases h), fun _ _ => ?_⟩
    simp only [Command.run]
    cases ht : v.ledger.task? m.task with
    | none => exact fun _ _ _ => trivial
    | some t =>
      dsimp only
      split
      · rename_i htype
        refine fun _ _ _ => ⟨.lookUp rfl (fun _ _ _ h => by cases h), fun _ _ => ?_⟩
        refine apply_brings (hv.1.indexed.task_id ht) _ ?_
        rw [← hv.2.2, ht, Option.map_some, htype]
      · exact fun _ _ _ => trivial
  exact ((complies_process (bringing_orderly w) .standard m.key m.payload [] u).and hbrings).mono
    (fun _ _ _ _ h => h) fun _ _ _ _ _ => trivial

/-! ### One step -/

/-- What was just looked for in vain is named by the report, and still lacking. -/
def Pending (w : World) (m : FetchReport) (past : List Event) (v : World) : Prop :=
  ∀ task slot, Missed past task slot →
    task = m.task ∧ m.Names w slot ∧ v.ledger.lacks task slot = true

theorem Names.plain {slot : SensorId × String} (h : m.Names w slot) (hf : w.Filed) :
    Plain m.task ∧ Plain slot.1 := by
  obtain ⟨t, ht, -⟩ := Option.map_eq_some_iff.1 h.task
  obtain ⟨s, hs⟩ := Option.isSome_iff_exists.1 h.sensor
  exact ⟨hf.plain_task ht, hf.plain_sensor hs⟩

theorem mayBring_fresh {c : Command} (h : mayBring w m past v c) : c.Fresh v := by
  refine h.1.fresh (bringing_orderly w) fun id hid => ?_
  cases h.2 with
  | lookUp hlook _ =>
    rw [Command.newId?_of_isLookup hlook] at hid
    cases hid
  | _ => cases hid

/-- What a handling may count on, it leaves to the others. -/
theorem bringing_step (hv : (bringing w).holds v) {c : Command} (h : mayBring w m past v c) :
    (bringing w).holds (c.run v).2 ∧ (bringing w).later v (c.run v).2 := by
  refine ⟨⟨hv.1.run (mayBring_fresh h), ?_⟩, c.le_nextNumber v⟩
  cases h.2 with
  | lookUp hlook _ =>
    rw [Command.ledger_of_isLookup hlook]
    exact hv.2
  | lookFor _ => exact hv.2
  | create _ _ => exact hv.2
  | update p =>
    simp only [Command.run, Ledger.updateTask]
    cases ht : v.ledger.task? m.task with
    | none => exact hv.2
    | some t =>
      refine ⟨hv.2.1, fun id => ?_⟩
      simp only [World.commit]
      rw [Ledger.task?_putTask, ← hv.2.2, TaskPatch.apply_id, hv.1.indexed.task_id ht]
      split
      · rename_i hid
        rw [hid, ht, Option.map_some, TaskPatch.apply_type, Option.map_some]
      · rfl

/-- The step of a handling leaves the index of the files exact. -/
theorem filed_step (hwf : w.Filed) (hv : (bringing w).holds v) (hf : v.Filed)
    (hp : Pending w m past v) {c : Command} (h : mayBring w m past v c) : (c.run v).2.Filed := by
  cases h.2 with
  | lookUp hlook _ => exact hf.outside (Command.ledger_of_isLookup hlook v)
  | lookFor _ => exact hf
  | create hmissed hnew =>
    obtain ⟨-, hnames, hlacks⟩ := hp _ _ hmissed
    exact (World.Adds.createFile hv.1 hf (hnames.plain hwf).1 hlacks hnew).filed
  | update p => exact hf.run hv.1 (fun id hid => by cases hid) fun new hnew => by cases hnew

/-- The file that the step of a handling creates is lacking no more; else nothing changes. -/
theorem lacks_step (hwf : w.Filed) (hv : (bringing w).holds v) (hf : v.Filed)
    (hp : Pending w m past v) {c : Command} (h : mayBring w m past v c) {task : TaskId}
    (ht : Plain task) (slot : SensorId × String) :
    (c.run v).2.ledger.lacks task slot = v.ledger.lacks task slot ∨
      (c.run v).2.ledger.lacks task slot = false ∧ Missed past task slot ∧ task = m.task ∧
        ∃ new, c = .createFile new ∧ (new.createdByTask, new.metadata.sensors, new.name) =
          (some task, [slot.1], slot.2) := by
  cases h.2 with
  | lookUp hlook _ => exact Or.inl (by rw [Command.ledger_of_isLookup hlook])
  | lookFor _ => exact Or.inl rfl
  | update p =>
    refine Or.inl ?_
    simp only [Command.run, Ledger.updateTask]
    cases v.ledger.task? m.task with
    | none => rfl
    | some t => exact lacks_congr rfl rfl rfl task slot
  | @create new slot' hmissed hnew =>
    obtain ⟨-, hnames, hlacks⟩ := hp _ _ hmissed
    obtain ⟨hplain, hs⟩ := hnames.plain hwf
    by_cases htask : task = m.task
    · subst htask
      have hlacks' := (World.Adds.createFile hv.1 hf hplain hlacks hnew).lacks slot
      by_cases hslot : slot = slot'
      · subst hslot
        exact Or.inr ⟨by simpa using hlacks', hmissed, rfl, new, rfl, hnew⟩
      · rw [beq_eq_false_iff_ne.2 hslot, Bool.not_false, Bool.true_and] at hlacks'
        exact Or.inl hlacks'
    · refine Or.inl (lacks_createFile_of_ne hv.1.indexed hf.plain_sensor hplain ht hs
        hv.1.next_file ?_ htask slot)
      simp only [Prod.mk.injEq] at hnew
      simp only [indexKeys, File.ofNew, hnew.1, hnew.2.1, hnew.2.2, List.map_cons, List.map_nil]

/-- What a handling has looked for in vain is pending right after that. -/
theorem pending_step (hv : (bringing w).holds v) {c : Command} (h : mayBring w m past v c) :
    Pending w m (past ++ [⟨c, (c.run v).1⟩]) (c.run v).2 := by
  intro task slot hmissed
  have he := missed_append.1 hmissed
  cases h.2 with
  | lookUp _ hc => exact absurd (congrArg Event.command he) (hc _ _ _)
  | create _ _ => cases congrArg Event.command he
  | update p => cases congrArg Event.command he
  | @lookFor slot' hnames =>
    obtain ⟨hc, hanswer⟩ := Event.mk.inj he
    obtain ⟨rfl, hsensor, hname⟩ := Command.findFileOf.inj hc
    obtain rfl : slot' = slot := Prod.ext hsensor hname
    refine ⟨rfl, hnames, lacks_iff.2 ⟨?_, eq_of_heq hanswer⟩⟩
    have hsame : v.ledger.sensor? slot'.1 = w.ledger.sensor? slot'.1 := by
      unfold Ledger.sensor?
      rw [hv.2.1]
    exact hsame ▸ hnames.sensor

/-! ### Reports that bring different files -/

/-- What the handlings of reports keep that bring different files. -/
structure KeptApart (w : World) (ms : List FetchReport) (s : List Handler × World) : Prop where
  filed : s.2.Filed
  lacked : ∀ task, Plain task → ∀ slot, s.2.ledger.lacks task slot = true →
    w.ledger.lacks task slot = true
  pending : ∀ (i : Nat) (th : Handler) m, s.1[i]? = some th → ms[i]? = some m →
    Pending w m th.past s.2

/-- No two of the reports bring the same file. -/
def Apart (w : World) (ms : List FetchReport) : Prop :=
  ∀ (i j : Nat) (m m' : FetchReport), i ≠ j → ms[i]? = some m → ms[j]? = some m' →
    m'.task = m.task → ∀ slot, m.Brings w slot → ¬m'.Brings w slot

variable {ms : List FetchReport} {ts : List Handler}

theorem KeptApart.step (hwf : w.Filed) (hms : Apart w ms) {i : Nat} {c : Command}
    {next : c.Answer → Program (Except ConsumeError Unit)} (h : KeptApart w ms (ts, v))
    (hv : (bringing w).holds v) (hi : ts[i]? = some ⟨past, .call c next⟩) (hm : ms[i]? = some m)
    (ha : mayBring w m past v c) :
    KeptApart w ms (ts.set i (Thread.after past c next v), (c.run v).2) := by
  have hp : Pending w m past v := h.pending i _ m hi hm
  have hlacks := fun {task} (ht : Plain task) => lacks_step hwf hv h.filed hp ha ht
  refine ⟨filed_step hwf hv h.filed hp ha, fun task ht slot hs => ?_, fun k th m' hk hm' => ?_⟩
  · rcases hlacks ht slot with hsame | ⟨hnot, -⟩
    · exact h.lacked task ht slot (hsame.symm.trans hs)
    · cases hnot.symm.trans hs
  · rcases Thread.of_set hk with ⟨rfl, rfl⟩ | ⟨hki, hk⟩
    · obtain rfl := Option.some.inj (hm.symm.trans hm')
      exact pending_step hv ha
    · -- what another one has looked for in vain is not what is created now
      intro task slot hmissed
      obtain ⟨rfl, hnames, hlack⟩ := h.pending k th m' hk hm' task slot hmissed
      have hplain := (hnames.plain hwf).1
      refine ⟨rfl, hnames, ?_⟩
      rcases hlacks hplain slot with hsame | ⟨-, hmissed', htask, -⟩
      · exact hsame.trans hlack
      · obtain ⟨-, hnames', -⟩ := hp _ _ hmissed'
        have hwas := h.lacked _ hplain slot hlack
        exact absurd ⟨hnames', htask ▸ hwas⟩
          (hms k i m' m hki hm' hm htask.symm slot ⟨hnames, hwas⟩)

/-- Handlings of reports that bring different files keep the index of the files exact. -/
theorem filed_of_steps (hw : w.Consistent) (hwf : w.Filed) (hms : Apart w ms)
    (run : Thread.Steps (ms.map fun m => Thread.start m.handle, w) (ts, v)) :
    v.Consistent ∧ v.Filed := by
  have hstart : Thread.Lawful (bringing w)
      (fun i past v c => ∃ m, ms[i]? = some m ∧ mayBring w m past v c) (fun _ _ _ _ => True)
      (ms.map fun m => Thread.start m.handle, w) :=
    Thread.Lawful.start ⟨hw, rfl, fun _ => rfl⟩ fun i m hm =>
      (handle_brings m w w).mono (fun _ _ _ _ h => ⟨m, hm, h⟩) fun _ _ _ _ h => h
  have hJ : KeptApart w ms (ms.map fun m => Thread.start m.handle, w) := by
    refine ⟨hwf, fun _ _ _ h => h, fun i th m hi _ task slot hmissed => ?_⟩
    obtain ⟨m', -, rfl⟩ := Thread.of_start hi
    cases hmissed
  obtain ⟨hl, hJ, -⟩ := run.lawful (fun ts v i past c next hi hl hJ ha => by
    obtain ⟨m, hm, ha⟩ := ha
    obtain ⟨hh, hlater⟩ := bringing_step hl.holds ha
    exact ⟨hh, hlater, hJ.step hwf hms hl.holds hi hm ha⟩) hstart hJ
  exact ⟨hl.holds.1, hJ.filed⟩

/-! ### Reports that bring the same file -/

/-- After its handling, a report has the files that it names. -/
theorem exists_fileOf_handle {slot : SensorId × String} (hu : (bringing w).holds u)
    (h : m.Names w slot) :
    ∃ f, (m.handle.run u).2.ledger.fileOf? m.task slot.1 slot.2 = some f := by
  obtain ⟨t, ht, htype⟩ := Option.map_eq_some_iff.1 ((hu.2.2 m.task).trans h.task)
  obtain ⟨hmore, hresolves, -⟩ := handle_run hu.1 ht htype
  obtain ⟨r, hr, rfl⟩ := List.mem_map.1 h.mem
  obtain ⟨s, hs⟩ := Option.isSome_iff_exists.1 h.sensor
  have hs' : (m.handle.run u).2.ledger.sensor? r.sensorId = some s := by
    rw [hmore.sensor?, Ledger.sensor?, hu.2.1]
    exact hs
  have hfile := hresolves r hr s hs'
  rw [hmore.consistent.indexed.sensor_id hs'] at hfile
  exact Option.isSome_iff_exists.1 hfile

/-- A handling that runs by itself keeps the index of the files exact. -/
theorem filed_handle (hu : u.Consistent) (hf : u.Filed) (m : FetchReport) :
    (m.handle.run u).2.Consistent ∧ (m.handle.run u).2.Filed := by
  have hrun : u.after (.handle .standard m.key m.payload) = (m.handle.run u).2 :=
    Operation.forget_run _ u
  rw [← hrun]
  exact ⟨Operation.consistent_run hu _, hf.after hu _⟩

/-- A second file for what has one already. -/
theorem not_twinless_createFile (hv : v.Consistent) (hf : v.Filed) {task : TaskId}
    {slot : SensorId × String} (ht : Plain task) (hs : Plain slot.1) {f : File}
    (hfile : v.ledger.fileOf? task slot.1 slot.2 = some f) {new : NewFile}
    (hnew : (new.createdByTask, new.metadata.sensors, new.name) =
      (some task, [slot.1], slot.2)) :
    ¬((Command.createFile new).run v).2.ledger.Twinless := by
  intro h
  have hstored := hv.indexed.file?_of_fileOf? hfile
  have hne : f.id ≠ FreshId.text v.nextNumber := fun he => by
    rw [he, hv.next_file] at hstored
    cases hstored
  have hfile? : ∀ id, ((Command.createFile new).run v).2.ledger.file? id =
      if id = FreshId.text v.nextNumber then
        some (File.ofNew new (FreshId.text v.nextNumber) v.clock) else v.ledger.file? id :=
    fun id => Ledger.file?_createFile _ _ _
  have horigin := ((hf.filed.fileOf?_eq_some ht hs).1 hfile).2
  exact hne (h _ _ _ _ ((hfile? f.id).trans ((if_neg hne).trans hstored))
    ((hfile? _).trans (if_pos rfl)) (File.twin_of_origin horigin hnew))

/-- One handling may stop right before it creates a file, and go on after another one has created
the same. -/
theorem exists_twins (hw : w.Consistent) (hwf : w.Filed) {i j : Nat} {m m' : FetchReport}
    (hij : i ≠ j) (hi : ms[i]? = some m) (hj : ms[j]? = some m') (htask : m'.task = m.task)
    {slot : SensorId × String} (h : m.Brings w slot) (h' : m'.Brings w slot) :
    ∃ ts v, Thread.Steps (ms.map fun m => Thread.start m.handle, w) (ts, v) ∧
      ¬v.ledger.Twinless := by
  have hstart : ∀ {k : Nat} {m : FetchReport}, ms[k]? = some m →
      (ms.map fun m => Thread.start m.handle)[k]? = some (Thread.start m.handle) :=
    fun hk => by rw [List.getElem?_map, hk, Option.map_some]
  have hholds : (bringing w).holds w := ⟨hw, rfl, fun _ => rfl⟩
  obtain ⟨hplain, hs⟩ := h.1.plain hwf
  obtain ⟨g, hg⟩ := exists_fileOf_handle hholds h.1
  have hend : ¬(m.handle.run w).2.ledger.lacks m.task slot = true := fun hl => by
    rw [(lacks_iff.1 hl).2] at hg
    cases hg
  obtain ⟨past, c, next, u, hrun, hu, ⟨huf, hp⟩, ha, hlacks, hbreaks⟩ :=
    Thread.Steps.exists_breaking (P := fun v => v.ledger.lacks m.task slot = true)
      (K := fun past v => v.Filed ∧ Pending w m past v)
      (fun past v c hv hK ha => ⟨(bringing_step hv ha).1, (bringing_step hv ha).2,
        filed_step hwf hv hK.1 hK.2 ha, pending_step hv ha⟩)
      (handle_brings m w w) hholds ⟨hwf, fun _ _ hmissed => by cases hmissed⟩ h.2 hend (hstart hi)
  rcases lacks_step hwf hu huf hp ha hplain slot with hsame | ⟨-, -, -, new, rfl, hnew⟩
  · exact absurd (hsame.trans hlacks) hbreaks
  · let paused : Handler := ⟨past, .call (.createFile new) next⟩
    have hwaiting : ((ms.map fun m => Thread.start m.handle).set i paused)[j]? =
        some (Thread.start m'.handle) := (List.getElem?_set_ne hij).trans (hstart hj)
    obtain ⟨past', hrun'⟩ := Thread.Steps.finish (w := u) hwaiting
    obtain ⟨f, hf⟩ := exists_fileOf_handle hu h'.1
    obtain ⟨hv, hvf⟩ := filed_handle hu.1 huf m'
    have hpaused : (((ms.map fun m => Thread.start m.handle).set i paused).set j
        ⟨past', .done (m'.handle.run u).1⟩)[i]? = some paused :=
      (List.getElem?_set_ne (Ne.symm hij)).trans
        (List.getElem?_set_self (List.getElem?_eq_some_iff.1 (hstart hi)).1)
    refine ⟨_, _, (hrun.trans hrun').tail (.mk hpaused), ?_⟩
    exact not_twinless_createFile hv hvf hplain hs (htask ▸ hf) hnew

/-- Reports that are handled at the same time, in any order of their commands, never leave two files
that one task has created for one sensor under one name, just if no two of them bring the same
file. -/
theorem twinless_iff (hw : w.Consistent) (hwf : w.Filed) (ms : List FetchReport) :
    (∀ ts v, Thread.Steps (ms.map fun m => Thread.start m.handle, w) (ts, v) →
      v.ledger.Twinless) ↔ Apart w ms := by
  constructor
  · intro h i j m m' hij hi hj htask slot hb hb'
    obtain ⟨ts, v, hrun, htwins⟩ := exists_twins hw hwf hij hi hj htask hb hb'
    exact htwins (h ts v hrun)
  · intro hms ts v hrun
    obtain ⟨hv, hvf⟩ := filed_of_steps hw hwf hms hrun
    exact hvf.twinless hv

open FetchReport.Sample

/-- If `early` is handled together with a report that brings `b.csv` only, there are no twins in any
order; together with itself there are. -/
theorem twinless_of_other :
    let other := (ofMessage? .taskStatus (message [brought none "b.csv"])).get (by decide +kernel)
    world.Consistent ∧ world.Filed ∧
      (∀ ts v, Thread.Steps ([early, other].map fun m => Thread.start m.handle, world) (ts, v) →
        v.ledger.Twinless) ∧
      ¬∀ ts v, Thread.Steps ([early, early].map fun m => Thread.start m.handle, world) (ts, v) →
        v.ledger.Twinless := by
  intro other
  obtain ⟨hw, hf⟩ := World.sequential_sample.filed
  have hslots : early.results.map (·.slot) = [(sensor.id, "a.csv"), (sensor.id, "c.csv")] := by
    decide +kernel
  have hslots' : other.results.map (·.slot) = [(sensor.id, "b.csv")] := by decide +kernel
  have hdisjoint : ∀ slot ∈ early.results.map (·.slot), slot ∉ other.results.map (·.slot) := by
    rw [hslots, hslots']
    decide
  refine ⟨hw, hf, (twinless_iff hw hf _).2 ?_, fun h => ?_⟩
  · intro i j m m' hij hi hj _ slot hb hb'
    match i, j, hi, hj, hij with
    | 0, 1, hi, hj, _ =>
      cases hi
      cases hj
      exact hdisjoint slot hb.1.mem hb'.1.mem
    | 1, 0, hi, hj, _ =>
      cases hi
      cases hj
      exact hdisjoint slot hb'.1.mem hb.1.mem
    | 0, 0, _, _, hij => exact hij rfl
    | 1, 1, _, _, hij => exact hij rfl
    | n + 2, _, hi, _, _ => cases hi
    | _, n + 2, _, hj, _ => cases hj
  · have hb : early.Brings world (sensor.id, "a.csv") := by
      refine ⟨⟨by rw [world_task]; rfl, by rw [hslots]; exact List.mem_cons_self, ?_⟩, ?_⟩
      all_goals decide +kernel
    exact (twinless_iff hw hf _).1 h 0 1 early early (by decide) rfl rfl rfl _ hb hb

/-- One report that is delivered twice: if the handlings take turns, both create `a.csv`. -/
theorem twins_of_repeated :
    let start := [early, early].map fun m => Thread.start m.handle
    let s := Thread.turns (start, world) (List.replicate 20 [0, 1]).flatten
    Thread.AllDone s.1 ∧ ¬s.2.ledger.Twinless := by
  intro start s
  refine ⟨Thread.allDone_iff.2 (by decide +kernel), fun h => ?_⟩
  have horigins : (s.2.ledger.file? (FreshId.text 4)).map File.origin =
        some (some fetching.id, [sensor.id], "a.csv") ∧
      (s.2.ledger.file? (FreshId.text 5)).map File.origin =
        some (some fetching.id, [sensor.id], "a.csv") := by decide +kernel
  obtain ⟨f, hf, horigin⟩ := Option.map_eq_some_iff.1 horigins.1
  obtain ⟨g, hg, horigin'⟩ := Option.map_eq_some_iff.1 horigins.2
  have hsame := h _ _ f g hf hg (File.twin_of_origin horigin horigin')
  exact absurd (FreshId.text_injective hsame) (by decide)

end FetchReport

end SensorTasks

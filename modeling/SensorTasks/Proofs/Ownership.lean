import SensorTasks.Proofs.Frames
import SensorTasks.Proofs.Interleaving
import SensorTasks.Proofs.Reachable

/-!
Who may use a new id. A thread owns the numbers that it has reserved and made no document of yet.
No two threads own the same number, and no document has an id of one that is owned; so threads that
make documents only of ids that they own never take an id in use, in whatever order they act.
-/

namespace SensorTasks

namespace Command

/-- The id of the document that a command creates, if the command gives it. -/
def newId? : Command → Option String
  | createTask t => some t.id
  | createSensor s => some s.id
  | createGroup g => some g.id
  | _ => none

end Command

namespace World

/-- No task, sensor or group has the id. -/
structure Unused (w : World) (id : String) : Prop where
  task : w.ledger.task? id = none
  sensor : w.ledger.sensor? id = none
  group : w.ledger.group? id = none

theorem Consistent.unused_of_not_old {w : World} (h : w.Consistent) {id : String}
    (hid : ¬w.Old id) : w.Unused id :=
  ⟨h.task_new hid, h.sensor_new hid, h.group_new hid⟩

section

variable {w : World} {id : String} {c : Command}

/-- Only creating a task brings one that was not there. -/
theorem task?_run_eq_none (hw : w.Consistent) (h : w.ledger.task? id = none)
    (hc : c.newId? ≠ some id) : (c.run w).2.ledger.task? id = none := by
  by_cases hwrites : c.writes? = some .task
  · cases c with
    | createTask t =>
      have hid : id ≠ t.id := fun he => hc (by rw [Command.newId?, he])
      refine commitUnit_induction (motive := (·.ledger.task? id = none)) h fun l hl => ?_
      exact (Ledger.task?_createTask hl id).trans ((if_neg hid).trans h)
    | updateTask tid p =>
      refine commit_induction (motive := (·.ledger.task? id = none)) h fun t l hl => ?_
      obtain ⟨old, hold, -⟩ := Ledger.updateTask_eq_ok hl
      have hid : id ≠ tid := fun he => Option.some_ne_none old (hold.symm.trans (he ▸ h))
      exact (hw.indexed.task?_updateTask hl id).trans ((if_neg hid).trans h)
    | setModes ids mode =>
      exact Ledger.task?_setModes_eq_none hw.indexed.task_id h ids mode w.clock
    | _ => cases hwrites
  · rw [Ledger.task?, ((c.agreesBut_run w).tasks hwrites).1]
    exact h

/-- Only creating a sensor brings one that was not there. -/
theorem sensor?_run_eq_none (h : w.ledger.sensor? id = none) (hc : c.newId? ≠ some id) :
    (c.run w).2.ledger.sensor? id = none := by
  by_cases hwrites : c.writes? = some .sensor
  · cases c with
    | createSensor s =>
      have hid : id ≠ s.id := fun he => hc (by rw [Command.newId?, he])
      refine commitUnit_induction (motive := (·.ledger.sensor? id = none)) h fun l hl => ?_
      exact (Ledger.sensor?_createSensor hl id).trans ((if_neg hid).trans h)
    | _ => cases hwrites
  · rw [Ledger.sensor?, ((c.agreesBut_run w).sensors hwrites).1]
    exact h

/-- Only creating a group brings one that was not there. -/
theorem group?_run_eq_none (hw : w.Consistent) (h : w.ledger.group? id = none)
    (hc : c.newId? ≠ some id) : (c.run w).2.ledger.group? id = none := by
  by_cases hwrites : c.writes? = some .group
  · cases c with
    | createGroup g =>
      have hid : id ≠ g.id := fun he => hc (by rw [Command.newId?, he])
      refine commitUnit_induction (motive := (·.ledger.group? id = none)) h fun l hl => ?_
      exact (Ledger.group?_createGroup hl id).trans ((if_neg hid).trans h)
    | addMembers gid sensors groups =>
      refine commit_induction (motive := (·.ledger.group? id = none)) h fun g l hl => ?_
      obtain ⟨old, hold, -⟩ := Ledger.addMembers_eq_ok hl
      have hid : id ≠ gid := fun he => Option.some_ne_none old (hold.symm.trans (he ▸ h))
      exact (hw.indexed.group?_addMembers hl id).trans ((if_neg hid).trans h)
    | _ => cases hwrites
  · rw [Ledger.group?, ((c.agreesBut_run w).groups hwrites).1]
    exact h

/-- Only a command that creates a document of an id uses it. -/
theorem Unused.run (h : w.Unused id) (hw : w.Consistent) (hc : c.newId? ≠ some id) :
    (c.run w).2.Unused id :=
  ⟨task?_run_eq_none hw h.task hc, sensor?_run_eq_none h.sensor hc,
    group?_run_eq_none hw h.group hc⟩

end

end World

/-! ### Owned numbers -/

/-- The number is one of those that the event reserved. -/
def Event.Reserves : Event → Nat → Prop
  | ⟨.reserve count, first⟩, n => first ≤ n ∧ n < first + count
  | _, _ => False

/-- Who has done `past` has reserved the number and since then used it for no document. -/
def Owns (past : List Event) (n : Nat) : Prop :=
  ∃ before e after, past = before ++ e :: after ∧ e.Reserves n ∧
    ∀ d ∈ after, d.command.newId? ≠ some (FreshId.text n)

/-- A new document gets an id whose number is owned. -/
def OwnsNewId (past : List Event) (c : Command) : Prop :=
  ∀ id, c.newId? = some id → ∃ n, Owns past n ∧ id = FreshId.text n

theorem ownsNewId_of_none {past : List Event} {c : Command} (h : c.newId? = none) :
    OwnsNewId past c := by
  intro id hid
  rw [h] at hid
  cases hid

/-- What is reserved was not given out before. -/
theorem reserves_run {c : Command} {w : World} {n : Nat}
    (h : Event.Reserves ⟨c, (c.run w).1⟩ n) :
    w.nextNumber ≤ n ∧ n < (c.run w).2.nextNumber := by
  cases c with
  | reserve count => exact h
  | _ => exact h.elim

theorem Event.Reserves.newId {e : Event} {n : Nat} (h : e.Reserves n) :
    e.command.newId? = none := by
  obtain ⟨c, answer⟩ := e
  cases c with
  | reserve count => rfl
  | _ => exact h.elim

theorem not_owns_nil (n : Nat) : ¬Owns [] n := by
  rintro ⟨before, e, after, h, -⟩
  simp at h

/-- A number that is owned was owned before or has just been reserved. -/
theorem Owns.of_append {past : List Event} {e : Event} {n : Nat} (h : Owns (past ++ [e]) n) :
    (Owns past n ∨ e.Reserves n) ∧ e.command.newId? ≠ some (FreshId.text n) := by
  obtain ⟨before, d, after, hpast, hd, hafter⟩ := h
  rcases List.eq_nil_or_concat after with rfl | ⟨after, last, rfl⟩
  · obtain ⟨-, he⟩ := List.append_inj' hpast rfl
    obtain rfl : e = d := by simpa using he
    exact ⟨Or.inr hd, by simp [hd.newId]⟩
  · have hpast' : past ++ [e] = (before ++ d :: after) ++ [last] := by
      rw [hpast]
      simp
    obtain ⟨rfl, he⟩ := List.append_inj' hpast' rfl
    obtain rfl : e = last := by simpa using he
    exact ⟨Or.inl ⟨before, d, after, rfl, hd, fun c hc => hafter c (by simp [hc])⟩,
      hafter e (by simp)⟩

/-- A number right after it was reserved. -/
theorem owns_reserved (past : List Event) (first : Nat) :
    Owns (past ++ [⟨.reserve 1, first⟩]) first :=
  ⟨past, ⟨.reserve 1, first⟩, [], rfl, ⟨Nat.le_refl _, Nat.lt_succ_self _⟩, fun _ h => by cases h⟩

namespace Thread

variable {α : Type}

/-- What the threads own is unused, and each number has one owner. -/
structure Owning (s : List (Thread α) × World) : Prop where
  unused : ∀ (i : Nat) (t : Thread α) n, s.1[i]? = some t → Owns t.past n →
    n < s.2.nextNumber ∧ s.2.Unused (FreshId.text n)
  disjoint : ∀ (i j : Nat) (t u : Thread α) n, s.1[i]? = some t → s.1[j]? = some u →
    Owns t.past n → Owns u.past n → i = j

theorem Owning.start {ι : Type} {xs : List ι} {f : ι → Program α} (w : World) :
    Owning (xs.map fun x => Thread.start (f x), w) where
  unused i t n ht hn := by
    obtain ⟨x, -, rfl⟩ := of_start ht
    exact absurd hn (not_owns_nil n)
  disjoint i j t u n ht hu hn _ := by
    obtain ⟨x, -, rfl⟩ := of_start ht
    exact absurd hn (not_owns_nil n)

variable {ts : List (Thread α)} {w : World} {i : Nat} {past : List Event} {c : Command}
  {next : c.Answer → Program α}

/-- A new document that a thread makes has an id that nothing else has. -/
theorem Owning.newId (h : Owning (ts, w)) (hi : ts[i]? = some ⟨past, .call c next⟩)
    (hc : OwnsNewId past c) {id : String} (hid : c.newId? = some id) : w.Unused id ∧ w.Old id := by
  obtain ⟨n, hn, rfl⟩ := hc id hid
  obtain ⟨hlt, hunused⟩ := h.unused i _ n hi hn
  exact ⟨hunused, World.old_text hlt⟩

/-- What a thread owns after a command: a number that it owned before, or one that is new. -/
theorem Owning.after_cases (h : Owning (ts, w)) (hw : w.Consistent)
    (hi : ts[i]? = some ⟨past, .call c next⟩) {n : Nat} (hn : Owns (after past c next w).past n) :
    (Owns past n ∨ w.nextNumber ≤ n) ∧ n < (c.run w).2.nextNumber ∧
      (c.run w).2.Unused (FreshId.text n) := by
  obtain ⟨hn, hused⟩ := hn.of_append
  rcases hn with hn | hn
  · obtain ⟨hlt, hunused⟩ := h.unused i _ n hi hn
    exact ⟨Or.inl hn, Nat.lt_of_lt_of_le hlt (c.le_nextNumber w), hunused.run hw hused⟩
  · obtain ⟨hle, hlt⟩ := reserves_run hn
    exact ⟨Or.inr hle, hlt, (hw.unused_of_not_old (World.not_old_text hle)).run hw hused⟩

theorem Owning.step (h : Owning (ts, w)) (hw : w.Consistent)
    (hi : ts[i]? = some ⟨past, .call c next⟩) (hc : OwnsNewId past c) :
    Owning (ts.set i (after past c next w), (c.run w).2) := by
  -- every thread owns what it owned before, and the one that acts perhaps new numbers
  have hcases : ∀ j t n, (ts.set i (after past c next w))[j]? = some t → Owns t.past n →
      (∃ u, ts[j]? = some u ∧ (Owns u.past n ∨ i = j ∧ w.nextNumber ≤ n)) ∧
        n < (c.run w).2.nextNumber ∧ (c.run w).2.Unused (FreshId.text n) := by
    intro j t n ht hn
    rcases of_set ht with ⟨rfl, rfl⟩ | ⟨hij, ht⟩
    · obtain ⟨hown, hlt, hunused⟩ := h.after_cases hw hi hn
      exact ⟨⟨_, hi, hown.imp id fun hle => ⟨rfl, hle⟩⟩, hlt, hunused⟩
    · obtain ⟨hlt, hunused⟩ := h.unused j t n ht hn
      refine ⟨⟨t, ht, Or.inl hn⟩, Nat.lt_of_lt_of_le hlt (c.le_nextNumber w), hunused.run hw ?_⟩
      intro hid
      obtain ⟨m, hm, hmn⟩ := hc _ hid
      rw [← FreshId.text_injective hmn] at hm
      exact hij (h.disjoint i j _ t n hi ht hm hn).symm
  refine ⟨fun j t n ht hn => (hcases j t n ht hn).2, fun j k t u n ht hu hn hm => ?_⟩
  obtain ⟨⟨t', ht', hn'⟩, -⟩ := hcases j t n ht hn
  obtain ⟨⟨u', hu', hm'⟩, -⟩ := hcases k u n hu hm
  rcases hn' with hn' | ⟨rfl, hle⟩
  · rcases hm' with hm' | ⟨rfl, hle⟩
    · exact h.disjoint j k t' u' n ht' hu' hn' hm'
    · have hlt := (h.unused j t' n ht' hn').1
      simp only at hlt
      omega
  · rcases hm' with hm' | ⟨rfl, -⟩
    · have hlt := (h.unused k u' n hu' hm').1
      simp only at hlt
      omega
    · rfl

/-! ### Threads that obey rules -/

variable {R : Rely} {allowed : Nat → Rules} {goal : Nat → Goal α}

/-- A command whose new document, if it makes one, has an id of its own. -/
def NewIdFree (w : World) (c : Command) : Prop :=
  ∀ id, c.newId? = some id → w.Unused id ∧ w.Old id

/-- Threads that make documents only of ids that they own obey rules together as soon as they do so
by themselves: whatever the rules allow keeps the rely if the id of the new document is free. -/
theorem Steps.lawful_of_owning {K : List (Thread α) × World → Prop}
    (consistent : ∀ w, R.holds w → w.Consistent)
    (owns : ∀ i past w c, allowed i past w c → OwnsNewId past c)
    (kept : ∀ i past w c, R.holds w → allowed i past w c → NewIdFree w c →
      R.holds (c.run w).2 ∧ R.later w (c.run w).2)
    (keptK : ∀ ts w i past c next, ts[i]? = some ⟨past, .call c next⟩ →
      Lawful R allowed goal (ts, w) → K (ts, w) → allowed i past w c → NewIdFree w c →
      K (ts.set i (after past c next w), (c.run w).2))
    {s s' : List (Thread α) × World} (run : Steps s s') (h : Lawful R allowed goal s)
    (hown : Owning s) (hK : K s) :
    Lawful R allowed goal s' ∧ Owning s' ∧ K s' ∧ R.later s.2 s'.2 := by
  obtain ⟨h', ⟨hown', hK'⟩, hlater⟩ :=
    run.lawful (J := fun s => Owning s ∧ K s) (fun ts w i past c next hi h hJ ha => by
      have howns := owns i past w c ha
      have hfree : NewIdFree w c := fun id hid => hJ.1.newId hi howns hid
      obtain ⟨hh, hl⟩ := kept i past w c h.holds ha hfree
      exact ⟨hh, hl, hJ.1.step (consistent w h.holds) hi howns,
        keptK ts w i past c next hi h hJ.2 ha hfree⟩) h ⟨hown, hK⟩
  exact ⟨h', hown', hK', hlater⟩

/-- A program that obeys rules reaches its goal if nobody else acts, and keeps what every command
that the rules allow keeps. -/
theorem alone_of_owning {p : Program α} {allowed : Rules} {goal : Goal α} {K : World → Prop}
    (consistent : ∀ w, R.holds w → w.Consistent)
    (owns : ∀ past w c, allowed past w c → OwnsNewId past c)
    (kept : ∀ past w c, R.holds w → allowed past w c → NewIdFree w c →
      R.holds (c.run w).2 ∧ R.later w (c.run w).2)
    (keptK : ∀ past w c, R.holds w → allowed past w c → K w → K (c.run w).2) (hw : R.holds w)
    (hK : K w) (h : p.Obeys R allowed goal [] w) :
    (∃ past, goal past (p.run w).2 (p.run w).1) ∧ R.later w (p.run w).2 ∧ K (p.run w).2 := by
  have hstart : ([p].map Thread.start)[0]? = some ⟨[], p⟩ := rfl
  obtain ⟨past, hrun⟩ := Steps.finish (w := w) hstart
  have hlawful : Lawful R (fun _ => allowed) (fun _ => goal) ([p].map Thread.start, w) := by
    refine Lawful.start hw fun i q hq => ?_
    obtain rfl : q = p := List.mem_singleton.1 (List.mem_of_getElem? hq)
    exact h
  obtain ⟨hl, -, hK', hlater⟩ := hrun.lawful_of_owning (K := fun s => K s.2) consistent
    (fun _ => owns) (fun _ => kept)
    (fun _ v _ past c _ _ hl hK ha _ => keptK past v c hl.holds ha hK) hlawful (Owning.start w) hK
  exact ⟨⟨past, hl.reached (i := 0) rfl⟩, hlater, hK'⟩

end Thread

end SensorTasks

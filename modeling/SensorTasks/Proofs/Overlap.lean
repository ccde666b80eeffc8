import SensorTasks.Proofs.Outcome

/-!
Two handlings of reports about one task, delivered at the same time. If one has changed the task
before the other one reads it, they act one after the other. But once both have read the task, each
of them puts its own merge in place of the entries, and what the first one has inserted is lost with
the second one unless that comes to it by itself. So nothing is lost in any order just if nothing is
lost one after the other, and each report that touches the task refers by itself to all that the
other one would insert.
-/

namespace SensorTasks

open Message Inbox Merge

namespace FetchReport

/-! ### The course of two handlings -/

/-- The handling has changed its task. -/
def HasUpdated (th : Handler) : Prop := ∃ e ∈ th.past, e.command.isUpdate = true

/-- The entries are those of the merge of one report into the entries that were there first. -/
structure MergedBy (w : World) (m : FetchReport) (v : World) : Prop where
  touches : m.Touches w
  merged : ∃ fresh rs, List.Forall₂ (Foreseen w v m.task) m.results rs ∧ (∀ i, ¬w.Old (fresh i)) ∧
    v.entries m.task = (mergeResults (w.entries m.task) fresh rs).entries

/-- All that was read are the entries that were there first; these are there still, or else the
merge of one report into them. -/
structure Overlapping (w : World) (task : TaskId) (ms : List FetchReport)
    (s : List Handler × World) : Prop where
  seen : ∀ (i : Nat) (th : Handler) t, s.1[i]? = some th →
    Event.mk (.findTask task) (some t) ∈ th.past → t.entries = w.entries task
  outcome :
    (s.2.entries task = w.entries task ∧ ∀ (i : Nat) (th : Handler) m, s.1[i]? = some th →
      ms[i]? = some m → HasUpdated th → ¬m.Touches w) ∨
    ∃ (i : Nat) (th : Handler) (m : FetchReport), s.1[i]? = some th ∧ ms[i]? = some m ∧
      HasUpdated th ∧ m.MergedBy w s.2

/-- One handling is at its end, and the other one goes on as if it had come after it. -/
def Sequential (w : World) (ms : List FetchReport) (s : List Handler × World) : Prop :=
  ∃ (i j : Nat) (th th' : Handler) (m m' : FetchReport) (a : Except ConsumeError Unit), i ≠ j ∧
    s.1[i]? = some th ∧ s.1[j]? = some th' ∧ ms[i]? = some m ∧ ms[j]? = some m' ∧
      th.rest = .done a ∧ th'.rest.run s.2 = m'.handle.run (m.handle.run w).2

/-- What two handlings have come to. -/
structure Course (w : World) (task : TaskId) (ms : List FetchReport) (s : List Handler × World) :
    Prop where
  length : s.1.length = 2
  /-- Who has not started has all to do. -/
  unstarted : ∀ (i : Nat) (th : Handler) m, s.1[i]? = some th → ms[i]? = some m → th.past = [] →
    th.rest = m.handle
  /-- Who has acted alone goes on as if it had the world for itself. -/
  solo : ∀ (i : Nat) (th : Handler) m, s.1[i]? = some th → ms[i]? = some m →
    (∀ (k : Nat) (th' : Handler), k ≠ i → s.1[k]? = some th' → th'.past = []) →
    th.rest.run s.2 = m.handle.run w
  phase : Overlapping w task ms s ∨ Sequential w ms s

section Step

variable {w v : World} {task : TaskId} {ms : List FetchReport} {ts : List Handler} {i : Nat}
  {past : List Event} {c : Command} {next : c.Answer → Program (Except ConsumeError Unit)}
  {m : FetchReport}

/-- The entries after a change of the task. -/
theorem entries_updateTask (hv : World.Handled w task v) (p : TaskPatch) :
    ((Command.updateTask task p).run v).2.entries task =
      p.fetchEntries.getD (v.entries task) := by
  obtain ⟨t, ht, htype⟩ := hv.task
  have ht' : ((Command.updateTask task p).run v).2.ledger.task? task =
      some (p.apply v.clock t) := by
    rw [Command.run_updateTask ht]
    exact task?_update hv.grown.consistent ht
  rw [World.entries_of_task ht', World.entries_of_task ht]
  cases hp : p.fetchEntries with
  | none => exact TaskPatch.apply_entries_of_none hp
  | some data => exact TaskPatch.apply_entries hp htype

theorem MergedBy.later {u : World} (h : m.MergedBy w v)
    (hvu : (handlings w m.task).later v u) (hentries : u.entries m.task = v.entries m.task) :
    m.MergedBy w u := by
  obtain ⟨fresh, rs, hrs, hfresh, hmerged⟩ := h.merged
  exact ⟨h.touches, fresh, rs, hrs.imp fun _ _ h => h.later hvu, hfresh, hentries.trans hmerged⟩

/-- What was read stays what was there first, unless the next read finds something else. -/
theorem seen_after (h : ∀ (k : Nat) (th : Handler) t, ts[k]? = some th →
      Event.mk (.findTask task) (some t) ∈ th.past → t.entries = w.entries task)
    (hi : ts[i]? = some ⟨past, .call c next⟩)
    (hread : ∀ t, Event.mk (.findTask task) (some t) = ⟨c, (c.run v).1⟩ →
      t.entries = w.entries task) :
    ∀ (k : Nat) (th : Handler) t, (ts.set i (Thread.after past c next v))[k]? = some th →
      Event.mk (.findTask task) (some t) ∈ th.past → t.entries = w.entries task := by
  intro k th t hk hmem
  rcases Thread.mem_past_of_step hi hk hmem with ⟨old, hold, hmem⟩ | ⟨-, he⟩
  · exact h k old t hold hmem
  · exact hread t he

/-- A step that leaves the entries as they are. -/
theorem Overlapping.step (h : Overlapping w task ms (ts, v)) (hms : ∀ m ∈ ms, m.task = task)
    (hi : ts[i]? = some ⟨past, .call c next⟩) (hlater : (handlings w task).later v (c.run v).2)
    (hentries : (c.run v).2.entries task = v.entries task)
    (hread : ∀ t, Event.mk (.findTask task) (some t) = ⟨c, (c.run v).1⟩ →
      t.entries = w.entries task)
    (hupdate : c.isUpdate = true → ∀ m, ms[i]? = some m → ¬m.Touches w) :
    Overlapping w task ms (ts.set i (Thread.after past c next v), (c.run v).2) := by
  refine ⟨seen_after h.seen hi hread, ?_⟩
  rcases h.outcome with ⟨hsame, hidle⟩ | ⟨k, th, m, hk, hm, hupdated, hmerged⟩
  · refine Or.inl ⟨hentries.trans hsame, fun k th m hk hm ⟨e, he, hup⟩ => ?_⟩
    rcases Thread.mem_past_of_step hi hk he with ⟨old, hold, he⟩ | ⟨rfl, rfl⟩
    · exact hidle k old m hold hm ⟨e, he, hup⟩
    · exact hupdate hup m hm
  · obtain rfl := hms m (List.mem_of_getElem? hm)
    obtain ⟨e, he, hup⟩ := hupdated
    obtain ⟨th', hk', hmore⟩ := Thread.exists_of_step hi hk v
    exact Or.inr ⟨k, th', m, hk', hm, ⟨e, hmore e he, hup⟩, hmerged.later hlater hentries⟩

/-- The step that changes the task. -/
theorem Overlapping.update (h : Overlapping w task ms (ts, v)) (hms : ∀ m ∈ ms, m.task = task)
    (hnames : m.NamesOld w) (hv : World.Handled w task v) (hm : ms[i]? = some m) {p : TaskPatch}
    {next : (Command.updateTask task p).Answer → Program (Except ConsumeError Unit)}
    (hi : ts[i]? = some ⟨past, .call (.updateTask task p) next⟩)
    (hlater : (handlings w task).later v ((Command.updateTask task p).run v).2)
    (hmerges : m.Merges w v (w.entries task) p.fetchEntries) :
    Overlapping w task ms (ts.set i (Thread.after past (.updateTask task p) next v),
      ((Command.updateTask task p).run v).2) := by
  obtain rfl := hms m (List.mem_of_getElem? hm)
  obtain ⟨fresh, rs, hrs, hfresh, hdata⟩ := hmerges
  have htouches := changed_iff_touches hnames hfresh hrs
  have hentries := entries_updateTask hv p
  cases hchanged : (mergeResults (w.entries m.task) fresh rs).changed with
  | false =>
    have hnone : p.fetchEntries = none := by simpa [hchanged] using hdata
    rw [hnone] at hentries
    refine h.step hms hi hlater hentries (fun _ he => by cases he) fun _ m' hm' => ?_
    obtain rfl := Option.some.inj (hm.symm.trans hm')
    rw [← htouches, hchanged]
    exact Bool.false_ne_true
  | true =>
    have hsome : p.fetchEntries = some (mergeResults (w.entries m.task) fresh rs).entries := by
      simpa [hchanged] using hdata
    rw [hsome] at hentries
    have hlater' : List.Forall₂ (Foreseen w _ m.task) m.results rs :=
      hrs.imp fun _ _ h => h.later hlater
    refine ⟨seen_after h.seen hi (fun _ he => by cases he), Or.inr ⟨i, _, m,
      List.getElem?_set_self (List.getElem?_eq_some_iff.1 hi).1, hm, ?_,
      htouches.1 hchanged, fresh, rs, hlater', hfresh, hentries⟩⟩
    exact ⟨_, List.mem_append_right _ (List.mem_singleton_self _), rfl⟩

/-- The step in which a handling finds the task as the other one has left it. -/
theorem sequential_of_read {k : Nat} {th : Handler} {m' : FetchReport}
    (hl : Thread.Lawful (handlings w task) (mayHandleAll w ms) (handledAll ms) (ts, v))
    (hi : ts[i]? = some ⟨[], .call c next⟩) (hm : ms[i]? = some m) (hki : k ≠ i)
    (hk : ts[k]? = some th) (hm' : ms[k]? = some m') (hupdated : HasUpdated th)
    (hstart : .call c next = m.handle) (hsolo : th.rest.run v = m'.handle.run w) :
    Sequential w ms (ts.set i (Thread.after [] c next v), (c.run v).2) := by
  obtain ⟨a, ha⟩ : ∃ a, th.rest = .done a := by
    cases hrest : th.rest with
    | done a => exact ⟨a, rfl⟩
    | call c' next' =>
      -- after it has changed the task, a handling may do nothing more
      have hobeys := hl.obeys k th hk
      rw [hrest] at hobeys
      obtain ⟨⟨-, -, -, hunchanged, -⟩, -⟩ := hobeys v hl.holds ((handlings w task).refl v)
      obtain ⟨e, he, hup⟩ := hupdated
      rw [hunchanged e he] at hup
      cases hup
  rw [ha] at hsolo
  refine ⟨k, i, th, Thread.after [] c next v, m', m, a, hki, ?_, ?_, hm', hm, ha, ?_⟩
  · exact (List.getElem?_set_ne (Ne.symm hki)).trans hk
  · exact List.getElem?_set_self (List.getElem?_eq_some_iff.1 hi).1
  · rw [← hsolo, ← hstart]
    rfl

/-- Of two handlings, those that are not a third one are the same. -/
theorem index_eq (hlen : ts.length = 2) {j k : Nat} {th₁ th₂ th₃ : Handler}
    (hi : ts[i]? = some th₁) (hj : ts[j]? = some th₂) (hk : ts[k]? = some th₃) (hik : i ≠ k)
    (hjk : j ≠ k) : j = i := by
  have hi2 := (List.getElem?_eq_some_iff.1 hi).1
  have hj2 := (List.getElem?_eq_some_iff.1 hj).1
  have hk2 := (List.getElem?_eq_some_iff.1 hk).1
  omega

/-- Once one handling is at its end, the other one goes on alone. -/
theorem Sequential.step (h : Sequential w ms (ts, v)) (hlen : ts.length = 2)
    (hi : ts[i]? = some ⟨past, .call c next⟩) :
    Sequential w ms (ts.set i (Thread.after past c next v), (c.run v).2) := by
  obtain ⟨p, q, th, th', m₁, m₂, a, hpq, hp, hq, hm₁, hm₂, hdone, hrun⟩ := h
  have hip : i ≠ p := by
    rintro rfl
    obtain rfl := Option.some.inj (hi.symm.trans hp)
    cases hdone
  obtain rfl := index_eq hlen hi hq hp hip (Ne.symm hpq)
  obtain rfl := Option.some.inj (hi.symm.trans hq)
  refine ⟨p, q, th, Thread.after past c next v, m₁, m₂, a, hpq, ?_, ?_, hm₁, hm₂, hdone, hrun⟩
  · exact (List.getElem?_set_ne hip).trans hp
  · exact List.getElem?_set_self (List.getElem?_eq_some_iff.1 hi).1

/-- When a handling reads the task, it finds the entries that were there first, or else the other
one is at its end. -/
theorem Course.read (h : Course w task ms (ts, v)) (ho : Overlapping w task ms (ts, v))
    (hms : ∀ m ∈ ms, m.task = task)
    (hl : Thread.Lawful (handlings w task) (mayHandleAll w ms) (handledAll ms) (ts, v))
    {next : (Command.findTask task).Answer → Program (Except ConsumeError Unit)}
    (hi : ts[i]? = some ⟨[], .call (.findTask task) next⟩) (hm : ms[i]? = some m) :
    Overlapping w task ms (ts.set i (Thread.after [] (.findTask task) next v), v) ∨
      Sequential w ms (ts.set i (Thread.after [] (.findTask task) next v), v) := by
  have hlater := (handlings w task).refl v
  rcases ho.outcome with ⟨hsame, -⟩ | ⟨k, th, m', hk, hm', hupdated, -⟩
  · refine Or.inl (ho.step hms hi hlater rfl (fun t he => ?_) fun hc => by cases hc)
    have ht := eq_of_heq (Event.mk.inj he).2
    rw [← World.entries_of_task ht.symm]
    exact hsame
  · have hki : k ≠ i := by
      rintro rfl
      obtain rfl := Option.some.inj (hi.symm.trans hk)
      obtain ⟨e, he, -⟩ := hupdated
      exact List.not_mem_nil he
    have hsolo := h.solo k th m' hk hm' fun j th' hj hth' => by
      obtain rfl := index_eq h.length hi hth' hk (Ne.symm hki) hj
      rw [← Option.some.inj (hi.symm.trans hth')]
    have hstart := h.unstarted i _ m hi hm rfl
    exact Or.inr (sequential_of_read hl hi hm hki hk hm' hupdated hstart hsolo)

theorem Course.phase_step (h : Course w task ms (ts, v)) (hw : w.Consistent)
    (hms : ∀ m ∈ ms, m.task = task) (hnames : ∀ m ∈ ms, m.NamesOld w)
    (hl : Thread.Lawful (handlings w task) (mayHandleAll w ms) (handledAll ms) (ts, v))
    (hi : ts[i]? = some ⟨past, .call c next⟩) (hm : ms[i]? = some m)
    (ha : mayHandle w m past v c) :
    Overlapping w task ms (ts.set i (Thread.after past c next v), (c.run v).2) ∨
      Sequential w ms (ts.set i (Thread.after past c next v), (c.run v).2) := by
  have hmem := List.mem_of_getElem? hm
  obtain rfl := hms m hmem
  have hv : World.Handled w m.task v := hl.holds
  have hlater := (kept_of_mayHandle hw hv ha).2
  rcases h.phase with ho | hs
  · obtain ⟨-, -, ⟨rfl, rfl⟩ | ⟨-, hlook, hne⟩ | ⟨-, new, sensor, name, rfl, -⟩ |
      ⟨t, now, entries, rfl, hseen, hmerges⟩⟩ := ha
    · exact h.read ho hms hl hi hm
    · have hledger := Command.ledger_of_isLookup hlook v
      refine Or.inl (ho.step hms hi hlater ?_ (fun t ht => ?_) fun hc => ?_)
      · rw [World.entries, hledger, World.entries]
      · have hc := congrArg Event.command ht
        exact absurd hc.symm (hne m.task)
      · cases c <;> cases hlook <;> cases hc
    · exact Or.inl (ho.step hms hi hlater rfl (fun _ he => by cases he) fun hc => by cases hc)
    · refine Or.inl (ho.update hms (hnames m hmem) hv hm hi hlater ?_)
      rw [← ho.seen i _ t hi hseen]
      exact hmerges
  · exact Or.inr (hs.step h.length hi)

theorem Course.step (h : Course w task ms (ts, v)) (hw : w.Consistent)
    (hms : ∀ m ∈ ms, m.task = task) (hnames : ∀ m ∈ ms, m.NamesOld w)
    (hl : Thread.Lawful (handlings w task) (mayHandleAll w ms) (handledAll ms) (ts, v))
    (hi : ts[i]? = some ⟨past, .call c next⟩) (hm : ms[i]? = some m)
    (ha : mayHandle w m past v c) :
    Course w task ms (ts.set i (Thread.after past c next v), (c.run v).2) := by
  have hself : (ts.set i (Thread.after past c next v))[i]? = some (Thread.after past c next v) :=
    List.getElem?_set_self (List.getElem?_eq_some_iff.1 hi).1
  have hstarted : (Thread.after past c next v).past ≠ [] :=
    List.append_ne_nil_of_right_ne_nil _ (List.cons_ne_nil _ _)
  refine ⟨?_, fun k th m' hk hm' hpast => ?_, fun k th m' hk hm' halone => ?_,
    h.phase_step hw hms hnames hl hi hm ha⟩
  · exact List.length_set.trans h.length
  · rcases Thread.of_set hk with ⟨rfl, rfl⟩ | ⟨-, hk⟩
    · exact absurd hpast hstarted
    · exact h.unstarted k th m' hk hm' hpast
  · rcases Thread.of_set hk with ⟨rfl, rfl⟩ | ⟨hki, -⟩
    · refine h.solo k _ m' hi hm' fun j th hj hth => halone j th hj ?_
      exact (List.getElem?_set_ne (Ne.symm hj)).trans hth
    · exact absurd (halone i _ (Ne.symm hki) hself) hstarted

end Step

section Two

variable {w v : World} {m m' : FetchReport} {t : Task} {ts : List Handler}

/-- Two handlings from their start on. -/
theorem course_of_steps (hw : w.Consistent) (ht : w.ledger.task? m.task = some t)
    (htype : t.type = .dataFetch) (htask : m'.task = m.task) (hnames : m.NamesOld w)
    (hnames' : m'.NamesOld w)
    (run : Thread.Steps ([m, m'].map fun m => Thread.start m.handle, w) (ts, v)) :
    Thread.Lawful (handlings w m.task) (mayHandleAll w [m, m']) (handledAll [m, m']) (ts, v) ∧
      Course w m.task [m, m'] (ts, v) := by
  have hms : ∀ a ∈ [m, m'], a.task = m.task := by simp [htask]
  have hall : ∀ a ∈ [m, m'], a.NamesOld w := by simp [hnames, hnames']
  refine lawful_of_steps hw ht htype hms (fun ts v i past c next a hi hl hJ ha hmay =>
    hJ.step hw hms hall hl hi ha hmay) run ⟨rfl, ?_, ?_, Or.inl ⟨?_, Or.inl ⟨rfl, ?_⟩⟩⟩
  · intro i th a hi ha _
    obtain ⟨b, hb, rfl⟩ := Thread.of_start hi
    rw [Option.some.inj (ha.symm.trans hb)]
    rfl
  · intro i th a hi ha _
    obtain ⟨b, hb, rfl⟩ := Thread.of_start hi
    rw [Option.some.inj (ha.symm.trans hb)]
    rfl
  · intro i th t hi hmem
    obtain ⟨b, -, rfl⟩ := Thread.of_start hi
    exact absurd hmem List.not_mem_nil
  · intro i th a hi _ hupdated
    obtain ⟨b, -, rfl⟩ := Thread.of_start hi
    obtain ⟨e, he, -⟩ := hupdated
    exact absurd he List.not_mem_nil

/-- What two handlings come to: they have acted one after the other, or the entries are those of one
merge into the entries that were there first, or no report has anything to say of the task. -/
theorem outcome_of_steps (hw : w.Consistent) (ht : w.ledger.task? m.task = some t)
    (htype : t.type = .dataFetch) (htask : m'.task = m.task) (hnames : m.NamesOld w)
    (hnames' : m'.NamesOld w)
    (run : Thread.Steps ([m, m'].map fun m => Thread.start m.handle, w) (ts, v))
    (hdone : Thread.AllDone ts) :
    World.Handled w m.task v ∧
      (v = (m'.handle.run (m.handle.run w).2).2 ∨ v = (m.handle.run (m'.handle.run w).2).2 ∨
        (∃ a ∈ [m, m'], a.MergedBy w v) ∨ ∀ a ∈ [m, m'], ¬a.Touches w) := by
  obtain ⟨hl, hcourse⟩ := course_of_steps hw ht htype htask hnames hnames' run
  refine ⟨hl.holds, ?_⟩
  rcases hcourse.phase with ⟨-, ⟨-, hidle⟩ | ⟨i, th, a, -, ha, -, hmerged⟩⟩ |
    ⟨i, j, th, th', a, a', x, hij, hi, hj, ha, ha', -, hrun⟩
  · refine Or.inr (Or.inr (Or.inr fun a ha => ?_))
    obtain ⟨i, hi⟩ := List.mem_iff_getElem?.1 ha
    obtain ⟨⟨past, rest⟩, hth⟩ := run.exists_thread hi
    obtain ⟨x, hx⟩ := hdone _ (List.mem_of_getElem? hth)
    obtain rfl : rest = .done x := hx
    obtain ⟨b, hb, hreached⟩ := hl.reached hth
    obtain rfl := Option.some.inj (hi.symm.trans hb)
    by_cases hne : a.results = []
    · rintro ⟨r, hr, -⟩
      rw [hne] at hr
      exact absurd hr List.not_mem_nil
    · exact hidle i _ a hth hi (hreached hne)
  · exact Or.inr (Or.inr (Or.inl ⟨a, List.mem_of_getElem? ha, hmerged⟩))
  · obtain ⟨y, hy⟩ := hdone _ (List.mem_of_getElem? hj)
    rw [hy] at hrun
    have hv : v = (a'.handle.run (a.handle.run w).2).2 := congrArg Prod.snd hrun
    match i, j, ha, ha', hij with
    | 0, 1, ha, ha', _ =>
      cases ha
      cases ha'
      exact Or.inl hv
    | 1, 0, ha, ha', _ =>
      cases ha
      cases ha'
      exact Or.inr (Or.inl hv)
    | 0, 0, _, _, hij => exact absurd rfl hij
    | 1, 1, _, _, hij => exact absurd rfl hij
    | n + 2, _, ha, _, _ => cases ha
    | _, n + 2, _, ha', _ => cases ha'

/-- The reports may be handled one after the other. -/
theorem steps_sequential {i j : Nat} (hij : i ≠ j) (hi : ts[i]? = some (Thread.start m.handle))
    (hj : ts[j]? = some (Thread.start m'.handle)) (w : World) :
    ∃ past past' a a', Thread.Steps (ts, w) ((ts.set i ⟨past, .done a⟩).set j ⟨past', .done a'⟩,
      (m'.handle.run (m.handle.run w).2).2) := by
  obtain ⟨past, hfirst⟩ := Thread.Steps.finish (w := w) hi
  have hj' : (ts.set i ⟨past, .done (m.handle.run w).1⟩)[j]? = some (Thread.start m'.handle) :=
    (List.getElem?_set_ne hij).trans hj
  obtain ⟨past', hsecond⟩ := Thread.Steps.finish (w := (m.handle.run w).2) hj'
  exact ⟨past, past', _, _, hfirst.trans hsecond⟩

/-- One report may be handled in full after the task was read for the other one. -/
theorem steps_overlapped (ht : w.ledger.task? m.task = some t) (htype : t.type = .dataFetch)
    {i j : Nat} (hij : i ≠ j) (hi : ts[i]? = some (Thread.start m.handle))
    (hj : ts[j]? = some (Thread.start m'.handle)) :
    ∃ past past' a a', Thread.Steps (ts, w) ((ts.set i ⟨past, .done a⟩).set j ⟨past', .done a'⟩,
      ((m.apply t (m'.handle.run w).2.clock).run.run (m'.handle.run w).2).2) := by
  let reading : Handler :=
    ⟨[⟨.findTask m.task, some t⟩], (Action.perform .now >>= m.apply t).run⟩
  have hread : Thread.Step (ts, w) (ts.set i reading, w) := by
    rw [Thread.start, handle_eq, Action.run_perform_bind] at hi
    have hstep := Thread.Step.mk (w := w) hi
    simp only [Command.run, ht, htype, if_true, Thread.after] at hstep
    exact hstep
  have hlt := (List.getElem?_eq_some_iff.1 hi).1
  have hj' : (ts.set i reading)[j]? = some (Thread.start m'.handle) :=
    (List.getElem?_set_ne hij).trans hj
  obtain ⟨past', hsecond⟩ := Thread.Steps.finish (w := w) hj'
  have hi' : ((ts.set i reading).set j ⟨past', .done (m'.handle.run w).1⟩)[i]? = some reading :=
    (List.getElem?_set_ne (Ne.symm hij)).trans (List.getElem?_set_self hlt)
  obtain ⟨past, hfirst⟩ := Thread.Steps.finish (w := (m'.handle.run w).2) hi'
  rw [List.set_comm _ _ (Ne.symm hij), List.set_set] at hfirst
  exact ⟨past, past', _, _, .head hread (hsecond.trans hfirst)⟩

/-! ### What is kept -/

/-- No file is missing that one of the reports would have inserted by itself. -/
def Kept (w : World) (ms : List FetchReport) (v : World) : Prop :=
  ∀ m ∈ ms, ∀ k, w.Inserted (m.handle.run w).2 m.task k → w.References v m.task k

instance (w : World) (ms : List FetchReport) (v : World) : Decidable (Kept w ms v) :=
  decidable_of_iff (∀ m ∈ ms, ∀ k ∈ w.fileKeys (m.handle.run w).2
      (((m.handle.run w).2.entries m.task).drop (w.entries m.task).length),
    w.References v m.task k)
    (forall_congr' fun _ => forall_congr' fun _ => forall_congr' fun _ =>
      imp_congr_left World.mem_fileKeys)

variable {ms : List FetchReport}

/-- A merge into the entries that were there first keeps what the report keeps alone. -/
theorem MergedBy.kept (h : m.MergedBy w v) (hw : w.Consistent)
    (ht : w.ledger.task? m.task = some t) (htype : t.type = .dataFetch) (hnames : m.NamesOld w)
    (hv : World.Handled w m.task v) (hms : ∀ a ∈ ms, a.task = m.task)
    (hkept : Kept w ms (m.handle.run w).2) : Kept w ms v := by
  obtain ⟨fresh, rs, hrs, hfresh, hmerged⟩ := h.merged
  intro a ha k hk
  have hreferences := hkept a ha k hk
  rw [hms a ha] at hreferences ⊢
  have hreferenced := (alone_iff hw ht htype hnames k).1.1 hreferences
  exact references_of_merge hw hv hnames hfresh hrs hmerged hreferenced

/-- What is kept after one report was handled in full between the reading of the task for another
one and its end, is kept by that one alone. -/
theorem kept_of_overlapped (hw : w.Consistent) (ht : w.ledger.task? m.task = some t)
    (htype : t.type = .dataFetch) (htask : m'.task = m.task) (hnames : m.NamesOld w)
    (heq : v = ((m.apply t (m'.handle.run w).2.clock).run.run (m'.handle.run w).2).2)
    (hv : World.Handled w m.task v) (hms : ∀ a ∈ ms, a.task = m.task) (hkept : Kept w ms v)
    (htouches : m.Touches w) : Kept w ms (m.handle.run w).2 := by
  have hv' : World.Handled w m.task (m'.handle.run w).2 := by
    rw [← htask] at ht ⊢
    exact handled_alone hw ht htype
  obtain ⟨u, hu, hutype⟩ := hv'.task
  obtain ⟨-, hres, u', fresh, hu', -, hfresh, hentries⟩ :=
    apply_run hv'.grown.consistent (hw.indexed.task_id ht) hu hutype
      (fun e he f hf => (hw.entry_old ht he hf).mono hv'.grown.number) (m'.handle.run w).2.clock
  rw [← heq] at hres hu' hentries
  rw [← World.entries_of_task hu', ← World.entries_of_task ht] at hentries
  have hnew : ∀ i, ¬w.Old (fresh i) := fun i ho => hfresh i (ho.mono hv'.grown.number)
  have hchanged := (changed_iff_touches hnames hnew (foreseen_resolution hw hv hres)).2 htouches
  have hmerged := hentries.trans (if_pos hchanged)
  intro a ha k hk
  have hreferences := hkept a ha k hk
  rw [hms a ha] at hreferences ⊢
  have hreferenced := (references_iff hw hv hnames hnew hres hmerged).1 hreferences
  exact (alone_iff hw ht htype hnames k).1.2 hreferenced

/-- Two handlings of reports about one task keep all that either of them would have inserted by
itself, in any order of their commands, just if they keep it one after the other, both ways, and if
each report that touches the task keeps it alone. -/
theorem overlap_kept_iff (hw : w.Reachable) (ht : w.ledger.task? m.task = some t)
    (htype : t.type = .dataFetch) (htask : m'.task = m.task) (hnames : m.NamesOld w)
    (hnames' : m'.NamesOld w) :
    (∀ ts v, Thread.Steps ([m, m'].map fun m => Thread.start m.handle, w) (ts, v) →
      Thread.AllDone ts → Kept w [m, m'] v) ↔
    Kept w [m, m'] (m'.handle.run (m.handle.run w).2).2 ∧
      Kept w [m, m'] (m.handle.run (m'.handle.run w).2).2 ∧
      (m.Touches w → Kept w [m, m'] (m.handle.run w).2) ∧
      (m'.Touches w → Kept w [m, m'] (m'.handle.run w).2) := by
  have hc := hw.consistent
  have ht' : w.ledger.task? m'.task = some t := htask ▸ ht
  have hms : ∀ a ∈ [m, m'], a.task = m.task := by simp [htask]
  constructor
  · intro h
    have h₀ : ([m, m'].map fun m => Thread.start m.handle)[0]? = some (Thread.start m.handle) := rfl
    have h₁ : ([m, m'].map fun m => Thread.start m.handle)[1]? = some (Thread.start m'.handle) :=
      rfl
    have hdone : ∀ {past past' : List Event} {a a' : Except ConsumeError Unit},
        Thread.AllDone [(⟨past, .done a⟩ : Handler), ⟨past', .done a'⟩] := by
      intro past past' a a' th hth
      rcases List.mem_pair.1 hth with rfl | rfl
      · exact ⟨a, rfl⟩
      · exact ⟨a', rfl⟩
    refine ⟨?_, ?_, fun htouches => ?_, fun htouches => ?_⟩
    · obtain ⟨past, past', a, a', hrun⟩ := steps_sequential (by decide) h₀ h₁ w
      exact h _ _ hrun hdone
    · obtain ⟨past, past', a, a', hrun⟩ := steps_sequential (by decide) h₁ h₀ w
      exact h _ _ hrun hdone
    · obtain ⟨past, past', a, a', hrun⟩ := steps_overlapped ht htype (by decide) h₀ h₁
      have hv := (course_of_steps hc ht htype htask hnames hnames' hrun).1.holds
      exact kept_of_overlapped hc ht htype htask hnames rfl hv hms (h _ _ hrun hdone) htouches
    · obtain ⟨past, past', a, a', hrun⟩ := steps_overlapped ht' htype (by decide) h₁ h₀
      have hv := (course_of_steps hc ht htype htask hnames hnames' hrun).1.holds
      rw [← htask] at hv hms
      exact kept_of_overlapped hc ht' htype htask.symm hnames' rfl hv hms (h _ _ hrun hdone)
        htouches
  · rintro ⟨hfirst, hsecond, halone, halone'⟩ ts v hrun hdone
    obtain ⟨hv, rfl | rfl | ⟨a, ha, hmerged⟩ | hidle⟩ :=
      outcome_of_steps hc ht htype htask hnames hnames' hrun hdone
    · exact hfirst
    · exact hsecond
    · rcases List.mem_pair.1 ha with rfl | rfl
      · exact hmerged.kept hc ht htype hnames hv hms (halone hmerged.touches)
      · rw [← htask] at hv hms
        exact hmerged.kept hc ht' htype hnames' hv hms (halone' hmerged.touches)
    · intro a ha k hk
      refine absurd ?_ (hidle a ha)
      rcases List.mem_pair.1 ha with rfl | rfl
      · exact touches_of_homeless ((alone_iff hc ht htype hnames k).2.1 hk)
      · exact touches_of_homeless ((alone_iff hc ht' htype hnames' k).2.1 hk)

end Two

open Sample

/-- One report on both keys: the two handlings create its files twice, and keep what they insert. -/
theorem overlap_of_repeated :
    let repeated := (ofMessage? .taskStatusDataFetchResult early.payload).get (by decide +kernel)
    let start := [early, repeated].map fun m => Thread.start m.handle
    let s := Thread.turns (start, world) (List.replicate 20 [0, 1]).flatten
    Thread.AllDone s.1 ∧ s.2.ledger.files.size = 4 ∧ Kept world [early, repeated] s.2 := by
  intro repeated start s
  have hnames : ∀ m : FetchReport, m.results = early.results → m.NamesOld world := by
    have hresults : early.results = [brought (FreshId.text 2) "a.csv", brought none "c.csv"] := by
      decide +kernel
    intro m hm r hr d hd
    rw [hm, hresults] at hr
    rcases List.mem_pair.1 hr with rfl | rfl
    · obtain rfl := Option.some.inj hd
      exact World.old_text (by decide)
    · cases hd
  let both := [early, repeated]
  have hfirst : Kept world both (repeated.handle.run (early.handle.run world).2).2 := by
    decide +kernel
  have hsecond : Kept world both (early.handle.run (repeated.handle.run world).2).2 := by
    decide +kernel
  have halone : Kept world both (early.handle.run world).2 := by decide +kernel
  have halone' : Kept world both (repeated.handle.run world).2 := by decide +kernel
  have hdone : Thread.AllDone s.1 := Thread.allDone_iff.2 (by decide +kernel)
  have hall : ∀ order, Thread.AllDone (Thread.turns (start, world) order).1 →
      Kept world [early, repeated] (Thread.turns (start, world) order).2 := fun order =>
    (overlap_kept_iff world_reachable world_task rfl (by decide +kernel) (hnames early rfl)
      (hnames repeated (by decide +kernel))).2 ⟨hfirst, hsecond, fun _ => halone, fun _ => halone'⟩
      _ _ (Thread.Steps.turns (start, world) order)
  exact ⟨hdone, by decide +kernel, hall _ hdone⟩

/-- If `late` reads the task before `early` changes it, the file `c.csv` is lost; if it is handled
after `early`, it is its own file `a.csv`. -/
theorem overlap_loses :
    let start := [early, late].map fun m => Thread.start m.handle
    let overlapped := Thread.turns (start, world) (1 :: List.replicate 20 0 ++ List.replicate 20 1)
    let sequential := Thread.turns (start, world) (List.replicate 20 0 ++ List.replicate 20 1)
    world.Reachable ∧ world.ledger.task? early.task = some fetching ∧
      fetching.type = .dataFetch ∧ late.task = early.task ∧
      Thread.AllDone overlapped.1 ∧ ¬Kept world [early, late] overlapped.2 ∧
      Thread.AllDone sequential.1 ∧ ¬Kept world [early, late] sequential.2 := by
  intro start overlapped sequential
  have hoverlapped : Thread.AllDone overlapped.1 := Thread.allDone_iff.2 (by decide +kernel)
  have hsequential : Thread.AllDone sequential.1 := Thread.allDone_iff.2 (by decide +kernel)
  exact ⟨world_reachable, world_task, rfl, late_task, hoverlapped, by decide +kernel, hsequential,
    by decide +kernel⟩

end FetchReport

end SensorTasks

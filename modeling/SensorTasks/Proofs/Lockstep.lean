import SensorTasks.Proofs.Isolation

/-!
The same message in two worlds. To a message about a task, a world is the task, the sensors and the
part of the index that leads to the files of the task. If two worlds look alike to it, under other
names and at another time, then handling it takes the same steps in both: where one finds a file or
gives out an id, so does the other, and what is left looks alike again. The new ids correspond by
their order, so the names have to lead from each one that is given out to its counterpart.
-/

namespace SensorTasks

open Message Inbox Ledger

/-- From the numbers `n` and `n'` on, the ids that are given out in the one world until `stop` are
those of the other one by their names, and were not known before. -/
def Difference.Aligns (d : Difference) (n n' stop : Nat) : Prop :=
  ∀ i, n + i < stop → ¬d.known (FreshId.text (n + i)) ∧
    d.names (FreshId.text (n + i)) = FreshId.text (n' + i)

theorem Difference.Aligns.mono {d : Difference} {n n' stop stop' : Nat} (h : d.Aligns n n' stop)
    (hle : stop' ≤ stop) : d.Aligns n n' stop' :=
  fun i hi => h i (Nat.lt_of_lt_of_le hi hle)

namespace World

/-- The worlds look alike to the listed tasks, and since the numbers `n` and `n'` as many ids have
been given out in the one as in the other, for files that are alike. -/
structure Abreast (d : Difference) (ids : List TaskId) (n n' : Nat) (w w' : World) : Prop where
  consistent : w.Consistent
  consistent' : w'.Consistent
  clock : d.SameTime w.clock w'.clock
  number : ∃ k, w.nextNumber = n + k ∧ w'.nextNumber = n' + k
  sensors : w'.ledger.sensors = w.ledger.sensors
  task : ∀ id ∈ ids, Option.Rel (Task.Alike d) (w.ledger.task? id) (w'.ledger.task? id)
  index : ∀ id ∈ ids, Key.Plain id → ∀ sensor name,
    w'.ledger.fileIndex.get? (Key.fileOf id sensor name) =
      (w.ledger.fileIndex.get? (Key.fileOf id sensor name)).map d.names
  file : ∀ i, Option.Rel (File.Alike d) (w.ledger.file? (FreshId.text (n + i)))
    (w'.ledger.file? (FreshId.text (n' + i)))

namespace Abreast

variable {d : Difference} {ids : List TaskId} {n n' : Nat} {w w' : World}

theorem reserve (h : Abreast d ids n n' w w') (count : Nat) :
    Abreast d ids n n' ((Command.reserve count).run w).2 ((Command.reserve count).run w').2 := by
  obtain ⟨k, hk, hk'⟩ := h.number
  refine ⟨h.consistent.run (c := .reserve count) trivial,
    h.consistent'.run (c := .reserve count) trivial, h.clock, ⟨k + count, ?_, ?_⟩, h.sensors,
    h.task, h.index, h.file⟩
  · simp only [Command.run]
    omega
  · simp only [Command.run]
    omega

/-- The same new file of one of the tasks. -/
theorem createFile (h : Abreast d ids n n' w w') (t : Task) (s : Sensor) (r : FetchResult)
    (halign : d.Aligns n n' (w.nextNumber + 1)) :
    Abreast d ids n n' ((Command.createFile (Report.newFile t s r)).run w).2
      ((Command.createFile (Report.newFile t s r)).run w').2 := by
  obtain ⟨k, hk, hk'⟩ := h.number
  obtain ⟨hnew, hname⟩ := halign k (by omega)
  rw [← hk] at hnew hname
  rw [← hk'] at hname
  let f (w : World) := File.ofNew (Report.newFile t s r) (FreshId.text w.nextNumber) w.clock
  have halike : (f w).Alike d (f w') :=
    ⟨Or.inr ⟨hnew, h.clock⟩, h.clock, .refl _, by simp [f, File.ofNew, hname]⟩
  refine ⟨h.consistent.run (c := .createFile _) trivial,
    h.consistent'.run (c := .createFile _) trivial, h.clock, ⟨k + 1, ?_, ?_⟩, h.sensors, h.task,
    fun id hid hplain sensor name => ?_, fun i => ?_⟩
  · simp only [Command.run]
    omega
  · simp only [Command.run]
    omega
  · have hindex (w : World) : ((w.ledger.createFile (f w)).fileIndex.get?
        (Key.fileOf id sensor name)) = _ :=
      get?_foldl_insert [Key.fileOf t.id s.id r.fileName] (f w).id w.ledger.fileIndex _
    refine (hindex w').trans ?_
    refine Eq.trans ?_ (congrArg (Option.map d.names) (hindex w)).symm
    split
    · exact congrArg some hname.symm
    · exact h.index id hid hplain sensor name
  · have hfile (w : World) (id : FileId) : (w.ledger.createFile (f w)).file? id =
        if id = FreshId.text w.nextNumber then some (f w) else w.ledger.file? id :=
      file?_createFile w.ledger (f w) id
    simp only [Command.run]
    rw [hfile w, hfile w']
    by_cases hi : i = k
    · rw [hi, ← hk, ← hk', if_pos rfl, if_pos rfl]
      exact .some halike
    · rw [if_neg, if_neg]
      · exact h.file i
      · intro he
        have := FreshId.text_injective he
        omega
      · intro he
        have := FreshId.text_injective he
        omega

/-- Tasks that are alike take the place of others. -/
theorem putTask (h : Abreast d ids n n' w w') {t t' : Task} (ht : t.Alike d t')
    (hw : World.Consistent { w with ledger := w.ledger.putTask t })
    (hw' : World.Consistent { w' with ledger := w'.ledger.putTask t' }) :
    Abreast d ids n n' { w with ledger := w.ledger.putTask t }
      { w' with ledger := w'.ledger.putTask t' } := by
  refine ⟨hw, hw', h.clock, h.number, h.sensors, fun id hid => ?_, h.index, h.file⟩
  have hid' : t'.id = t.id := by rw [ht.others]
  rw [Ledger.task?_putTask, Ledger.task?_putTask, hid']
  split
  · exact .some ht
  · exact h.task id hid

/-- Where no ids have been given out yet, the files of an upload are exposed in both worlds. -/
theorem exposeFiles (h : Abreast d ids w.nextNumber w'.nextNumber w w') (u : UploadWork) :
    Abreast d ids w.nextNumber w'.nextNumber
      ((Command.exposeFiles (u.files.map (·.fileId)) u.platform).run w).2
      ((Command.exposeFiles (u.files.map (·.fileId)) u.platform).run w').2 := by
  have hleft : World.Consistent ((Command.exposeFiles _ u.platform).run w).2 :=
    h.consistent.run (c := .exposeFiles (u.files.map (·.fileId)) u.platform) trivial
  have hright : World.Consistent ((Command.exposeFiles _ u.platform).run w').2 :=
    h.consistent'.run (c := .exposeFiles (u.files.map (·.fileId)) u.platform) trivial
  have hledger (w : World) := exposeFiles_files w.ledger (u.files.map (·.fileId)) u.platform w.clock
  refine ⟨hleft, hright, h.clock, h.number, ?_, fun id hid => ?_,
    fun id hid hplain sensor name => ?_, fun i => ?_⟩
  · simp only [Command.run]
    rw [hledger w, hledger w']
    exact h.sensors
  · simp only [Command.run]
    rw [hledger w, hledger w']
    exact h.task id hid
  · simp only [Command.run]
    rw [hledger w, hledger w']
    exact h.index id hid hplain sensor name
  · -- what was not given out before is not given out now
    have hnew := hleft.file_new (not_old_text (Nat.le_add_right w.nextNumber i))
    have hnew' := hright.file_new (not_old_text (Nat.le_add_right w'.nextNumber i))
    rw [hnew, hnew']
    exact .none

end Abreast

end World

/-! ### Results -/

namespace Inbox.Report

open World

variable {d : Difference} {ids : List TaskId} {n n' : Nat} {v w w' : World} {t : Task}

/-- A result gets the same file in both worlds. -/
theorem Resolved.lockstep (h : Abreast d ids n n' w w') (ht : t.id ∈ ids)
    (hplain : Key.Plain t.id) {r : FetchResult} {file : Option FileId}
    (hr : Resolved w t r file v) (halign : d.Aligns n n' v.nextNumber) :
    ∃ v', Resolved w' t r (file.map d.names) v' ∧ Abreast d ids n n' v v' := by
  have hsensor (id : SensorId) : w'.ledger.sensor? id = w.ledger.sensor? id := by
    unfold sensor?
    rw [h.sensors]
  cases hr with
  | unknown hs => exact ⟨w', .unknown (by rw [hsensor, hs]), h⟩
  | @known s f hs hf =>
    refine ⟨w', .known (by rw [hsensor, hs]) ?_, h⟩
    rw [h.index t.id ht hplain, hf, Option.map_some]
  | @created s hs hf =>
    obtain ⟨k, hk, hk'⟩ := h.number
    have halign : d.Aligns n n' (w.nextNumber + 1) := halign
    obtain ⟨-, hname⟩ := halign k (by omega)
    have hr' : Resolved w' t r (some (FreshId.text w'.nextNumber)) _ :=
      .created (s := s) (by rw [hsensor, hs]) (by rw [h.index t.id ht hplain, hf, Option.map_none])
    rw [Option.map_some, hk, hname, ← hk']
    exact ⟨_, hr', h.createFile t s r halign⟩

theorem resolveAll_lockstep (h : Abreast d ids n n' w w') (ht : t.id ∈ ids)
    (hplain : Key.Plain t.id) {rs : List FetchResult}
    (hknown : ∀ r ∈ rs, ∀ x, r.dataId = some x → d.known x) {as : List ResolvedResult}
    (hrun : (resolveAll t rs).run.run w = (.ok as, v)) (halign : d.Aligns n n' v.nextNumber) :
    ∃ v', (resolveAll t rs).run.run w' = (.ok (as.map (·.withNames d.names)), v') ∧
      Abreast d ids n n' v v' := by
  induction rs generalizing w w' as with
  | nil =>
    cases hrun
    exact ⟨w', rfl, h⟩
  | cons r rs ih =>
    obtain ⟨a, u, ha, hrun⟩ := Action.run_bind_eq_ok.1 hrun
    obtain ⟨bs, v₁, hbs, hrun⟩ := Action.run_bind_eq_ok.1 hrun
    cases hrun
    obtain ⟨file, rfl, hresolved⟩ := resolved_of_run h.consistent ha
    have hu := hresolved.affects h.consistent hplain
    have hle := (resolveAll_affects hu.consistent hplain hbs).number
    obtain ⟨u', hresolved', h'⟩ := hresolved.lockstep h ht hplain (halign.mono hle)
    obtain ⟨v', hbs', hv⟩ := ih h' (fun r hr => hknown r (List.mem_cons_of_mem _ hr)) hbs
    refine ⟨v', ?_, hv⟩
    have hnamed : (resolved r file).withNames d.names = resolved r (file.map d.names) := by
      have hdata : r.dataId.map d.names = r.dataId := by
        cases hx : r.dataId with
        | none => rfl
        | some x => exact congrArg some (d.names_of_known (hknown r List.mem_cons_self x hx))
      unfold ResolvedResult.withNames resolved
      simp only [hdata]
    rw [List.map_cons, hnamed]
    refine Action.run_bind_eq_ok.2 ⟨_, u', hresolved'.run h.consistent', ?_⟩
    exact Action.run_bind_eq_ok.2 ⟨_, v', hbs', rfl⟩

/-- The entries of a task with results merged in, if that changes something. The new ones have ids
from the number `first` on. -/
def merged (t : Task) (first : Nat) (as : List ResolvedResult) : Option (List FetchEntry) :=
  let m := mergeResults t.entries (fun i => FreshId.text (first + i)) as
  if m.changed then some m.entries else none

theorem reconcile_of_resolveAll {rs : List FetchResult} {as : List ResolvedResult} {u : World}
    (h : (resolveAll t rs).run.run w = (.ok as, u)) : (reconcile t rs).run.run w =
      (.ok (merged t u.nextNumber as), ((Command.reserve as.length).run u).2) := by
  unfold reconcile
  rw [Action.run_bind_run, h]
  rfl

/-- Merging is the same with other names, if the task has none of them yet. -/
theorem merged_withNames {g : String → String} (hg : g.Injective) (h : t.work.withNames g = t.work)
    {first first' : Nat} {as : List ResolvedResult}
    (hfresh : ∀ i < as.length, FreshId.text (first' + i) = g (FreshId.text (first + i))) :
    merged t first' (as.map (·.withNames g)) =
      (merged t first as).map (List.map (·.withNames g)) := by
  have hmerge : mergeResults (t.entries.map (·.withNames g)) (fun i => FreshId.text (first' + i))
      (as.map (·.withNames g)) =
        (mergeResults t.entries (fun i => FreshId.text (first + i)) as).withNames g :=
    Merge.mergeResults_withNames hg hfresh
  rw [Task.work_withNames_iff.1 h] at hmerge
  simp only [merged, hmerge]
  have hchanged (m : Merge) : (m.withNames g).changed = m.changed := rfl
  rw [hchanged]
  split <;> rfl

/-- The results of a fetch make the same entries in both worlds. -/
theorem reconcile_lockstep (h : Abreast d ids n n' w w') (ht : t.id ∈ ids)
    (hplain : Key.Plain t.id) (hwork : t.work.withNames d.names = t.work) {rs : List FetchResult}
    (hknown : ∀ r ∈ rs, ∀ x, r.dataId = some x → d.known x) {entries : Option (List FetchEntry)}
    (hrun : (reconcile t rs).run.run w = (.ok entries, v)) (halign : d.Aligns n n' v.nextNumber) :
    ∃ v', (reconcile t rs).run.run w' =
        (.ok (entries.map (List.map (·.withNames d.names))), v') ∧ Abreast d ids n n' v v' := by
  obtain ⟨as, u, has, -⟩ := Action.run_bind_eq_ok.1 hrun
  rw [reconcile_of_resolveAll has] at hrun
  cases hrun
  obtain ⟨u', has', hu⟩ := resolveAll_lockstep h ht hplain hknown has
    (halign.mono ((Command.reserve as.length).le_nextNumber u))
  -- the ids of the new entries correspond in both worlds
  have hfresh : ∀ i < as.length, FreshId.text (u'.nextNumber + i) =
      d.names (FreshId.text (u.nextNumber + i)) := by
    intro i hi
    obtain ⟨k, hk, hk'⟩ := hu.number
    have hlt : n + (k + i) < ((Command.reserve as.length).run u).2.nextNumber := by
      simp only [Command.run]
      omega
    rw [hk, hk', Nat.add_assoc, Nat.add_assoc, (halign (k + i) hlt).2]
  refine ⟨_, ?_, hu.reserve as.length⟩
  rw [reconcile_of_resolveAll has', merged_withNames d.names.injective hwork hfresh,
    List.length_map]

/-! ### Reports -/

/-- The results in a report name no `dataId` but known ones. -/
def NamesOnly (P : String → Prop) (m : StatusReport Json) : Prop :=
  ∀ j rs, content m = .results j → FetchResult.listDecoder.fromValue j = .ok rs →
    ∀ r ∈ rs, ∀ x, r.dataId = some x → P x

theorem decode_eq_ok {α : Type} {f : Json.Decoder α} {key : RoutingKey} {j : Json} {a : α}
    (h : (decode f key j).run.run w = (.ok a, v)) :
    decode f key j = pure a ∧ f.fromValue j = .ok a ∧ v = w := by
  unfold decode at h ⊢
  cases hj : f.fromValue j with
  | ok b =>
    rw [hj] at h
    cases h
    exact ⟨rfl, rfl, rfl⟩
  | error e =>
    rw [hj] at h
    cases h

/-- What a report brings is taken into account in the same way in both worlds. -/
theorem applyContent_lockstep {m : StatusReport Json}
    (h : Abreast d ids w.nextNumber w'.nextNumber w w') (ht : t.id ∈ ids) (hplain : Key.Plain t.id)
    (hwork : t.work.withNames d.names = t.work) (hobjects : ∀ j, content m ≠ .objects j)
    (hknown : NamesOnly d.known m) {p p' q : TaskPatch} (hp : p.Alike d p')
    (hrun : (applyContent t p (content m)).run.run w = (.ok (some q), v))
    (halign : d.Aligns w.nextNumber w'.nextNumber v.nextNumber) :
    ∃ q' v', (applyContent t p' (content m)).run.run w' = (.ok (some q'), v') ∧ q.Alike d q' ∧
      Abreast d ids w.nextNumber w'.nextNumber v v' := by
  cases hc : content m with
  | results j =>
    rw [hc] at hrun
    obtain ⟨rs, u, hu, hrest⟩ := Action.run_bind_eq_ok.1 hrun
    obtain ⟨hdecode, hrs, rfl⟩ := decode_eq_ok hu
    simp only [applyContent, hdecode, pure_bind]
    split at hrest
    · cases hrest
      rw [if_pos ‹_›]
      exact ⟨p', w', rfl, hp, h⟩
    · rw [if_neg ‹_›]
      obtain ⟨entries, u, hentries, hrest⟩ := Action.run_bind_eq_ok.1 hrest
      cases hrest
      obtain ⟨v', hentries', hv⟩ :=
        reconcile_lockstep h ht hplain hwork (hknown j rs hc hrs) hentries halign
      refine ⟨_, v', Action.run_bind_eq_ok.2 ⟨_, v', hentries', rfl⟩, ?_, hv⟩
      exact ⟨hp.lastRanAt, hp.lastFailedAt, by rw [hp.others]⟩
  | uploaded =>
    rw [hc] at hrun
    obtain ⟨⟨⟩, u, hu, hrest⟩ := Action.run_bind_eq_ok.1 hrun
    cases hrest
    simp only [applyContent]
    unfold exposeUploaded at hu ⊢
    cases hupload : t.upload? with
    | none =>
      rw [hupload] at hu
      cases hu
      exact ⟨p', w', rfl, hp, h⟩
    | some upload =>
      rw [hupload] at hu
      cases hu
      exact ⟨p', _, rfl, hp, h.exposeFiles upload⟩
  | objects j => exact absurd hc (hobjects j)
  | objectAmount j =>
    rw [hc] at hrun
    obtain ⟨a, u, hu, hrest⟩ := Action.run_bind_eq_ok.1 hrun
    obtain ⟨hdecode, -, rfl⟩ := decode_eq_ok hu
    cases hrest
    simp only [applyContent, hdecode, pure_bind]
    exact ⟨p', w', rfl, hp, h⟩
  | nothing =>
    rw [hc] at hrun
    cases hrun
    exact ⟨p', w', rfl, hp, h⟩
  | unknown =>
    rw [hc] at hrun
    cases hrun

theorem alike_basePatch (m : StatusReport Json) {now now' : Instant} (h : d.SameTime now now') :
    (basePatch m now).Alike d (basePatch m now') := by
  refine ⟨?_, .none, rfl⟩
  simp only [basePatch]
  split
  · exact .some h
  · exact .none

theorem alike_failurePatch (f : Failure) {now now' : Instant} (h : d.SameTime now now') :
    (failurePatch f now).Alike d (failurePatch f now') := by
  refine ⟨.none, .some ?_, rfl⟩
  cases f.failedAt with
  | none => exact h
  | some failedAt => exact .refl failedAt

/-- A report is applied in both worlds or in none of them. -/
theorem applied_lockstep (hw : w.Consistent) (hw' : w'.Consistent) {m : StatusReport Json}
    (hsame : w'.ledger.task? m.taskId = w.ledger.task? m.taskId)
    (h : ∃ t, ((status m).run.run w').1 = .ok (some t)) :
    ∃ t, ((status m).run.run w).1 = .ok (some t) := by
  have happlied := (status_applied_iff hw' m).1 h
  rw [hsame] at happlied
  exact (status_applied_iff hw m).2 happlied

theorem status_lockstep {m : StatusReport Json}
    (h : Abreast d [m.taskId] w.nextNumber w'.nextNumber w w')
    (hsame : w'.ledger.task? m.taskId = w.ledger.task? m.taskId)
    (hplain : ∀ t, w.ledger.task? m.taskId = some t → Key.Plain t.id)
    (hwork : ∀ t, w.ledger.task? m.taskId = some t → t.work.withNames d.names = t.work)
    (hobjects : ∀ j, content m ≠ .objects j) (hknown : NamesOnly d.known m)
    (halign : d.Aligns w.nextNumber w'.nextNumber ((status m).run.run w).2.nextNumber) :
    Abreast d [m.taskId] w.nextNumber w'.nextNumber ((status m).run.run w).2
      ((status m).run.run w').2 := by
  have hleft := (complies_status Rely.consistency_orderly m).consistent_run h.consistent
  have hright := (complies_status Rely.consistency_orderly m).consistent_run h.consistent'
  rcases status_run h.consistent m with ⟨hworld, hnot⟩ | ⟨t, p, v, ht, -, -, -, hrun, hstatus⟩
  · rcases status_run h.consistent' m with ⟨hworld', -⟩ | ⟨t', p', v', -, -, -, -, -, hstatus'⟩
    · rw [hworld, hworld']
      exact h
    · obtain ⟨u, hu⟩ := applied_lockstep h.consistent h.consistent' hsame
        ⟨p'.apply v'.clock t', by rw [hstatus']⟩
      exact absurd hu (hnot u)
  · rcases status_run h.consistent' m with ⟨-, hnot'⟩ | ⟨t', p', v', ht', -, -, -, hrun', hstatus'⟩
    · obtain ⟨u, hu⟩ := applied_lockstep h.consistent' h.consistent hsame.symm
        ⟨p.apply v.clock t, by rw [hstatus]⟩
      exact absurd hu (hnot' u)
    · obtain rfl : t = t' := Option.some.inj (ht.symm.trans (hsame.symm.trans ht'))
      rw [hstatus] at halign hleft ⊢
      rw [hstatus'] at hright ⊢
      have hid : t.id ∈ [m.taskId] := List.mem_singleton.2 (h.consistent.indexed.task_id ht)
      obtain ⟨q, u, hrun₂, hp, hv⟩ := applyContent_lockstep h hid (hplain t ht) (hwork t ht)
        hobjects hknown (alike_basePatch m h.clock) hrun halign
      obtain ⟨hok, rfl⟩ := Prod.mk.inj (hrun₂.symm.trans hrun')
      obtain rfl := Option.some.inj (Except.ok.inj hok)
      exact hv.putTask (hp.apply (hwork t ht) hv.clock) hleft hright

end Inbox.Report

/-! ### Messages -/

namespace Inbox.TaskMessage

open World

variable {d : Difference} {w w' : World}

/-- The results in the message name no `dataId` but known ones. -/
def NamesOnly (P : String → Prop) : TaskMessage → Prop
  | report m => Report.NamesOnly P m
  | _ => True

/-- What the tasks of a message look like when it is handled in two worlds: they are the same, and
hold no names that are different. -/
structure Meets (d : Difference) (ids : List TaskId) (w w' : World) : Prop where
  abreast : Abreast d ids w.nextNumber w'.nextNumber w w'
  same : ∀ id ∈ ids, w'.ledger.task? id = w.ledger.task? id
  plain : ∀ id ∈ ids, ∀ t, w.ledger.task? id = some t → Key.Plain t.id
  named : ∀ id ∈ ids, ∀ t, w.ledger.task? id = some t → t.work.withNames d.names = t.work

/-- A message that is handled in two worlds that look alike to it leaves worlds that look alike. -/
theorem lockstep {m : TaskMessage} (hm : m.Simple) (hknown : m.NamesOnly d.known)
    (h : Meets d m.names w w')
    (halign : d.Aligns w.nextNumber w'.nextNumber (m.handle.run.run w).2.nextNumber) :
    Abreast d m.names w.nextNumber w'.nextNumber (m.handle.run.run w).2
      (m.handle.run.run w').2 := by
  cases m with
  | report m =>
    have hmem := List.mem_singleton_self m.taskId
    rw [handle_report_run] at halign
    rw [handle_report_run, handle_report_run]
    exact Report.status_lockstep h.abreast (h.same _ hmem) (h.plain _ hmem) (h.named _ hmem) hm
      hknown halign
  | failure f =>
    have hmem := List.mem_singleton_self f.taskId
    have hleft := (affects_failure h.abreast.consistent f).consistent
    have hright := (affects_failure h.abreast.consistent' f).consistent
    rw [handle_failure_run] at hleft hright ⊢
    rw [handle_failure_run]
    rcases Report.failure_run w f with ⟨ht, hrun⟩ | ⟨t, ht, hrun⟩
    · rcases Report.failure_run w' f with ⟨-, hrun'⟩ | ⟨t', ht', -⟩
      · rw [hrun, hrun']
        exact h.abreast
      · rw [h.same _ hmem, ht] at ht'
        cases ht'
    · rcases Report.failure_run w' f with ⟨ht', -⟩ | ⟨t', ht', hrun'⟩
      · rw [h.same _ hmem, ht] at ht'
        cases ht'
      · obtain rfl : t = t' := by
          rw [h.same _ hmem, ht] at ht'
          exact Option.some.inj ht'
        rw [hrun] at hleft ⊢
        rw [hrun'] at hright ⊢
        have hpatch := (Report.alike_failurePatch f h.abreast.clock).apply (h.named _ hmem t ht)
          h.abreast.clock
        exact h.abreast.putTask hpatch hleft hright
  | modes m => exact hm.elim

end Inbox.TaskMessage

end SensorTasks

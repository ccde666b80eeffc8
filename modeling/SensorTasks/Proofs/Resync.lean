import SensorTasks.Proofs.Convergence
import SensorTasks.Proofs.FetchReport

/-!
Taking over the same objects once more. After a run all that it was told is known: every object is
found, and its members have joined it, also where a group stands inside itself or is listed more
than once with different members. A run over what is known finds every id that the one before has
found or given out, and changes nothing. What a run counts as created is what it adds to the ledger.
-/

namespace SensorTasks

open Message

namespace Table

variable {α : Type} {t : Table α} {key : String} {a : α}

/-- Putting what is there already changes nothing. -/
theorem insert_of_get? (h : t.get? key = some a) : t.insert key a = t := by
  obtain ⟨rows, distinct⟩ := t
  have hrows : setRow key a rows = rows := by
    simp only [get?] at h
    clear distinct
    induction rows with
    | nil => cases h
    | cons row rows ih =>
      obtain ⟨k, b⟩ := row
      rw [List.lookup_cons] at h
      rw [setRow]
      by_cases hk : key = k
      · rw [if_pos hk.symm]
        rw [beq_iff_eq.2 hk] at h
        rw [hk, Option.some.inj h]
      · rw [if_neg (Ne.symm hk)]
        rw [beq_eq_false_iff_ne.2 hk] at h
        rw [ih h]
  simp only [insert, hrows]

theorem size_insert_of_none (h : t.get? key = none) : (t.insert key a).size = t.size + 1 := by
  have hvalues := congrArg List.length (values_insert_of_none h a)
  simpa [values, size] using hvalues

/-- What is put in the place of something else makes no table larger. -/
theorem size_insert_of_some {b : α} (h : t.get? key = some b) : (t.insert key a).size = t.size := by
  have hkeys : ∀ rows : List (String × α), rows.lookup key = some b →
      (setRow key a rows).length = rows.length := by
    intro rows
    induction rows with
    | nil => exact fun h => by cases h
    | cons row rows ih =>
      obtain ⟨k, c⟩ := row
      intro h
      rw [List.lookup_cons] at h
      rw [setRow]
      by_cases hk : key = k
      · rw [if_pos hk.symm]
        rfl
      · rw [if_neg (Ne.symm hk)]
        rw [beq_eq_false_iff_ne.2 hk] at h
        rw [List.length_cons, ih h, List.length_cons]
  exact hkeys t.rows h

end Table

/-- Nothing new is added. -/
theorem addNew_of_subset {old new : List String} (h : new ⊆ old) : addNew old new = old := by
  induction new with
  | nil => rfl
  | cons a new ih =>
    rw [List.cons_subset] at h
    rw [addNew, if_pos (by simpa using h.1), ih h.2]

theorem Group.addMembers_of_subset {g : Group} {sensors : List SensorId} {groups : List GroupId}
    (hs : sensors ⊆ g.sensors) (hg : ∀ m ∈ groups, m ≠ g.id → m ∈ g.subGroups) :
    g.addMembers sensors groups = g := by
  have hgroups : groups.filter (· != g.id) ⊆ g.subGroups := fun m hm => by
    obtain ⟨hm, hne⟩ := List.mem_filter.1 hm
    exact hg m hm (by simpa using hne)
  unfold addMembers
  rw [addNew_of_subset hs, addNew_of_subset hgroups]

theorem Group.hasGrown_self (g : Group) : g.hasGrown g = false := by
  simp [hasGrown]

namespace Inbox.Synchronization

/-- How many objects do not say what they measure. -/
def unmeasured (ss : List SensorObject) : Nat := ss.countP fun s => s.valueFragmentType.isNone

theorem unmeasured_append (ss ss' : List SensorObject) :
    unmeasured (ss ++ ss') = unmeasured ss + unmeasured ss' :=
  List.countP_append

namespace Summary

/-- As many objects more were skipped. -/
def skip (sum : Summary) (n : Nat) : Summary :=
  { sum with sensorsSkipped := sum.sensorsSkipped + n }

theorem skip_skip (sum : Summary) (m n : Nat) : (sum.skip m).skip n = sum.skip (m + n) := by
  simp only [skip, Nat.add_assoc]

end Summary

/-! ### Objects that are known -/

section Known

variable {v : World}

theorem syncSensor_known (hv : v.Consistent) {s : SensorObject}
    (hs : s.key? ≠ none → ∃ id, v.HasSensor s id) (sum : Summary) :
    ∃ id, (syncSensor sum s).run.run v = (.ok (id, sum.skip (unmeasured [s])), v) ∧
      v.SensorIds [s] id.toList := by
  unfold syncSensor
  cases htype : s.valueFragmentType with
  | none =>
    refine ⟨none, ?_, .without (by simp [SensorObject.key?, htype])⟩
    simp [unmeasured, htype, Summary.skip, Summary.skipSensor]
  | some fragmentType =>
    obtain ⟨id, hid⟩ := hs (by simp [SensorObject.key?, htype])
    obtain ⟨sensor, hsensor⟩ := hid.find hv htype
    refine ⟨some sensor.id, ?_, .single (World.hasSensor_of_find hv htype hsensor)⟩
    dsimp only
    rw [Action.run_perform_bind_run]
    simp [Command.run, hsensor, unmeasured, htype, Summary.skip]

theorem syncSensors_known (hv : v.Consistent) {ss : List SensorObject}
    (hss : ∀ s ∈ ss, s.key? ≠ none → ∃ id, v.HasSensor s id) (sum : Summary) :
    ∃ ids, (syncSensors sum ss).run.run v = (.ok (ids, sum.skip (unmeasured ss)), v) ∧
      v.SensorIds ss ids := by
  induction ss generalizing sum with
  | nil => exact ⟨[], rfl, .nil⟩
  | cons s ss ih =>
    rw [List.forall_mem_cons] at hss
    obtain ⟨id, hs, hid⟩ := syncSensor_known hv hss.1 sum
    obtain ⟨ids, hrest, hids⟩ := ih hss.2 (sum.skip (unmeasured [s]))
    refine ⟨id.toList ++ ids, ?_, hid.cons hids⟩
    have hcount : unmeasured (s :: ss) = unmeasured [s] + unmeasured ss :=
      unmeasured_append [s] ss
    rw [syncSensors]
    simp only [Action.run_bind_run, hs, hrest, Summary.skip_skip, hcount]
    rfl

/-- Members that have joined a group already do not change it. -/
theorem settleGroup_known (hv : v.Consistent) {o : GroupObject} {id : GroupId} {g : Group}
    (hj : v.Joined o id g) {sensors : List SensorId} {groups : List GroupId}
    (hs : v.SensorIds o.sensors sensors) (hgs : v.GroupIds o.groups groups) (sum : Summary) :
    (settleGroup sum o.managedObjectId o.managedObjectName sensors groups).run.run v =
      (.ok (id, sum), v) := by
  have hid : g.id = id := hv.indexed.group_id hj.group
  have hfind : v.ledger.groupOf? o.managedObjectId = some g := by
    obtain ⟨known, hknown⟩ := hj.hasGroup.find hv
    have hhas : v.HasGroup o.managedObjectId known.id :=
      ⟨known, World.hasGroup_of_find hv hknown⟩
    have hsame : some known = some g := by
      rw [← (World.hasGroup_of_find hv hknown).1, hhas.unique hj.hasGroup hv, hj.group]
    rw [hknown, hsame]
  have hjoined : g.addMembers sensors groups = g := by
    refine Group.addMembers_of_subset (fun a ha => ?_) fun m hm hne => ?_
    · obtain ⟨s, hmem, hhas⟩ := hs.only a ha
      obtain ⟨b, hb, hhas'⟩ := hj.sensors s hmem (by
        obtain ⟨_, _, hkey⟩ := hhas
        simp [hkey])
      exact hhas.unique hhas' hv ▸ hb
    · obtain ⟨o', ho', hhas⟩ := hgs.only m hm
      obtain ⟨b, hhas', hmem⟩ := hj.groups o' ho'
      obtain rfl := hhas.unique hhas' hv
      exact hmem (hid ▸ hne)
  have hput : v.ledger.putGroup g = v.ledger := by
    unfold Ledger.putGroup
    rw [Table.insert_of_get? (by rw [hid]; exact hj.group)]
  have hadd : (Command.addMembers g.id sensors groups).run v = (.ok g, v) := by
    simp only [Command.run, Ledger.addMembers, hid, hj.group, hjoined, hput, World.commit]
  unfold settleGroup
  rw [Action.run_perform_bind_run]
  simp only [Command.run, hfind, joinGroup]
  rw [Action.run_bind_run, Action.run_mapError_run]
  have hrun : (Action.addMembers g.id sensors groups).run.run v = (.ok g, v) := hadd
  rw [hrun]
  simp [Group.hasGrown_self, hid]

mutual

theorem syncGroup_known (hv : v.Consistent) : (o : GroupObject) → v.AllJoined o.all →
    (sum : Summary) → ∃ id, (syncGroup sum o).run.run v =
        (.ok (id, sum.skip (unmeasured (o.all.flatMap (·.sensors)))), v) ∧
      v.HasGroup o.managedObjectId id
  | .mk object name sensors groups, h, sum => by
    rw [GroupObject.all] at h ⊢
    obtain ⟨id, g, hj⟩ := h _ List.mem_cons_self
    have hmeasured : ∀ s ∈ sensors, s.key? ≠ none → ∃ id, v.HasSensor s id := fun s hs hkey =>
      (hj.sensors s hs hkey).imp fun _ h => h.2
    obtain ⟨sensorIds, hsensors, hs⟩ := syncSensors_known hv hmeasured sum
    obtain ⟨groupIds, hgroups, hgs⟩ := syncGroups_known hv groups
      (fun o ho => h o (List.mem_cons_of_mem _ ho)) (sum.skip (unmeasured sensors))
    refine ⟨id, ?_, hj.hasGroup⟩
    have hcount : unmeasured ((GroupObject.mk object name sensors groups ::
          GroupObject.allOf groups).flatMap (·.sensors)) =
        unmeasured sensors + unmeasured ((GroupObject.allOf groups).flatMap (·.sensors)) :=
      unmeasured_append _ _
    rw [syncGroup]
    simp only [Action.run_bind_run, hsensors, hgroups, Summary.skip_skip, hcount]
    exact settleGroup_known hv hj hs hgs _

theorem syncGroups_known (hv : v.Consistent) : (os : List GroupObject) →
    v.AllJoined (GroupObject.allOf os) → (sum : Summary) →
    ∃ ids, (syncGroups sum os).run.run v =
        (.ok (ids, sum.skip (unmeasured ((GroupObject.allOf os).flatMap (·.sensors)))), v) ∧
      v.GroupIds os ids
  | [], _, sum => ⟨[], rfl, .nil⟩
  | o :: rest, h, sum => by
    rw [GroupObject.allOf] at h ⊢
    obtain ⟨id, hfirst, hid⟩ := syncGroup_known hv o
      (fun o ho => h o (List.mem_append_left _ ho)) sum
    obtain ⟨ids, hrest, hids⟩ := syncGroups_known hv rest
      (fun o ho => h o (List.mem_append_right _ ho))
      (sum.skip (unmeasured (o.all.flatMap (·.sensors))))
    have hcount : unmeasured ((o.all ++ GroupObject.allOf rest).flatMap (·.sensors)) =
        unmeasured (o.all.flatMap (·.sensors)) +
          unmeasured ((GroupObject.allOf rest).flatMap (·.sensors)) := by
      rw [List.flatMap_append, unmeasured_append]
    have hone : v.GroupIds [o] [id] := .single hid
    refine ⟨id :: ids, ?_, hone.cons hids⟩
    rw [syncGroups]
    simp only [Action.run_bind_run, hfirst, hrest, Summary.skip_skip, hcount]
    rfl

end

/-- A run over objects that are known changes nothing and counts what it skips. -/
theorem syncFrom_known (hv : v.Consistent) {os : List ManagedObject} (hos : v.Complete os)
    (sum : Summary) :
    (syncFrom sum os).run.run v =
      (.ok (sum.skip (unmeasured (os.flatMap (·.sensors)))), v) := by
  induction os generalizing sum with
  | nil => rfl
  | cons a os ih =>
    have hrest : v.Complete os := by
      refine ⟨fun s hs => hos.sensors s ?_, fun o ho => hos.groups o ?_⟩
      · exact List.mem_append_right a.sensors hs
      · exact List.mem_append_right a.groups ho
    have hcount : unmeasured ((a :: os).flatMap (·.sensors)) =
        unmeasured a.sensors + unmeasured (os.flatMap (·.sensors)) :=
      unmeasured_append _ _
    have hfirst : (syncObject sum a).run.run v = (.ok (sum.skip (unmeasured a.sensors)), v) := by
      cases a with
      | sensor s =>
        obtain ⟨id, hrun, -⟩ := syncSensor_known hv
          (hos.sensors s (List.mem_append_left _ (List.mem_singleton_self s))) sum
        rw [syncObject, Action.run_bind_run, hrun]
        rfl
      | group g =>
        obtain ⟨id, hrun, -⟩ := syncGroup_known hv g
          (fun o ho => hos.groups o (List.mem_append_left _ ho)) sum
        rw [syncObject, Action.run_bind_run, hrun]
        rfl
    rw [syncFrom, Action.run_bind_run, hfirst, hcount, ← Summary.skip_skip]
    exact ih hrest _

end Known

/-! ### What a run counts -/

/-- From one world and summary to others: what was counted as created was added to the ledger, and
`n` objects were skipped. -/
structure Counts (n : Nat) (sum : Summary) (w : World) (sum' : Summary) (v : World) : Prop where
  consistent : v.Consistent
  skipped : sum'.sensorsSkipped = sum.sensorsSkipped + n
  sensors : v.ledger.sensors.size + sum.sensorsCreated = w.ledger.sensors.size + sum'.sensorsCreated
  groups : v.ledger.groups.size + sum.groupsCreated = w.ledger.groups.size + sum'.groupsCreated

section Counts

variable {m n : Nat} {u v w : World} {sum sum' sum'' : Summary}

theorem Counts.refl (hw : w.Consistent) (sum : Summary) : Counts 0 sum w sum w :=
  ⟨hw, rfl, rfl, rfl⟩

/-- A new id is not a new document. -/
theorem Counts.reserve (hw : w.Consistent) (sum : Summary) :
    Counts 0 sum w sum { w with nextNumber := w.nextNumber + 1 } :=
  ⟨hw.outside rfl (Nat.le_succ _), rfl, rfl, rfl⟩

theorem Counts.trans (h : Counts m sum u sum' v) (h' : Counts n sum' v sum'' w) :
    Counts (m + n) sum u sum'' w where
  consistent := h'.consistent
  skipped := by rw [h'.skipped, h.skipped, Nat.add_assoc]
  sensors := by
    have := h.sensors
    have := h'.sensors
    omega
  groups := by
    have := h.groups
    have := h'.groups
    omega

/-- A new sensor is one more, unless there is one of its key already. -/
theorem createSensor_counts (hw : w.Consistent) {s : Sensor} (hnew : w.ledger.sensor? s.id = none)
    (hold : w.Old s.id) (sum : Summary) :
    (∃ v, (Command.createSensor s).run w = (.ok (), v) ∧ Counts 0 sum w sum.addSensor v) ∨
      ∃ collection key,
        (Command.createSensor s).run w = (.error (.duplicateKey collection key), w) := by
  have hv := hw.run (c := .createSensor s) ⟨hnew, hold⟩
  simp only [Command.run, Ledger.createSensor] at hv ⊢
  split
  · exact Or.inr ⟨_, _, rfl⟩
  · rename_i hkey
    rw [if_neg hkey] at hv
    refine Or.inl ⟨_, rfl, hv, rfl, ?_, rfl⟩
    have hsize : (w.ledger.sensors.insert (Ledger.Key.sensor s.id) s).size =
        w.ledger.sensors.size + 1 := Table.size_insert_of_none hnew
    simp only [hsize, Summary.addSensor]
    omega

/-- A new group is one more, unless there is one of its managed object already. -/
theorem createGroup_counts (hw : w.Consistent) {g : Group} (hnew : w.ledger.group? g.id = none)
    (hold : w.Old g.id) {object : String} (hobject : g.managedObjectId = some object)
    (sum : Summary) :
    (∃ v, (Command.createGroup g).run w = (.ok (), v) ∧ Counts 0 sum w sum.addGroup v) ∨
      ∃ collection key,
        (Command.createGroup g).run w = (.error (.duplicateKey collection key), w) := by
  have hv := hw.run (c := .createGroup g) ⟨hnew, hold⟩
  simp only [Command.run, Ledger.createGroup, hobject] at hv ⊢
  split
  · exact Or.inr ⟨_, _, rfl⟩
  · rename_i hkey
    rw [if_neg hkey] at hv
    refine Or.inl ⟨_, rfl, hv, rfl, rfl, ?_⟩
    have hsize : (w.ledger.groups.insert (Ledger.Key.group g.id) g).size =
        w.ledger.groups.size + 1 := Table.size_insert_of_none hnew
    simp only [Ledger.putGroup, hsize, Summary.addGroup]
    omega

/-- Members that join a group make no new ones. -/
theorem addMembers_counts (hw : w.Consistent) {id : GroupId} {sensors : List SensorId}
    {groups : List GroupId} {g : Group} (h : ((Action.addMembers id sensors groups).mapError
      HandlerError.ledger).run.run w = (.ok g, v)) (sum : Summary) : Counts 0 sum w sum v := by
  have hv := hw.run (c := .addMembers id sensors groups) trivial
  have hsize : ((Command.addMembers id sensors groups).run w).2.ledger.groups.size =
        w.ledger.groups.size ∧
      ((Command.addMembers id sensors groups).run w).2.ledger.sensors = w.ledger.sensors := by
    simp only [Command.run, Ledger.addMembers]
    cases hg : w.ledger.group? id with
    | none => exact ⟨rfl, rfl⟩
    | some g =>
      have hid : g.id = id := hw.indexed.group_id hg
      refine ⟨?_, rfl⟩
      exact Table.size_insert_of_some (b := g) (by rw [← hid] at hg; exact hg)
  have hrun : ((Command.addMembers id sensors groups).run w).2 = v := by
    have hcommand : (Action.addMembers id sensors groups).run.run w =
        (Command.addMembers id sensors groups).run w := rfl
    rw [Action.run_mapError_run, hcommand] at h
    generalize (Command.addMembers id sensors groups).run w = answer at h
    obtain ⟨e | x, u⟩ := answer
    · cases h
    · cases h
      rfl
  rw [hrun] at hv hsize
  exact ⟨hv, rfl, by rw [hsize.2], by rw [hsize.1]⟩

theorem syncSensor_counts (hw : w.Consistent) {s : SensorObject} {r : Option SensorId × Summary}
    (h : (syncSensor sum s).run.run w = (.ok r, v)) : Counts (unmeasured [s]) sum w r.2 v := by
  unfold syncSensor at h
  cases htype : s.valueFragmentType with
  | none =>
    rw [htype] at h
    cases h
    exact ⟨hw, by simp [unmeasured, htype, Summary.skipSensor], rfl, rfl⟩
  | some fragmentType =>
    have hnone : unmeasured [s] = 0 := by simp [unmeasured, htype]
    rw [hnone]
    rw [htype] at h
    dsimp only at h
    rw [Action.run_perform_bind_run] at h
    simp only [Command.run] at h
    cases hknown : w.ledger.sensorOf? s.managedObjectId s.managedObjectName fragmentType with
    | some sensor =>
      rw [hknown] at h
      cases h
      exact .refl hw sum
    | none =>
      rw [hknown] at h
      dsimp only at h
      rw [Action.run_freshId_bind_run, Action.run_perform_bind_run] at h
      have hnext := Counts.reserve hw sum
      have hnew : w.ledger.sensor? (FreshId.text w.nextNumber) = none :=
        hw.sensor_new (World.not_old_text (Nat.le_refl _))
      rcases createSensor_counts hnext.consistent
        (s := newSensor (FreshId.text w.nextNumber) s fragmentType) hnew
        (World.old_text (Nat.lt_succ_self _)) sum with ⟨u, hrun, hcounts⟩ | ⟨_, _, hrun⟩
      · rw [hrun] at h
        cases h
        exact hnext.trans hcounts
      · rw [hrun] at h
        cases h
        exact hnext

theorem syncSensors_counts {ss : List SensorObject} (hw : w.Consistent)
    {r : List SensorId × Summary} (h : (syncSensors sum ss).run.run w = (.ok r, v)) :
    Counts (unmeasured ss) sum w r.2 v := by
  induction ss generalizing sum w r with
  | nil =>
    cases h
    exact .refl hw sum
  | cons s ss ih =>
    rw [syncSensors] at h
    obtain ⟨first, u, hfirst, h⟩ := Action.run_bind_eq_ok.1 h
    obtain ⟨rest, u', hrest, h⟩ := Action.run_bind_eq_ok.1 h
    cases h
    have hs := syncSensor_counts hw hfirst
    have hcount : unmeasured (s :: ss) = unmeasured [s] + unmeasured ss := unmeasured_append [s] ss
    have hss := ih hs.consistent hrest
    rw [hcount]
    exact hs.trans hss

theorem settleGroup_counts (hw : w.Consistent) {object name : String} {sensors : List SensorId}
    {groups : List GroupId} {r : GroupId × Summary}
    (h : (settleGroup sum object name sensors groups).run.run w = (.ok r, v)) :
    Counts 0 sum w r.2 v := by
  unfold settleGroup at h
  rw [Action.run_perform_bind_run] at h
  simp only [Command.run] at h
  cases hknown : w.ledger.groupOf? object with
  | some known =>
    rw [hknown] at h
    obtain ⟨grown, u, hadd, h⟩ := Action.run_bind_eq_ok.1 h
    have hcounts := addMembers_counts hw hadd sum
    cases h
    dsimp only
    split
    · exact ⟨hcounts.consistent, hcounts.skipped, hcounts.sensors, hcounts.groups⟩
    · exact hcounts
  | none =>
    rw [hknown] at h
    dsimp only at h
    rw [Action.run_freshId_bind_run, Action.run_perform_bind_run] at h
    have hnext := Counts.reserve hw sum
    have hnew : w.ledger.group? (FreshId.text w.nextNumber) = none :=
      hw.group_new (World.not_old_text (Nat.le_refl _))
    rcases createGroup_counts hnext.consistent
      (g := newGroup (FreshId.text w.nextNumber) object name sensors groups) hnew
      (World.old_text (Nat.lt_succ_self _)) rfl sum with ⟨u, hrun, hcounts⟩ | ⟨_, _, hrun⟩
    · rw [hrun] at h
      cases h
      exact hnext.trans hcounts
    · rw [hrun] at h
      dsimp only [joinOther] at h
      rw [Action.run_perform_bind_run] at h
      obtain ⟨other, x, hother, h⟩ := Action.run_bind_eq_ok.1 h
      obtain ⟨-, rfl⟩ := Action.orFail_eq_ok hother
      obtain ⟨grown, y, hadd, h⟩ := Action.run_bind_eq_ok.1 h
      cases h
      exact hnext.trans (addMembers_counts hnext.consistent hadd sum)

mutual

theorem syncGroup_counts : (o : GroupObject) → {w v : World} → {sum : Summary} →
    {r : GroupId × Summary} → w.Consistent → (syncGroup sum o).run.run w = (.ok r, v) →
    Counts (unmeasured (o.all.flatMap (·.sensors))) sum w r.2 v
  | .mk object name sensors groups, w, v, sum, r, hw, h => by
    rw [syncGroup] at h
    obtain ⟨ss, u, hsensors, h⟩ := Action.run_bind_eq_ok.1 h
    obtain ⟨gs, x, hgroups, h⟩ := Action.run_bind_eq_ok.1 h
    have hs := syncSensors_counts hw hsensors
    have hg := syncGroups_counts groups hs.consistent hgroups
    rw [GroupObject.all, List.flatMap_cons, unmeasured_append]
    exact (hs.trans hg).trans (settleGroup_counts hg.consistent h)

theorem syncGroups_counts : (os : List GroupObject) → {w v : World} → {sum : Summary} →
    {r : List GroupId × Summary} → w.Consistent → (syncGroups sum os).run.run w = (.ok r, v) →
    Counts (unmeasured ((GroupObject.allOf os).flatMap (·.sensors))) sum w r.2 v
  | [], w, v, sum, r, hw, h => by
    cases h
    exact .refl hw sum
  | o :: rest, w, v, sum, r, hw, h => by
    rw [syncGroups] at h
    obtain ⟨first, u, hfirst, h⟩ := Action.run_bind_eq_ok.1 h
    obtain ⟨more, x, hrest, h⟩ := Action.run_bind_eq_ok.1 h
    cases h
    have ho := syncGroup_counts o hw hfirst
    have hos := syncGroups_counts rest ho.consistent hrest
    rw [GroupObject.allOf, List.flatMap_append, unmeasured_append]
    exact ho.trans hos

end

theorem syncFrom_counts {os : List ManagedObject} (hw : w.Consistent)
    (h : (syncFrom sum os).run.run w = (.ok sum', v)) :
    Counts (unmeasured (os.flatMap (·.sensors))) sum w sum' v := by
  induction os generalizing sum w with
  | nil =>
    cases h
    exact .refl hw _
  | cons a os ih =>
    rw [syncFrom] at h
    obtain ⟨next, u, hfirst, h⟩ := Action.run_bind_eq_ok.1 h
    have ha : Counts (unmeasured a.sensors) sum w next u := by
      cases a with
      | sensor s =>
        rw [syncObject] at hfirst
        obtain ⟨r, x, hs, hfirst⟩ := Action.run_bind_eq_ok.1 hfirst
        cases hfirst
        exact syncSensor_counts hw hs
      | group g =>
        rw [syncObject] at hfirst
        obtain ⟨r, x, hg, hfirst⟩ := Action.run_bind_eq_ok.1 hfirst
        cases hfirst
        exact syncGroup_counts g hw hg
    rw [List.flatMap_cons, unmeasured_append]
    exact ha.trans (ih ha.consistent h)

end Counts

/-! ### A run and the next one -/

/-- What a run counts as created is what it adds to the ledger, and the same run right after it
changes nothing and skips the same objects. -/
theorem sync_again {w : World} (hw : w.Reachable) (os : List ManagedObject) :
    ∃ sum v, (sync os).run.run w = (.ok sum, v) ∧
      v.ledger.sensors.size = w.ledger.sensors.size + sum.sensorsCreated ∧
      v.ledger.groups.size = w.ledger.groups.size + sum.groupsCreated ∧
      ∀ u, u.ledger = v.ledger → v.nextNumber ≤ u.nextNumber →
        (sync os).run.run u = (.ok ⟨0, sum.sensorsSkipped, 0, 0⟩, u) := by
  obtain ⟨sum, v, hrun, hcomplete⟩ := sync_complete hw.consistent os
  have hcounts := syncFrom_counts hw.consistent hrun
  refine ⟨sum, v, hrun, hcounts.sensors, hcounts.groups, fun u hu hn => ?_⟩
  have hlater : v.Grows u := .of_ledger hu hn
  rw [sync, syncFrom_known (hcounts.consistent.outside hu hn) (hlater.complete hcomplete),
    Summary.skip, hcounts.skipped]
  rfl

/-- A plant that stands inside itself and is listed twice, with a sensor that measures nothing. -/
theorem sync_again_of_plant :
    let clock : Instant := ⟨0, 0, by decide⟩
    let boiler : SensorObject := ⟨"100", "Boiler", some "c8y_Temperature", none⟩
    let door : SensorObject := ⟨"200", "Door", none, none⟩
    let plant := [.group (.mk "7" "Plant" [boiler, door] [.mk "7" "Plant" [] []]),
      .group (.mk "7" "Plant" [boiler] [])]
    (World.new 8 clock).Reachable ∧ ∃ v, (sync plant).run.run (.new 8 clock) =
      (.ok ⟨1, 1, 1, 1⟩, v) ∧ (sync plant).run.run v = (.ok ⟨0, 1, 0, 0⟩, v) := by
  intro clock boiler door plant
  have hstart : (World.new 8 clock).Reachable := .new 8 clock
  obtain ⟨sum, v, hrun, -, -, hagain⟩ := sync_again hstart plant
  have hsum : ((sync plant).run.run (.new 8 clock)).1.toOption = some ⟨1, 1, 1, 1⟩ := by
    decide +kernel
  rw [hrun] at hsum
  obtain rfl := Option.some.inj hsum
  exact ⟨hstart, v, hrun, hagain v rfl (Nat.le_refl _)⟩

end Inbox.Synchronization

end SensorTasks

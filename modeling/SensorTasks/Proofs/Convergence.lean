import SensorTasks.Proofs.Takeover

/-!
Runs that take over objects converge. Each run looks a sensor or a group up and creates it if it is
not known, as two steps; when another run is faster, the ledger refuses the second one, which then
finds the first. Members are taken over before their groups, so when a group is settled its members
are known, also in a group that stands inside itself. No run fails, and one that is at its end
leaves behind all that was reported to it.
-/

namespace SensorTasks

open Message

namespace Inbox.Synchronization

variable {objects : List ManagedObject} {w₀ : World}

/-! ### Sensors -/

theorem syncSensor_comes {s : SensorObject} (hs : s ∈ objects.flatMap (·.sensors)) (sum : Summary)
    (past : List Event) (w : World) :
    Comes objects w₀ (syncSensor sum s) (fun v r => v.SensorIds [s] r.1.toList) past w := by
  unfold syncSensor
  split
  · rename_i htype
    exact Comes.pure fun v _ => .without (by simp [SensorObject.key?, htype])
  · rename_i fragmentType htype
    have hkey : s.key? = some
        (Ledger.Key.sensorOf s.managedObjectId s.managedObjectName fragmentType) := by
      rw [SensorObject.key?, htype]
      rfl
    refine Comes.perform fun v hv _ => ⟨Or.inl rfl, fun _ _ => ?_⟩
    simp only [Command.run]
    cases hknown : v.ledger.sensorOf? s.managedObjectId s.managedObjectName fragmentType with
    | some sensor =>
      have hhas := World.hasSensor_of_find hv.consistent htype hknown
      exact Comes.pure fun u hvu => .single (hvu.hasSensor hhas)
    | none =>
      refine Comes.freshId fun n past u _ hn => ?_
      let new := newSensor (FreshId.text n) s fragmentType
      have hown : OwnsNewId past (.createSensor new) := fun id hid =>
        ⟨n, hn, (Option.some.inj hid).symm⟩
      refine Comes.perform fun x hx _ => ⟨Or.inr (Or.inl ⟨new, rfl, hown, s, hs, hkey⟩), ?_⟩
      rcases World.createSensor_run hx.consistent new with
        ⟨y, hrun, -, -, hsensors⟩ | ⟨collection, key, hrun, id, other, hother, hsame⟩
      · rw [hrun]
        have hhas : y.HasSensor s new.id := ⟨new, (hsensors new.id).trans (if_pos rfl), hkey⟩
        exact fun _ _ => Comes.pure fun z hyz => .single (hyz.hasSensor hhas)
      · rw [hrun]
        -- the sensor that stood in the way is found now
        have hhas : x.HasSensor s id := ⟨other, hother, hkey.trans (congrArg some hsame.symm)⟩
        refine fun _ _ => Comes.perform fun y hy hxy => ⟨Or.inl rfl, fun _ _ => ?_⟩
        obtain ⟨found, hfound⟩ := (hxy.hasSensor hhas).find hy.consistent htype
        have hhas' := World.hasSensor_of_find hy.consistent htype hfound
        simp only [Command.run, hfound]
        exact Comes.pure fun z hyz => .single (hyz.hasSensor hhas')

theorem syncSensors_comes {ss : List SensorObject} (hss : ss ⊆ objects.flatMap (·.sensors))
    (sum : Summary) (past : List Event) (w : World) :
    Comes objects w₀ (syncSensors sum ss) (fun v r => v.SensorIds ss r.1) past w := by
  induction ss generalizing sum past w with
  | nil => exact Comes.pure fun v _ => .nil
  | cons s ss ih =>
    rw [List.cons_subset] at hss
    refine (syncSensor_comes hss.1 sum past w).bind fun r past v _ _ hs => ?_
    refine (ih hss.2 r.2 past v).bind fun rest past u _ hvu hrest => ?_
    exact Comes.pure fun x hux => .cons ((hvu.trans hux).sensorIds hs) (hux.sensorIds hrest)

/-! ### Groups -/

section Group

variable {o : GroupObject} {sensors : List SensorId} {groups : List GroupId}

/-- Members that join the group of an object. -/
theorem addMembers_comes (ho : o ∈ objects.flatMap (·.groups)) {past : List Event} {w : World}
    {id : GroupId} (hid : w.HasGroup o.managedObjectId id) (hs : w.SensorIds o.sensors sensors)
    (hgs : w.GroupIds o.groups groups) :
    Comes objects w₀ ((Action.addMembers id sensors groups).mapError HandlerError.ledger)
      (fun v _ => ∃ g, v.Joined o id g) past w := by
  have hprogram : ((Action.addMembers id sensors groups).mapError HandlerError.ledger).run =
      .call (.addMembers id sensors groups) fun
        | .ok g => .done (.ok g)
        | .error e => .done (.error (.ledger e)) :=
    congrArg (Program.call (.addMembers id sensors groups)) (funext fun
      | .ok _ => rfl
      | .error _ => rfl)
  unfold Comes Action.Ensures
  rw [hprogram]
  intro v hv hwv
  obtain ⟨g, hg, hobject⟩ := hwv.hasGroup hid
  obtain rfl : g.id = id := hv.consistent.indexed.group_id hg
  have hs' := hwv.sensorIds hs
  have hgs' := hwv.groupIds hgs
  refine ⟨Or.inr (Or.inr (Or.inr ⟨g, sensors, groups, rfl, hg, o, ho, hobject, hs'.only,
    hgs'.only⟩)), ?_⟩
  obtain ⟨u, hrun, -, hsame, hgroups⟩ := World.addMembers_run hg sensors groups
  rw [hrun]
  intro _ hvu x _ hux
  have hvu : v.Grows u := hvu
  exact hux.joined (World.joined_addMembers ((hgroups g.id).trans (if_pos rfl)) hobject
    (hvu.sensorIds hs') (hvu.groupIds hgs'))

theorem settleGroup_comes (ho : o ∈ objects.flatMap (·.groups)) (sum : Summary)
    {past : List Event} {w : World} (hs : w.SensorIds o.sensors sensors)
    (hgs : w.GroupIds o.groups groups) :
    Comes objects w₀ (settleGroup sum o.managedObjectId o.managedObjectName sensors groups)
      (fun v r => ∃ g, v.Joined o r.1 g) past w := by
  unfold settleGroup
  refine Comes.perform fun v hv hwv => ⟨Or.inl rfl, fun _ _ => ?_⟩
  have hs := hwv.sensorIds hs
  have hgs := hwv.groupIds hgs
  simp only [Command.run]
  cases hknown : v.ledger.groupOf? o.managedObjectId with
  | some known =>
    have hhas : v.HasGroup o.managedObjectId known.id :=
      ⟨known, World.hasGroup_of_find hv.consistent hknown⟩
    refine (addMembers_comes ho hhas hs hgs).bind fun grown past u _ _ hjoined => ?_
    obtain ⟨g, hjoined⟩ := hjoined
    exact Comes.pure fun x hux => hux.joined hjoined
  | none =>
    refine Comes.freshId fun n past u hvu hn => ?_
    let new : Group := ⟨FreshId.text n, o.managedObjectName, none, some o.managedObjectId,
      some o.managedObjectName, [], [], .empty⟩
    have hown : OwnsNewId past (.createGroup (new.addMembers sensors groups)) := fun id hid =>
      ⟨n, hn, (Option.some.inj hid).symm⟩
    refine Comes.perform fun x hx hux => ⟨Or.inr (Or.inr (Or.inl ⟨new, sensors, groups, rfl, hown,
      rfl, rfl, o, ho, rfl, ((hvu.trans hux).sensorIds hs).only,
      ((hvu.trans hux).groupIds hgs).only⟩)), ?_⟩
    have hs := (hvu.trans hux).sensorIds hs
    have hgs := (hvu.trans hux).groupIds hgs
    rcases World.createGroup_run hx.consistent (g := new.addMembers sensors groups) rfl with
      ⟨y, hrun, -, -, hgroups⟩ | ⟨collection, key, hrun, id, hhas⟩
    · intro _ hxy
      rw [newGroup, hrun] at hxy ⊢
      have hjoined : y.Joined o new.id (new.addMembers sensors groups) :=
        World.joined_addMembers ((hgroups new.id).trans (if_pos rfl)) rfl (hxy.sensorIds hs)
          (hxy.groupIds hgs)
      exact Comes.pure fun z hyz => hyz.joined hjoined
    · rw [newGroup, hrun]
      -- the group that stood in the way is found now
      intro _ _
      show Comes objects w₀ (joinOther sum o.managedObjectId sensors groups) _ _ _
      unfold joinOther
      refine Comes.perform fun y hy hxy => ⟨Or.inl rfl, fun _ _ => ?_⟩
      obtain ⟨known, hknown⟩ := (hxy.hasGroup hhas).find hy.consistent
      have hhas' : y.HasGroup o.managedObjectId known.id :=
        ⟨known, World.hasGroup_of_find hy.consistent hknown⟩
      simp only [Command.run, hknown, Action.orFail, pure_bind]
      refine (addMembers_comes ho hhas' (hxy.sensorIds hs) (hxy.groupIds hgs)).bind
        fun grown past z _ _ hjoined => ?_
      obtain ⟨g, hjoined⟩ := hjoined
      exact Comes.pure fun z' hzz' => hzz'.joined hjoined

end Group

/-! ### Objects inside objects -/

/-- All groups and sensors of an object were reported. -/
structure Reported (objects : List ManagedObject) (os : List GroupObject) : Prop where
  groups : os ⊆ objects.flatMap (·.groups)
  sensors : os.flatMap (·.sensors) ⊆ objects.flatMap (·.sensors)

theorem Reported.of_subset {os os' : List GroupObject} (h : Reported objects os) (hsub : os' ⊆ os) :
    Reported objects os' where
  groups := List.Subset.trans hsub h.groups
  sensors := by
    refine List.Subset.trans (fun s hs => ?_) h.sensors
    obtain ⟨o, ho, hs⟩ := List.mem_flatMap.1 hs
    exact List.mem_flatMap.2 ⟨o, hsub ho, hs⟩

mutual

theorem syncGroup_comes : (o : GroupObject) → Reported objects o.all → (sum : Summary) →
    (past : List Event) → (w : World) →
    Comes objects w₀ (syncGroup sum o) (fun v r => (∃ g, v.Joined o r.1 g) ∧ v.AllJoined o.all)
      past w
  | .mk object name sensors groups, h, sum, past, w => by
    rw [GroupObject.all] at h ⊢
    have hsensors : sensors ⊆ objects.flatMap (·.sensors) :=
      List.Subset.trans (List.subset_append_left sensors _) h.sensors
    have hinside := h.of_subset (List.subset_cons_self _ (GroupObject.allOf groups))
    unfold syncGroup
    refine (syncSensors_comes hsensors sum past w).bind fun r past v _ _ hs => ?_
    refine (syncGroups_comes groups hinside r.2 past v).bind fun r' past u _ hvu hgs => ?_
    refine (settleGroup_comes (h.groups List.mem_cons_self) r'.2 (hvu.sensorIds hs) hgs.1).imp
      fun x r'' hux hjoined => ⟨hjoined, ?_⟩
    obtain ⟨g, hjoined⟩ := hjoined
    exact .cons hjoined (hux.allJoined hgs.2)

theorem syncGroups_comes : (os : List GroupObject) → Reported objects (GroupObject.allOf os) →
    (sum : Summary) → (past : List Event) → (w : World) →
    Comes objects w₀ (syncGroups sum os)
      (fun v r => v.GroupIds os r.1 ∧ v.AllJoined (GroupObject.allOf os)) past w
  | [], _, _, _, _ => Comes.pure fun v _ => ⟨.nil, .nil⟩
  | o :: rest, h, sum, past, w => by
    rw [GroupObject.allOf] at h ⊢
    unfold syncGroups
    refine (syncGroup_comes o (h.of_subset (List.subset_append_left _ _)) sum past w).bind
      fun r past v _ _ ho => ?_
    refine (syncGroups_comes rest (h.of_subset (List.subset_append_right _ _)) r.2 past v).bind
      fun r' past u _ hvu hrest => ?_
    obtain ⟨⟨g, hjoined⟩, hall⟩ := ho
    refine Comes.pure fun x hux => ⟨?_, ((hvu.trans hux).allJoined hall).append
      (hux.allJoined hrest.2)⟩
    obtain ⟨g', hjoined'⟩ := (hvu.trans hux).joined hjoined
    have hfirst : x.GroupIds [o] [r.1] := .single hjoined'.hasGroup
    exact hfirst.cons (hux.groupIds hrest.1)

end

theorem syncObject_comes {a : ManagedObject} (ha : a ∈ objects) (sum : Summary)
    (past : List Event) (w : World) :
    Comes objects w₀ (syncObject sum a) (fun v _ => v.Complete [a]) past w := by
  have hsensors : a.sensors ⊆ objects.flatMap (·.sensors) := fun s hs =>
    List.mem_flatMap.2 ⟨a, ha, hs⟩
  have hgroups : a.groups ⊆ objects.flatMap (·.groups) := fun o ho =>
    List.mem_flatMap.2 ⟨a, ha, ho⟩
  cases a with
  | sensor s =>
    unfold syncObject
    refine (syncSensor_comes (hsensors (List.mem_singleton_self s)) sum past w).bind
      fun r past v _ _ hs => Comes.pure fun u hvu => ⟨fun s' hs' hkey => ?_, fun o ho => ?_⟩
    · obtain ⟨id, -, hhas⟩ := (hvu.sensorIds hs).all s' (by simpa [ManagedObject.sensors] using hs')
        hkey
      exact ⟨id, hhas⟩
    · simp [ManagedObject.groups] at ho
  | group g =>
    unfold syncObject
    refine (syncGroup_comes g ⟨hgroups, hsensors⟩ sum past w).bind
      fun r past v _ _ hall => Comes.pure fun u hvu => ?_
    have hjoined : u.AllJoined g.all := hvu.allJoined hall.2
    refine ⟨fun s hs hkey => ?_, by simpa [ManagedObject.groups] using hjoined⟩
    obtain ⟨o, ho, hs⟩ : ∃ o ∈ g.all, s ∈ o.sensors := by
      simpa [ManagedObject.sensors] using hs
    obtain ⟨id, g', hj⟩ := hjoined o ho
    obtain ⟨b, -, hhas⟩ := hj.sensors s hs hkey
    exact ⟨b, hhas⟩

theorem syncFrom_comes {os : List ManagedObject} (hos : os ⊆ objects) (sum : Summary)
    (past : List Event) (w : World) :
    Comes objects w₀ (syncFrom sum os) (fun v _ => v.Complete os) past w := by
  induction os generalizing sum past w with
  | nil => exact Comes.pure fun v _ => .nil
  | cons a os ih =>
    rw [List.cons_subset] at hos
    refine (syncObject_comes hos.1 sum past w).bind fun sum past v _ _ ha => ?_
    exact (ih hos.2 sum past v).imp fun u _ hvu hos => (hvu.complete ha).cons hos

/-- A run that starts alone in a consistent world ends, and all that it was told is known then. -/
theorem sync_complete {w : World} (hw : w.Consistent) (os : List ManagedObject) :
    ∃ sum v, (sync os).run.run w = (.ok sum, v) ∧ v.Complete os := by
  obtain ⟨⟨past, hgoal⟩, -⟩ := Thread.alone_of_owning (K := fun _ => True)
    (fun _ h => Bounded.consistent h) (fun _ _ _ => owns_of_mayTakeOver)
    (fun _ _ _ hv ha hf => kept_of_mayTakeOver hv ha hf) (fun _ _ _ _ _ _ => trivial)
    (Bounded.start hw) trivial (syncFrom_comes (List.Subset.refl os) .zero [] w)
  unfold sync
  cases hrun : (syncFrom .zero os).run.run w with
  | mk res v =>
    rw [hrun] at hgoal
    cases res with
    | ok sum => exact ⟨sum, v, rfl, hgoal⟩
    | error e => exact hgoal.elim

/-! ### Runs that take turns -/

/-- A run that takes turns with others. -/
abbrev Run := Thread (Except HandlerError Summary)

/-- What the ledger comes to: what was there before, and what was reported. -/
structure Converged (objects : List ManagedObject) (w₀ w : World) : Prop where
  /-- Sensors stay as they are, and groups only gain members. -/
  grows : w₀.Grows w
  oneSensor : ∀ {id id' s s'}, w.ledger.sensor? id = some s → w.ledger.sensor? id' = some s' →
    Ledger.sensorKey s = Ledger.sensorKey s' → id = id'
  oneGroup : ∀ {object id id'}, w.HasGroup object id → w.HasGroup object id' → id = id'
  sensors : ∀ key, (∃ id s, w.ledger.sensor? id = some s ∧ Ledger.sensorKey s = key) ↔
    (∃ id s, w₀.ledger.sensor? id = some s ∧ Ledger.sensorKey s = key) ∨
      ∃ o ∈ objects.flatMap (·.sensors), o.key? = some key
  groups : ∀ object, (∃ id, w.HasGroup object id) ↔ (∃ id, w₀.HasGroup object id) ∨
    ∃ o ∈ objects.flatMap (·.groups), o.managedObjectId = object
  /-- New members stand after the old ones, each of them once. -/
  order : ∀ {id g}, w.ledger.group? id = some g →
    Extends (w₀.sensorsIn id) g.sensors ∧ Extends (w₀.groupsIn id) g.subGroups
  sensorMembers : ∀ {id g}, w.ledger.group? id = some g → ∀ s, s ∈ g.sensors ↔
    s ∈ w₀.sensorsIn id ∨ ∃ o ∈ objects.flatMap (·.groups),
      g.managedObjectId = some o.managedObjectId ∧ w.ListsSensor o s
  groupMembers : ∀ {id g}, w.ledger.group? id = some g → ∀ m, m ∈ g.subGroups ↔
    m ∈ w₀.groupsIn id ∨ m ≠ id ∧ ∃ o ∈ objects.flatMap (·.groups),
      g.managedObjectId = some o.managedObjectId ∧ w.ListsGroup o m

/-- The group of an object that was reported has been joined by all that the object lists. -/
theorem joined_of_object {w : World} (h : Bounded objects w₀ w) (hc : w.Complete objects)
    {id : GroupId} {g : Group} (hg : w.ledger.group? id = some g) {o : GroupObject}
    (ho : o ∈ objects.flatMap (·.groups)) (hobject : g.managedObjectId = some o.managedObjectId) :
    w.Joined o id g := by
  obtain ⟨id', g', hj⟩ := hc.groups o ho
  obtain rfl := hj.hasGroup.unique ⟨g, hg, hobject⟩ h.consistent
  obtain rfl := Option.some.inj (hg.symm.trans hj.group)
  exact hj

/-- No less and no more than was there before and was reported. -/
theorem converged_of_complete {w : World} (h : Bounded objects w₀ w) (hc : w.Complete objects) :
    Converged objects w₀ w where
  grows := h.grows
  oneSensor ha hb hkey := by
    have hab := h.consistent.indexed.sensors.unique ha hb rfl (by rw [hkey])
    rw [← h.consistent.indexed.sensor_id ha, ← h.consistent.indexed.sensor_id hb, hab]
  oneGroup hg hg' := hg.unique hg' h.consistent
  sensors key := by
    constructor
    · rintro ⟨id, s, hs, rfl⟩
      exact (h.sensors hs).imp (fun hs => ⟨id, s, hs, rfl⟩) fun ho => ho
    · rintro (⟨id, s, hs, rfl⟩ | ⟨o, ho, hkey⟩)
      · exact ⟨id, s, h.grows.sensor hs, rfl⟩
      · obtain ⟨id, s, hs, hkey'⟩ := hc.sensors o ho (by simp [hkey])
        exact ⟨id, s, hs, Option.some.inj (hkey'.symm.trans hkey)⟩
  groups object := by
    constructor
    · rintro ⟨id, g, hg, hobject⟩
      rcases h.groups hg with ⟨g₀, hg₀⟩ | ⟨o, ho, hobject'⟩
      · obtain ⟨g', hg', hgrown⟩ := h.grows.group hg₀
        obtain rfl := Option.some.inj (hg.symm.trans hg')
        exact Or.inl ⟨id, g₀, hg₀, hgrown.managedObjectId.symm.trans hobject⟩
      · exact Or.inr ⟨o, ho, Option.some.inj (hobject'.symm.trans hobject)⟩
    · rintro (⟨id, hid⟩ | ⟨o, ho, rfl⟩)
      · exact ⟨id, h.grows.hasGroup hid⟩
      · obtain ⟨id, g, hj⟩ := hc.groups o ho
        exact ⟨id, hj.hasGroup⟩
  order hg := ⟨(h.members hg).sensors, (h.members hg).subGroups⟩
  sensorMembers {id g} hg s := by
    refine ⟨(h.members hg).sensor s, ?_⟩
    rintro (hs | ⟨o, ho, hobject, s', hs', hhas⟩)
    · exact (h.members hg).sensors.mem hs
    · have hj := joined_of_object h hc hg ho hobject
      obtain ⟨a, ha, hhas'⟩ := hj.sensors s' hs' (by
        obtain ⟨_, _, hkey⟩ := hhas
        simp [hkey])
      exact hhas.unique hhas' h.consistent ▸ ha
  groupMembers {id g} hg m := by
    refine ⟨(h.members hg).group m, ?_⟩
    rintro (hm | ⟨hne, o, ho, hobject, o', ho', hhas⟩)
    · exact (h.members hg).subGroups.mem hm
    · have hj := joined_of_object h hc hg ho hobject
      obtain ⟨a, hhas', hmem⟩ := hj.groups o' ho'
      obtain rfl := hhas.unique hhas' h.consistent
      exact hmem hne

/-- Runs that take over objects do not fail, they can always go on to their ends, and when all of
them are there the ledger has what it had before and what was reported, in whatever order their
commands were carried out. -/
theorem sync_converges {w₀ w : World} (h₀ : w₀.Reachable) (reports : List (List ManagedObject))
    {ts : List Run}
    (run : Thread.Steps (reports.map fun objects => Thread.start (sync objects).run, w₀) (ts, w)) :
    (∀ (i : Nat) past e, ts[i]? ≠ some ⟨past, .done (.error e)⟩) ∧
      (∃ s, Thread.Steps (ts, w) s ∧ Thread.AllDone s.1) ∧
      (Thread.AllDone ts → Converged reports.flatten w₀ w) := by
  let objects := reports.flatten
  let goal : Nat → Goal (Except HandlerError Summary) := fun i =>
    Action.endsIn (fun _ v _ => ∀ os, reports[i]? = some os → v.Complete os) fun _ _ _ => False
  have hlawful : Thread.Lawful (takingOver objects w₀) (fun _ => mayTakeOver objects) goal
      (reports.map fun objects => Thread.start (sync objects).run, w₀) := by
    refine Thread.Lawful.start (.start h₀.consistent) fun i os hos => ?_
    have hsub : os ⊆ objects := fun a ha =>
      List.mem_flatten.2 ⟨os, List.mem_of_getElem? hos, ha⟩
    refine (syncFrom_comes hsub .zero [] w₀).imp fun v _ _ hc os' hos' => ?_
    exact Option.some.inj (hos.symm.trans hos') ▸ hc
  obtain ⟨hl, -, -, -⟩ := run.lawful_of_owning (K := fun _ => True)
    (fun _ h => Bounded.consistent h) (fun _ _ _ _ => owns_of_mayTakeOver)
    (fun _ _ _ _ hw ha hf => kept_of_mayTakeOver hw ha hf)
    (fun _ _ _ _ _ _ _ _ _ _ _ => trivial) hlawful (Thread.Owning.start w₀) trivial
  refine ⟨fun i past e hi => hl.reached hi, Thread.Steps.exists_allDone ts w, fun hdone => ?_⟩
  refine converged_of_complete hl.holds (.flatten fun os hos => ?_)
  obtain ⟨i, hi⟩ := List.mem_iff_getElem?.1 hos
  obtain ⟨⟨past, p⟩, ht⟩ := run.exists_thread hi
  obtain ⟨res, rfl⟩ : ∃ res, p = .done res := hdone _ (List.mem_of_getElem? ht)
  have hreached := hl.reached ht
  cases res with
  | ok sum => exact hreached os hi
  | error e => exact hreached.elim

/-- Two runs that take over the same sensor and the same group, which stands inside itself, and
take turns at every step. -/
theorem sync_race :
    let clock : Instant := ⟨0, 0, by decide⟩
    let boiler : SensorObject := ⟨"100", "Boiler", some "c8y_Temperature", none⟩
    let plant : ManagedObject := .group (.mk "7" "Plant" [boiler] [.mk "7" "Plant" [] []])
    let start := [[plant], [plant]].map fun objects => Thread.start (sync objects).run
    let s := Thread.turns (start, World.new 8 clock) ((List.replicate 12 [0, 1]).flatten)
    s.2.ledger.stats = ⟨0, 0, 1, 1⟩ ∧ Thread.AllDone s.1 ∧
      Converged [plant, plant] (.new 8 clock) s.2 := by
  intro clock boiler plant start s
  have hdone : Thread.AllDone s.1 := Thread.allDone_iff.2 (by decide +kernel)
  have hall : ∀ order, Thread.AllDone (Thread.turns (start, World.new 8 clock) order).1 →
      Converged [plant, plant] (.new 8 clock)
        (Thread.turns (start, World.new 8 clock) order).2 := fun order =>
    (sync_converges (.new 8 clock) [[plant], [plant]]
      (Thread.Steps.turns (start, World.new 8 clock) order)).2.2
  exact ⟨by decide +kernel, hdone, hall _ hdone⟩

end Inbox.Synchronization

end SensorTasks

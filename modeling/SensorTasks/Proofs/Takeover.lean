import SensorTasks.Proofs.Growth
import SensorTasks.Proofs.Lookup

/-!
The rules of runs that take over objects. A run creates nothing and lets nothing join that was not
reported, so there is never more in the ledger than was there before or was reported; and what a run
leaves behind is kept by the others. From the two bounds together it follows what the ledger comes
to, whatever order the runs acted in.
-/

namespace SensorTasks

open Message

/-! ### No more than was reported -/

/-- What a group may have as members: those that it had, and those that its objects list. -/
structure Membership (objects : List ManagedObject) (w₀ w : World) (id : GroupId) (g : Group) :
    Prop where
  sensors : Extends (w₀.sensorsIn id) g.sensors
  subGroups : Extends (w₀.groupsIn id) g.subGroups
  sensor : ∀ s ∈ g.sensors, s ∈ w₀.sensorsIn id ∨
    ∃ o ∈ objects.flatMap (·.groups), g.managedObjectId = some o.managedObjectId ∧
      w.ListsSensor o s
  group : ∀ m ∈ g.subGroups, m ∈ w₀.groupsIn id ∨ m ≠ id ∧
    ∃ o ∈ objects.flatMap (·.groups), g.managedObjectId = some o.managedObjectId ∧
      w.ListsGroup o m

/-- The ledger has grown by nothing but what was reported. -/
structure Bounded (objects : List ManagedObject) (w₀ w : World) : Prop where
  consistent : w.Consistent
  grows : w₀.Grows w
  sensors : ∀ {id s}, w.ledger.sensor? id = some s → w₀.ledger.sensor? id = some s ∨
    ∃ o ∈ objects.flatMap (·.sensors), o.key? = some (Ledger.sensorKey s)
  groups : ∀ {id g}, w.ledger.group? id = some g → (∃ g₀, w₀.ledger.group? id = some g₀) ∨
    ∃ o ∈ objects.flatMap (·.groups), g.managedObjectId = some o.managedObjectId
  members : ∀ {id g}, w.ledger.group? id = some g → Membership objects w₀ w id g

/-- The members join a group of which an object says that it lists them. -/
structure Joins (objects : List ManagedObject) (w : World) (g : Group) (sensors : List SensorId)
    (groups : List GroupId) : Prop where
  reported : ∃ o ∈ objects.flatMap (·.groups), g.managedObjectId = some o.managedObjectId ∧
    (∀ s ∈ sensors, w.ListsSensor o s) ∧ ∀ m ∈ groups, w.ListsGroup o m

section Bounded

variable {objects : List ManagedObject} {w₀ w v : World} {id : GroupId} {g : Group}
  {sensors : List SensorId} {groups : List GroupId}

theorem Membership.later (h : Membership objects w₀ w id g) (hv : w.Grows v) :
    Membership objects w₀ v id g where
  sensors := h.sensors
  subGroups := h.subGroups
  sensor s hs := (h.sensor s hs).imp_right fun ⟨o, ho, hobject, hl⟩ =>
    ⟨o, ho, hobject, hv.listsSensor hl⟩
  group m hm := (h.group m hm).imp_right fun ⟨hne, o, ho, hobject, hl⟩ =>
    ⟨hne, o, ho, hobject, hv.listsGroup hl⟩

theorem Membership.addMembers (h : Membership objects w₀ w g.id g)
    (hjoin : Joins objects w g sensors groups) :
    Membership objects w₀ w g.id (g.addMembers sensors groups) := by
  obtain ⟨o, ho, hobject, hsensors, hgroups⟩ := hjoin.reported
  refine ⟨h.sensors.trans (.addNew _ _), h.subGroups.trans (.addNew _ _), fun s hs => ?_,
    fun m hm => ?_⟩
  · rcases mem_addNew.1 hs with hs | hs
    · exact h.sensor s hs
    · exact Or.inr ⟨o, ho, hobject, hsensors s hs⟩
  · rcases mem_addNew.1 hm with hm | hm
    · exact h.group m hm
    · obtain ⟨hm, hne⟩ := List.mem_filter.1 hm
      exact Or.inr ⟨by simpa using hne, o, ho, hobject, hgroups m hm⟩

/-- A group that was not there may be without members. -/
theorem Membership.empty (hnew : w₀.ledger.group? id = none) (hsensors : g.sensors = [])
    (hgroups : g.subGroups = []) : Membership objects w₀ w id g := by
  refine ⟨?_, ?_, ?_, ?_⟩
  · rw [World.sensorsIn, hnew, hsensors]
    exact .refl []
  · rw [World.groupsIn, hnew, hgroups]
    exact .refl []
  · simp [hsensors]
  · simp [hgroups]

theorem Bounded.start (h : w₀.Consistent) : Bounded objects w₀ w₀ where
  consistent := h
  grows := .refl w₀
  sensors hs := Or.inl hs
  groups hg := Or.inl ⟨_, hg⟩
  members {id g} hg := by
    have hsensors : w₀.sensorsIn id = g.sensors := by rw [World.sensorsIn, hg]
    have hgroups : w₀.groupsIn id = g.subGroups := by rw [World.groupsIn, hg]
    exact ⟨hsensors ▸ .refl _, hgroups ▸ .refl _, fun s hs => Or.inl (hsensors ▸ hs),
      fun m hm => Or.inl (hgroups ▸ hm)⟩

/-- Nothing that is reported changes as long as the ledger does not. -/
theorem Bounded.of_ledger (h : Bounded objects w₀ w) (hv : v.Consistent)
    (hl : v.ledger = w.ledger) (hn : w.nextNumber ≤ v.nextNumber) : Bounded objects w₀ v where
  consistent := hv
  grows := h.grows.trans (.of_ledger hl hn)
  sensors hs := h.sensors (hl ▸ hs)
  groups hg := h.groups (hl ▸ hg)
  members hg := (h.members (hl ▸ hg)).later (.of_ledger hl hn)

/-- A new sensor was reported. -/
theorem Bounded.createSensor (h : Bounded objects w₀ w) (hv : v.Consistent) {s : Sensor}
    (hnew : w.ledger.sensor? s.id = none)
    (hreported : ∃ o ∈ objects.flatMap (·.sensors), o.key? = some (Ledger.sensorKey s))
    (hn : v.nextNumber = w.nextNumber) (hgroups : v.ledger.groups = w.ledger.groups)
    (hsensors : ∀ id, v.ledger.sensor? id = if id = s.id then some s else w.ledger.sensor? id) :
    Bounded objects w₀ v ∧ w.Grows v := by
  have hgroup : ∀ id, v.ledger.group? id = w.ledger.group? id := fun id => by
    rw [Ledger.group?, hgroups, Ledger.group?]
  have hgrows : w.Grows v := by
    refine ⟨Nat.le_of_eq hn.symm, fun {id a} ha => ?_, fun {id g} hg => ?_⟩
    · rw [hsensors, if_neg, ha]
      rintro rfl
      rw [hnew] at ha
      cases ha
    · exact ⟨g, (hgroup id).trans hg, .refl g⟩
  refine ⟨⟨hv, h.grows.trans hgrows, fun {id a} ha => ?_,
    fun hg => h.groups ((hgroup _).symm.trans hg),
    fun hg => (h.members ((hgroup _).symm.trans hg)).later hgrows⟩, hgrows⟩
  rw [hsensors] at ha
  split at ha
  · obtain rfl := Option.some.inj ha
    exact Or.inr hreported
  · exact h.sensors ha

/-- One group has gained members that were reported, or is new. -/
theorem Bounded.putGroup (h : Bounded objects w₀ w) (hv : v.Consistent)
    (hjoin : Joins objects w g sensors groups)
    (hold : w.ledger.group? g.id = some g ∨
      w.ledger.group? g.id = none ∧ g.sensors = [] ∧ g.subGroups = [])
    (hn : v.nextNumber = w.nextNumber) (hsensors : v.ledger.sensors = w.ledger.sensors)
    (hgroups : ∀ id, v.ledger.group? id =
      if id = g.id then some (g.addMembers sensors groups) else w.ledger.group? id) :
    Bounded objects w₀ v ∧ w.Grows v := by
  have hsensor : ∀ id, v.ledger.sensor? id = w.ledger.sensor? id := fun id => by
    rw [Ledger.sensor?, hsensors, Ledger.sensor?]
  have hgrows : w.Grows v := by
    refine ⟨Nat.le_of_eq hn.symm, fun hs => (hsensor _).trans hs, fun {id a} ha => ?_⟩
    by_cases hid : id = g.id
    · subst hid
      rcases hold with hold | ⟨hold, -⟩
      · obtain rfl := Option.some.inj (ha.symm.trans hold)
        exact ⟨_, (hgroups a.id).trans (if_pos rfl), .addMembers a sensors groups⟩
      · rw [hold] at ha
        cases ha
    · exact ⟨a, ((hgroups id).trans (if_neg hid)).trans ha, .refl a⟩
  have hmembers : Membership objects w₀ w g.id g := by
    rcases hold with hold | ⟨hold, hs, hg⟩
    · exact h.members hold
    · refine .empty ?_ hs hg
      cases hg₀ : w₀.ledger.group? g.id with
      | none => rfl
      | some g₀ =>
        obtain ⟨g', hg', -⟩ := h.grows.group hg₀
        rw [hold] at hg'
        cases hg'
  refine ⟨⟨hv, h.grows.trans hgrows, fun hs => h.sensors ((hsensor _).symm.trans hs),
    fun {id a} ha => ?_, fun {id a} ha => ?_⟩, hgrows⟩
  · rw [hgroups] at ha
    split at ha
    · obtain rfl := Option.some.inj ha
      obtain ⟨o, ho, hobject, -⟩ := hjoin.reported
      exact Or.inr ⟨o, ho, hobject⟩
    · exact h.groups ha
  · rw [hgroups] at ha
    split at ha
    · obtain rfl := Option.some.inj ha
      subst id
      exact (hmembers.addMembers hjoin).later hgrows
    · exact (h.members ha).later hgrows

end Bounded

/-! ### No less than was reported -/

/-- The ids are those of the objects that have one. -/
structure Listing {α : Type} (stands : α → String → Prop) (named : α → Prop) (objects : List α)
    (ids : List String) : Prop where
  only : ∀ id ∈ ids, ∃ o ∈ objects, stands o id
  all : ∀ o ∈ objects, named o → ∃ id ∈ ids, stands o id

namespace Listing

variable {α : Type} {stands : α → String → Prop} {named : α → Prop} {o : α} {objects : List α}
  {ids ids' : List String}

theorem nil : Listing stands named [] [] := ⟨by simp, by simp⟩

theorem imp {stands' : α → String → Prop} (h : Listing stands named objects ids)
    (hs : ∀ o id, stands o id → stands' o id) : Listing stands' named objects ids where
  only id hid := by
    obtain ⟨o, ho, hstands⟩ := h.only id hid
    exact ⟨o, ho, hs o id hstands⟩
  all o ho hnamed := by
    obtain ⟨id, hid, hstands⟩ := h.all o ho hnamed
    exact ⟨id, hid, hs o id hstands⟩

theorem cons (h : Listing stands named [o] ids) (h' : Listing stands named objects ids') :
    Listing stands named (o :: objects) (ids ++ ids') where
  only id hid := by
    rcases List.mem_append.1 hid with hid | hid
    · obtain ⟨a, ha, hstands⟩ := h.only id hid
      exact ⟨a, List.mem_cons.2 (Or.inl (List.mem_singleton.1 ha)), hstands⟩
    · obtain ⟨a, ha, hstands⟩ := h'.only id hid
      exact ⟨a, List.mem_cons_of_mem o ha, hstands⟩
  all a ha hnamed := by
    rcases List.mem_cons.1 ha with rfl | ha
    · obtain ⟨id, hid, hstands⟩ := h.all a (List.mem_singleton_self a) hnamed
      exact ⟨id, List.mem_append_left ids' hid, hstands⟩
    · obtain ⟨id, hid, hstands⟩ := h'.all a ha hnamed
      exact ⟨id, List.mem_append_right ids hid, hstands⟩

theorem single {id : String} (h : stands o id) : Listing stands named [o] [id] where
  only _ hid := ⟨o, List.mem_singleton_self o, List.mem_singleton.1 hid ▸ h⟩
  all _ ha _ := ⟨id, List.mem_singleton_self id, List.mem_singleton.1 ha ▸ h⟩

/-- An object that has no id. -/
theorem without (h : ¬named o) : Listing stands named [o] [] where
  only _ hid := by cases hid
  all _ ha hnamed := absurd (List.mem_singleton.1 ha ▸ hnamed) h

end Listing

namespace World

/-- The ids of the sensors that objects stand for. -/
abbrev SensorIds (w : World) : List SensorObject → List SensorId → Prop :=
  Listing w.HasSensor fun s => s.key? ≠ none

/-- The ids of the groups that objects stand for. -/
abbrev GroupIds (w : World) : List GroupObject → List GroupId → Prop :=
  Listing (fun g => w.HasGroup g.managedObjectId) fun _ => True

/-- The group of an object is there, and all that the object lists is in it but the group itself. -/
structure Joined (w : World) (o : GroupObject) (id : GroupId) (g : Group) : Prop where
  group : w.ledger.group? id = some g
  object : g.managedObjectId = some o.managedObjectId
  sensors : ∀ s ∈ o.sensors, s.key? ≠ none → ∃ a ∈ g.sensors, w.HasSensor s a
  groups : ∀ o' ∈ o.groups, ∃ a, w.HasGroup o'.managedObjectId a ∧ (a ≠ id → a ∈ g.subGroups)

/-- The groups of all objects are there with what they list. -/
def AllJoined (w : World) (os : List GroupObject) : Prop := ∀ o ∈ os, ∃ id g, w.Joined o id g

/-- All that was reported is there. -/
structure Complete (w : World) (objects : List ManagedObject) : Prop where
  sensors : ∀ s ∈ objects.flatMap (·.sensors), s.key? ≠ none → ∃ id, w.HasSensor s id
  groups : w.AllJoined (objects.flatMap (·.groups))

variable {w v : World} {o : GroupObject} {id : GroupId} {g : Group}

theorem Grows.sensorIds (h : Grows w v) {ss : List SensorObject} {ids : List SensorId}
    (hs : w.SensorIds ss ids) : v.SensorIds ss ids :=
  hs.imp fun _ _ => h.hasSensor

theorem Grows.groupIds (h : Grows w v) {gs : List GroupObject} {ids : List GroupId}
    (hg : w.GroupIds gs ids) : v.GroupIds gs ids :=
  hg.imp fun _ _ => h.hasGroup

theorem Grows.joined (h : Grows w v) (hj : w.Joined o id g) : ∃ g', v.Joined o id g' := by
  obtain ⟨g', hg', hgrown⟩ := h.group hj.group
  refine ⟨g', hg', hgrown.managedObjectId.trans hj.object, fun s hs hkey => ?_, fun o' ho' => ?_⟩
  · obtain ⟨a, ha, hhas⟩ := hj.sensors s hs hkey
    exact ⟨a, hgrown.sensors.mem ha, h.hasSensor hhas⟩
  · obtain ⟨a, hhas, hmem⟩ := hj.groups o' ho'
    exact ⟨a, h.hasGroup hhas, fun hne => hgrown.subGroups.mem (hmem hne)⟩

theorem Grows.allJoined (h : Grows w v) {os : List GroupObject} (hw : w.AllJoined os) :
    v.AllJoined os := by
  intro o ho
  obtain ⟨id, g, hj⟩ := hw o ho
  exact ⟨id, h.joined hj⟩

theorem AllJoined.nil : w.AllJoined [] := fun _ ho => absurd ho List.not_mem_nil

theorem AllJoined.append {os os' : List GroupObject} (h : w.AllJoined os) (h' : w.AllJoined os') :
    w.AllJoined (os ++ os') := by
  intro o ho
  rcases List.mem_append.1 ho with ho | ho
  · exact h o ho
  · exact h' o ho

theorem AllJoined.cons {os : List GroupObject} (h : w.Joined o id g) (h' : w.AllJoined os) :
    w.AllJoined (o :: os) := by
  intro a ha
  rcases List.mem_cons.1 ha with rfl | ha
  · exact ⟨id, g, h⟩
  · exact h' a ha

theorem Joined.hasGroup (h : w.Joined o id g) : w.HasGroup o.managedObjectId id :=
  ⟨g, h.group, h.object⟩

theorem Complete.nil : w.Complete [] := ⟨by simp, .nil⟩

theorem Complete.cons {a : ManagedObject} {objects : List ManagedObject} (h : w.Complete [a])
    (h' : w.Complete objects) : w.Complete (a :: objects) where
  sensors s hs := by
    rw [List.flatMap_cons, List.mem_append] at hs
    rcases hs with hs | hs
    · exact h.sensors s (by simpa using hs)
    · exact h'.sensors s hs
  groups o ho := by
    rw [List.flatMap_cons, List.mem_append] at ho
    rcases ho with ho | ho
    · exact h.groups o (by simpa using ho)
    · exact h'.groups o ho

theorem Complete.flatten {reports : List (List ManagedObject)}
    (h : ∀ objects ∈ reports, w.Complete objects) : w.Complete reports.flatten where
  sensors s hs hkey := by
    obtain ⟨a, ha, hs⟩ := List.mem_flatMap.1 hs
    obtain ⟨objects, hobjects, ha⟩ := List.mem_flatten.1 ha
    exact (h objects hobjects).sensors s (List.mem_flatMap.2 ⟨a, ha, hs⟩) hkey
  groups o ho := by
    obtain ⟨a, ha, ho⟩ := List.mem_flatMap.1 ho
    obtain ⟨objects, hobjects, ha⟩ := List.mem_flatten.1 ha
    exact (h objects hobjects).groups o (List.mem_flatMap.2 ⟨a, ha, ho⟩)

theorem Grows.complete {objects : List ManagedObject} (h : Grows w v) (hw : w.Complete objects) :
    v.Complete objects where
  sensors s hs hkey := (hw.sensors s hs hkey).imp fun _ => h.hasSensor
  groups := h.allJoined hw.groups

/-- A group that all members of an object have joined. -/
theorem joined_addMembers {sensors : List SensorId} {groups : List GroupId}
    (hg : w.ledger.group? g.id = some (g.addMembers sensors groups))
    (hobject : g.managedObjectId = some o.managedObjectId) (hs : w.SensorIds o.sensors sensors)
    (hgs : w.GroupIds o.groups groups) :
    w.Joined o g.id (g.addMembers sensors groups) := by
  refine ⟨hg, hobject, fun s hmem hkey => ?_, fun o' ho' => ?_⟩
  · obtain ⟨a, ha, hhas⟩ := hs.all s hmem hkey
    exact ⟨a, mem_addNew.2 (Or.inr ha), hhas⟩
  · obtain ⟨a, ha, hhas⟩ := hgs.all o' ho' trivial
    exact ⟨a, hhas, fun hne => mem_addNew.2 (Or.inr (List.mem_filter.2 ⟨ha, by simpa using hne⟩))⟩

end World

/-! ### What a run does -/

/-- What a run may count on. -/
def takingOver (objects : List ManagedObject) (w₀ : World) : Rely where
  holds := Bounded objects w₀
  later := World.Grows
  refl := .refl
  trans := .trans

/-- The rules of a run: it creates sensors and groups that were reported, with ids of its own, and
lets members join that were reported. -/
def mayTakeOver (objects : List ManagedObject) : Rules := fun past w c =>
  c.isLookup = true ∨
    (∃ s, c = .createSensor s ∧ OwnsNewId past c ∧
      ∃ o ∈ objects.flatMap (·.sensors), o.key? = some (Ledger.sensorKey s)) ∨
    (∃ g sensors groups, c = .createGroup (g.addMembers sensors groups) ∧ OwnsNewId past c ∧
      g.sensors = [] ∧ g.subGroups = [] ∧ Joins objects w g sensors groups) ∨
    ∃ g sensors groups, c = .addMembers g.id sensors groups ∧ w.ledger.group? g.id = some g ∧
      Joins objects w g sensors groups

section Runs

variable {ε α β : Type} {objects : List ManagedObject} {w₀ w : World} {past : List Event}

/-- The action keeps to the rules of a run, and what it comes to has a property. -/
def Comes (objects : List ManagedObject) (w₀ : World) (a : Action ε α) (post : World → α → Prop)
    (past : List Event) (w : World) : Prop :=
  a.Ensures (takingOver objects w₀) (mayTakeOver objects) (fun _ => post) past w

namespace Comes

variable {a : Action ε α} {post : World → α → Prop}

theorem bind {f : α → Action ε β} {post' : World → β → Prop}
    (h : Comes objects w₀ a post past w)
    (hf : ∀ x past v, Bounded objects w₀ v → w.Grows v → post v x →
      Comes objects w₀ (f x) post' past v) :
    Comes objects w₀ (a >>= f) post' past w :=
  Action.Ensures.bind h hf

theorem pure {x : α} (h : ∀ v, w.Grows v → post v x) :
    Comes objects w₀ (Pure.pure x : Action ε α) post past w :=
  fun v _ hwv => h v hwv

theorem perform {c : Command} {f : c.Answer → Action ε α}
    (h : ∀ v, Bounded objects w₀ v → w.Grows v → mayTakeOver objects past v c ∧
      (Bounded objects w₀ (c.run v).2 → v.Grows (c.run v).2 →
        Comes objects w₀ (f (c.run v).1) post (past ++ [⟨c, (c.run v).1⟩]) (c.run v).2)) :
    Comes objects w₀ (Action.perform c >>= f) post past w :=
  h

theorem imp {post' : World → α → Prop} (h : Comes objects w₀ a post past w)
    (himp : ∀ v x, w.Grows v → post v x → post' v x) : Comes objects w₀ a post' past w :=
  Action.Ensures.imp h fun _ => himp

/-- A new id, whose number is owned from then on. -/
theorem freshId {f : String → Action ε α}
    (h : ∀ n past v, w.Grows v → Owns past n →
      Comes objects w₀ (f (FreshId.text n)) post past v) :
    Comes objects w₀ (Action.freshId >>= f) post past w := by
  intro v _ hwv
  refine ⟨Or.inl rfl, fun _ hv => ?_⟩
  exact h v.nextNumber _ _ (World.Grows.trans hwv hv) (owns_reserved past v.nextNumber)

end Comes

/-- What a run may do keeps the ledger bounded, and nothing is taken away. -/
theorem kept_of_mayTakeOver {c : Command} (h : Bounded objects w₀ w)
    (ha : mayTakeOver objects past w c) (hfree : Thread.NewIdFree w c) :
    Bounded objects w₀ (c.run w).2 ∧ w.Grows (c.run w).2 := by
  rcases ha with ha | ⟨s, rfl, -, hs⟩ | ⟨g, sensors, groups, rfl, -, hg, hg', hjoin⟩ |
    ⟨g, sensors, groups, rfl, hg, hjoin⟩
  · have hv := h.consistent.run (Command.fresh_of_isLookup ha w)
    have hl := Command.ledger_of_isLookup ha w
    have hn := c.le_nextNumber w
    exact ⟨h.of_ledger hv hl hn, .of_ledger hl hn⟩
  · obtain ⟨hunused, hold⟩ := hfree s.id rfl
    have hv := h.consistent.run (c := .createSensor s) ⟨hunused.sensor, hold⟩
    rcases World.createSensor_run h.consistent s with ⟨v, hrun, hn, hgroups, hsensors⟩ |
      ⟨_, _, hrun, -⟩
    · rw [hrun] at hv ⊢
      exact h.createSensor hv hunused.sensor hs hn hgroups hsensors
    · rw [hrun]
      exact ⟨h, .refl w⟩
  · obtain ⟨hunused, hold⟩ := hfree g.id rfl
    have hv := h.consistent.run (c := .createGroup (g.addMembers sensors groups))
      ⟨hunused.group, hold⟩
    obtain ⟨o, -, hobject, -⟩ := hjoin.reported
    rcases World.createGroup_run h.consistent (g := g.addMembers sensors groups) hobject with
      ⟨v, hrun, hn, hsensors, hgroups⟩ | ⟨_, _, hrun, -⟩
    · rw [hrun] at hv ⊢
      exact h.putGroup hv hjoin (Or.inr ⟨hunused.group, hg, hg'⟩) hn hsensors hgroups
    · rw [hrun]
      exact ⟨h, .refl w⟩
  · have hv := h.consistent.run (c := .addMembers g.id sensors groups) trivial
    obtain ⟨v, hrun, hn, hsensors, hgroups⟩ := World.addMembers_run hg sensors groups
    rw [hrun] at hv ⊢
    exact h.putGroup hv hjoin (Or.inl hg) hn hsensors hgroups

theorem owns_of_mayTakeOver {c : Command} (ha : mayTakeOver objects past w c) :
    OwnsNewId past c := by
  rcases ha with ha | ⟨s, -, ha, -⟩ | ⟨g, sensors, groups, -, ha, -⟩ |
    ⟨g, sensors, groups, rfl, -⟩
  · exact ownsNewId_of_none (Command.newId?_of_isLookup ha)
  · exact ha
  · exact ha
  · exact ownsNewId_of_none rfl

end Runs

end SensorTasks

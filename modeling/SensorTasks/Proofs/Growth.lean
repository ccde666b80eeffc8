import SensorTasks.Inbox.Synchronization
import SensorTasks.Proofs.Ownership

/-!
How sensors and groups grow. Taking over objects never takes anything away: a sensor that is known
stays as it is, and a group only gains members, which stand after those that it had. What an object
stands for is therefore found again in every later world.
-/

namespace SensorTasks

open Message

/-! ### Lists that grow -/

/-- The list has new elements at its end, each of them once. -/
def Extends (old new : List String) : Prop :=
  ∃ added, new = old ++ added ∧ added.Nodup ∧ ∀ a ∈ added, a ∉ old

namespace Extends

variable {a : String} {l l' l'' : List String}

theorem refl (l : List String) : Extends l l := ⟨[], by simp, List.nodup_nil, by simp⟩

theorem trans (h : Extends l l') (h' : Extends l' l'') : Extends l l'' := by
  obtain ⟨added, rfl, hnodup, hnew⟩ := h
  obtain ⟨more, rfl, hnodup', hnew'⟩ := h'
  refine ⟨added ++ more, List.append_assoc l added more, ?_, fun a ha => ?_⟩
  · refine List.nodup_append.2 ⟨hnodup, hnodup', fun a ha b hb hab => ?_⟩
    exact hnew' b hb (hab ▸ List.mem_append_right l ha)
  · rcases List.mem_append.1 ha with ha | ha
    · exact hnew a ha
    · exact fun hl => hnew' a ha (List.mem_append_left added hl)

theorem mem (h : Extends l l') (ha : a ∈ l) : a ∈ l' := by
  obtain ⟨added, rfl, -⟩ := h
  exact List.mem_append_left added ha

theorem concat (ha : a ∉ l) : Extends l (l ++ [a]) :=
  ⟨[a], rfl, by simp, fun _ hb => List.mem_singleton.1 hb ▸ ha⟩

theorem addNew (old new : List String) : Extends old (addNew old new) := by
  induction new generalizing old with
  | nil => exact refl old
  | cons a new ih =>
    simp only [SensorTasks.addNew]
    split
    · exact ih old
    · rename_i h
      simp only [List.contains_eq_mem, decide_eq_true_eq] at h
      exact (concat h).trans (ih (old ++ [a]))

end Extends

/-- The group has only gained members. -/
structure Group.Grown (g g' : Group) : Prop where
  same : g' = { g with sensors := g'.sensors, subGroups := g'.subGroups }
  sensors : Extends g.sensors g'.sensors
  subGroups : Extends g.subGroups g'.subGroups

namespace Group.Grown

variable {g g' g'' : Group}

theorem refl (g : Group) : g.Grown g := ⟨rfl, .refl _, .refl _⟩

theorem trans (h : g.Grown g') (h' : g'.Grown g'') : g.Grown g'' := by
  refine ⟨h'.same.trans ?_, h.sensors.trans h'.sensors, h.subGroups.trans h'.subGroups⟩
  rw [h.same]

theorem managedObjectId (h : g.Grown g') : g'.managedObjectId = g.managedObjectId := by
  rw [h.same]

theorem addMembers (g : Group) (sensors : List SensorId) (groups : List GroupId) :
    g.Grown (g.addMembers sensors groups) :=
  ⟨rfl, .addNew _ _, .addNew _ _⟩

end Group.Grown

/-! ### Objects -/

namespace Message

/-- The key under which the sensor of an object is found; there is none for an object that does not
say what it measures. -/
def SensorObject.key? (s : SensorObject) : Option String :=
  s.valueFragmentType.map (Ledger.Key.sensorOf s.managedObjectId s.managedObjectName)

namespace GroupObject

def managedObjectId : GroupObject → String
  | mk object _ _ _ => object

def managedObjectName : GroupObject → String
  | mk _ name _ _ => name

def sensors : GroupObject → List SensorObject
  | mk _ _ sensors _ => sensors

def groups : GroupObject → List GroupObject
  | mk _ _ _ groups => groups

mutual

/-- A group with all groups inside it. -/
def all : GroupObject → List GroupObject
  | mk object name sensors groups => mk object name sensors groups :: allOf groups

def allOf : List GroupObject → List GroupObject
  | [] => []
  | g :: rest => g.all ++ allOf rest

end

end GroupObject

namespace ManagedObject

/-- The groups anywhere in an object. -/
def groups : ManagedObject → List GroupObject
  | sensor _ => []
  | group g => g.all

/-- The sensors anywhere in an object. -/
def sensors : ManagedObject → List SensorObject
  | sensor s => [s]
  | group g => g.all.flatMap (·.sensors)

end ManagedObject

end Message

/-! ### What objects stand for -/

namespace World

/-- The sensor that an object stands for. -/
def HasSensor (w : World) (s : SensorObject) (id : SensorId) : Prop :=
  ∃ sensor, w.ledger.sensor? id = some sensor ∧ s.key? = some (Ledger.sensorKey sensor)

/-- The group that a managed object stands for. -/
def HasGroup (w : World) (object : String) (id : GroupId) : Prop :=
  ∃ g, w.ledger.group? id = some g ∧ g.managedObjectId = some object

/-- The sensor is one that the object of a group lists. -/
def ListsSensor (w : World) (o : GroupObject) (id : SensorId) : Prop :=
  ∃ s ∈ o.sensors, w.HasSensor s id

/-- The group is one that the object of a group lists. -/
def ListsGroup (w : World) (o : GroupObject) (id : GroupId) : Prop :=
  ∃ g ∈ o.groups, w.HasGroup g.managedObjectId id

/-- The sensors in a group; there are none if there is no such group. -/
def sensorsIn (w : World) (id : GroupId) : List SensorId :=
  match w.ledger.group? id with
  | some g => g.sensors
  | none => []

/-- The groups in a group; there are none if there is no such group. -/
def groupsIn (w : World) (id : GroupId) : List GroupId :=
  match w.ledger.group? id with
  | some g => g.subGroups
  | none => []

/-- A later world: sensors stay as they are, and groups only gain members. -/
structure Grows (w v : World) : Prop where
  number : w.nextNumber ≤ v.nextNumber
  sensor : ∀ {id s}, w.ledger.sensor? id = some s → v.ledger.sensor? id = some s
  group : ∀ {id g}, w.ledger.group? id = some g →
    ∃ g', v.ledger.group? id = some g' ∧ g.Grown g'

variable {u v w : World} {s : SensorObject} {o : GroupObject} {object : String} {id id' : String}

namespace Grows

theorem refl (w : World) : Grows w w := ⟨Nat.le_refl _, id, fun h => ⟨_, h, .refl _⟩⟩

theorem trans (h : Grows u v) (h' : Grows v w) : Grows u w where
  number := Nat.le_trans h.number h'.number
  sensor hs := h'.sensor (h.sensor hs)
  group hg := by
    obtain ⟨g', hg', hgrown⟩ := h.group hg
    obtain ⟨g'', hg'', hgrown'⟩ := h'.group hg'
    exact ⟨g'', hg'', hgrown.trans hgrown'⟩

theorem hasSensor (h : Grows w v) (hs : w.HasSensor s id) : v.HasSensor s id := by
  obtain ⟨sensor, hsensor, hkey⟩ := hs
  exact ⟨sensor, h.sensor hsensor, hkey⟩

theorem hasGroup (h : Grows w v) (hg : w.HasGroup object id) : v.HasGroup object id := by
  obtain ⟨g, hg, hobject⟩ := hg
  obtain ⟨g', hg', hgrown⟩ := h.group hg
  exact ⟨g', hg', hgrown.managedObjectId.trans hobject⟩

theorem listsSensor (h : Grows w v) (hs : w.ListsSensor o id) : v.ListsSensor o id := by
  obtain ⟨s, hmem, hs⟩ := hs
  exact ⟨s, hmem, h.hasSensor hs⟩

theorem listsGroup (h : Grows w v) (hg : w.ListsGroup o id) : v.ListsGroup o id := by
  obtain ⟨g, hmem, hg⟩ := hg
  exact ⟨g, hmem, h.hasGroup hg⟩

end Grows

/-- An object stands for one sensor only. -/
theorem HasSensor.unique (h : w.HasSensor s id) (h' : w.HasSensor s id') (hw : w.Consistent) :
    id = id' := by
  obtain ⟨a, ha, hkey⟩ := h
  obtain ⟨b, hb, hkey'⟩ := h'
  have hab := hw.indexed.sensors.unique ha hb rfl (hkey'.symm.trans hkey)
  rw [← hw.indexed.sensor_id ha, ← hw.indexed.sensor_id hb, hab]

/-- A managed object stands for one group only. -/
theorem HasGroup.unique (h : w.HasGroup object id) (h' : w.HasGroup object id')
    (hw : w.Consistent) : id = id' := by
  obtain ⟨a, ha, hobject⟩ := h
  obtain ⟨b, hb, hobject'⟩ := h'
  have hab := hw.indexed.groups.unique (n := Ledger.Key.groupOf object) ha hb
    (by rw [hobject]; rfl) (by rw [hobject']; rfl)
  rw [← hw.indexed.group_id ha, ← hw.indexed.group_id hb, hab]

/-- What is found for a managed object is its group. -/
theorem hasGroup_of_find (hw : w.Consistent) {g : Group} (hg : w.ledger.groupOf? object = some g) :
    w.ledger.group? g.id = some g ∧ g.managedObjectId = some object := by
  obtain ⟨hg, hname⟩ := hw.indexed.groups.lookup hg
  obtain ⟨object', hobject, hkey⟩ := Option.map_eq_some_iff.1 hname
  exact ⟨hg, hobject.trans (congrArg some (Ledger.key_groupOf_injective hkey))⟩

/-- The group of a managed object is found. -/
theorem HasGroup.find (h : w.HasGroup object id) (hw : w.Consistent) :
    ∃ g, w.ledger.groupOf? object = some g := by
  obtain ⟨g, hg, hobject⟩ := h
  exact ⟨g, hw.indexed.groups.lookup_of_name hg (by rw [hobject]; rfl)⟩

/-- What is found for an object is its sensor. -/
theorem hasSensor_of_find (hw : w.Consistent) {fragmentType : String}
    (hs : s.valueFragmentType = some fragmentType) {sensor : Sensor}
    (h : w.ledger.sensorOf? s.managedObjectId s.managedObjectName fragmentType = some sensor) :
    w.HasSensor s sensor.id := by
  obtain ⟨hsensor, hkey⟩ := hw.indexed.sensors.lookup h
  refine ⟨sensor, hsensor, ?_⟩
  rw [hkey, SensorObject.key?, hs]
  rfl

/-- The sensor of an object is found. -/
theorem HasSensor.find (h : w.HasSensor s id) (hw : w.Consistent) {fragmentType : String}
    (hs : s.valueFragmentType = some fragmentType) :
    ∃ sensor,
      w.ledger.sensorOf? s.managedObjectId s.managedObjectName fragmentType = some sensor := by
  obtain ⟨sensor, hsensor, hkey⟩ := h
  rw [SensorObject.key?, hs] at hkey
  exact ⟨sensor, hw.indexed.sensors.lookup_of_name hsensor hkey.symm⟩

end World

/-! ### Commands that add something -/

namespace World

variable {w : World}

theorem Grows.of_ledger {v : World} (hl : v.ledger = w.ledger) (hn : w.nextNumber ≤ v.nextNumber) :
    w.Grows v where
  number := hn
  sensor hs := by rw [hl, hs]
  group hg := ⟨_, by rw [hl, hg], .refl _⟩

/-- A sensor is stored, or there is one of its key already. -/
theorem createSensor_run (hw : w.Consistent) (s : Sensor) :
    (∃ v, (Command.createSensor s).run w = (.ok (), v) ∧ v.nextNumber = w.nextNumber ∧
      v.ledger.groups = w.ledger.groups ∧
      ∀ id, v.ledger.sensor? id = if id = s.id then some s else w.ledger.sensor? id) ∨
    ∃ collection key, (Command.createSensor s).run w = (.error (.duplicateKey collection key), w) ∧
      ∃ id other, w.ledger.sensor? id = some other ∧
        Ledger.sensorKey other = Ledger.sensorKey s := by
  simp only [Command.run, Ledger.createSensor]
  split
  · rename_i hkey
    obtain ⟨other, hother⟩ := hw.indexed.sensors.exists_of_contains hkey
    obtain ⟨hother, hsame⟩ := hw.indexed.sensors.lookup hother
    exact Or.inr ⟨_, _, rfl, other.id, other, hother, Option.some.inj hsame⟩
  · rename_i hnew
    exact Or.inl ⟨_, rfl, rfl, rfl, Ledger.sensor?_createSensor (if_neg hnew)⟩

/-- A group is stored, or there is one of its managed object already. -/
theorem createGroup_run (hw : w.Consistent) {g : Group} {object : String}
    (hobject : g.managedObjectId = some object) :
    (∃ v, (Command.createGroup g).run w = (.ok (), v) ∧ v.nextNumber = w.nextNumber ∧
      v.ledger.sensors = w.ledger.sensors ∧
      ∀ id, v.ledger.group? id = if id = g.id then some g else w.ledger.group? id) ∨
    ∃ collection key, (Command.createGroup g).run w = (.error (.duplicateKey collection key), w) ∧
      ∃ id, w.HasGroup object id := by
  simp only [Command.run, Ledger.createGroup, hobject]
  split
  · rename_i hkey
    obtain ⟨other, hother⟩ := hw.indexed.groups.exists_of_contains hkey
    exact Or.inr ⟨_, _, rfl, other.id, other, hasGroup_of_find hw hother⟩
  · exact Or.inl ⟨_, rfl, rfl, rfl, fun id => Ledger.group?_putGroup w.ledger g id⟩

theorem addMembers_run {g : Group} (hg : w.ledger.group? g.id = some g)
    (sensors : List SensorId) (groups : List GroupId) :
    ∃ v, (Command.addMembers g.id sensors groups).run w = (.ok (g.addMembers sensors groups), v) ∧
      v.nextNumber = w.nextNumber ∧ v.ledger.sensors = w.ledger.sensors ∧
      ∀ id, v.ledger.group? id =
        if id = g.id then some (g.addMembers sensors groups) else w.ledger.group? id := by
  simp only [Command.run, Ledger.addMembers, hg, commit]
  exact ⟨_, rfl, rfl, rfl,
    fun id => Ledger.group?_putGroup w.ledger (g.addMembers sensors groups) id⟩

end World

end SensorTasks

import SensorTasks.Proofs.FileIndex

/-!
Finding sensors by what they measure. A series has three names, which are written into one key with
a separator between them. A key tells them apart as long as none of them holds a separator; if one
does, there is another series with the same key. So lookups are exact, and new sensors refused only
for those that measure the same, just as long as no sensor is stored whose names hold a separator.
-/

namespace SensorTasks

open Ledger Ledger.Key

/-! ### Series and their keys -/

/-- What a sensor measures: a fragment of a managed object, which has an id and a name. -/
structure Series where
  managedObjectId : String
  managedObjectName : String
  fragmentType : String
  deriving DecidableEq

def Sensor.series (s : Sensor) : Series :=
  ⟨s.managedObjectId, s.managedObjectName, s.valueFragmentType⟩

namespace Series

variable {t t' : Series}

def key (t : Series) : String :=
  Key.sensorOf t.managedObjectId t.managedObjectName t.fragmentType

/-- How an error names a series. -/
def path (t : Series) : String :=
  "/".intercalate [t.managedObjectId, t.managedObjectName, t.fragmentType]

/-- None of the names holds a separator. -/
structure Plain (t : Series) : Prop where
  managedObjectId : Key.Plain t.managedObjectId
  managedObjectName : Key.Plain t.managedObjectName
  fragmentType : Key.Plain t.fragmentType

theorem toList_key (t : Series) : t.key.toList = "sensor_mo:".toList ++
    (t.managedObjectId.toList ++ Char.ofNat 0x1F ::
      (t.managedObjectName.toList ++ Char.ofNat 0x1F :: t.fragmentType.toList)) := by
  have h : t.key = "sensor_mo:" ++ (t.managedObjectId ++ separator ++ t.managedObjectName ++
    separator ++ t.fragmentType) := rfl
  simp [h, separator, String.toList_append]

/-- How many separators there are in the names. -/
def separators (t : Series) : Nat :=
  t.managedObjectId.toList.count (Char.ofNat 0x1F) +
    t.managedObjectName.toList.count (Char.ofNat 0x1F) +
    t.fragmentType.toList.count (Char.ofNat 0x1F)

theorem plain_iff : t.Plain ↔ t.separators = 0 := by
  have hcount : ∀ s : String, Key.Plain s ↔ s.toList.count (Char.ofNat 0x1F) = 0 := fun s =>
    List.count_eq_zero.symm
  constructor
  · rintro ⟨ha, hb, hc⟩
    rw [hcount] at ha hb hc
    rw [separators, ha, hb, hc]
  · intro h
    rw [separators] at h
    exact ⟨(hcount _).2 (by omega), (hcount _).2 (by omega), (hcount _).2 (by omega)⟩

/-- Series with the same key have the same number of separators in their names. -/
theorem separators_eq (h : t.key = t'.key) : t.separators = t'.separators := by
  have hcount := congrArg (fun s : String => s.toList.count (Char.ofNat 0x1F)) h
  simp only [toList_key, List.count_append, List.count_cons_self] at hcount
  unfold separators
  omega

/-- Names without separators are told by their key. -/
theorem eq_of_key_eq (ht : t.Plain) (h : t.key = t'.key) : t = t' := by
  have ht' : t'.Plain := plain_iff.2 (separators_eq h ▸ plain_iff.1 ht)
  have hlist := congrArg String.toList h
  rw [toList_key, toList_key] at hlist
  obtain ⟨hid, hrest⟩ := cut_unique ht.managedObjectId ht'.managedObjectId
    (List.append_cancel_left hlist)
  obtain ⟨hname, htype⟩ := cut_unique ht.managedObjectName ht'.managedObjectName hrest
  cases t
  cases t'
  simp_all [String.toList_inj]

end Series

/-- A text with a separator is two shorter ones with the separator between them. -/
theorem Ledger.Key.exists_split {s : String} (h : ¬Plain s) :
    ∃ a b, s.toList = a ++ Char.ofNat 0x1F :: b ∧ String.ofList a ≠ s ∧ String.ofList b ≠ s := by
  obtain ⟨a, b, hab⟩ := List.append_of_mem (not_not.1 h)
  refine ⟨a, b, hab, ?_, ?_⟩ <;>
  · rintro rfl
    have hlength := congrArg List.length hab
    simp only [String.toList_ofList, List.length_append, List.length_cons] at hlength
    omega

/-- Wherever a separator is taken for the end of a name, the key is that of another series. -/
theorem Series.exists_other {t : Series} (h : ¬t.Plain) : ∃ t', t' ≠ t ∧ t'.key = t.key := by
  obtain ⟨object, name, type⟩ := t
  have hkey : ∀ {t t' : Series}, t.key.toList = t'.key.toList → t.key = t'.key :=
    fun h => String.toList_inj.1 h
  by_cases hobject : Key.Plain object
  · by_cases hname : Key.Plain name
    · have htype : ¬Key.Plain type := fun htype => h ⟨hobject, hname, htype⟩
      obtain ⟨a, b, hab, -, hne⟩ := exists_split htype
      refine ⟨⟨object, name ++ separator ++ String.ofList a, String.ofList b⟩,
        fun he => hne (Series.mk.inj he).2.2, hkey ?_⟩
      simp [toList_key, hab, separator]
    · obtain ⟨a, b, hab, -, hne⟩ := exists_split hname
      refine ⟨⟨object ++ separator ++ String.ofList a, String.ofList b, type⟩,
        fun he => hne (Series.mk.inj he).2.1, hkey ?_⟩
      simp [toList_key, hab, separator]
  · obtain ⟨a, b, hab, hne, -⟩ := exists_split hobject
    refine ⟨⟨String.ofList a, String.ofList b ++ separator ++ name, type⟩,
      fun he => hne (Series.mk.inj he).1, hkey ?_⟩
    simp [toList_key, hab, separator]

/-- A key is one of a single series exactly if no name in it holds a separator. -/
theorem Series.key_shared_iff (t : Series) : (∃ t', t' ≠ t ∧ t'.key = t.key) ↔ ¬t.Plain :=
  ⟨fun ⟨_, hne, hkey⟩ ht => hne (eq_of_key_eq ht hkey.symm).symm, exists_other⟩

/-! ### The sensors of a ledger -/

namespace Ledger.Indexed

variable {l : Ledger}

/-- A lookup finds what has the key, of this series or of another one. -/
theorem sensorOf?_eq_some (h : l.Indexed) {t : Series} {s : Sensor} :
    l.sensorOf? t.managedObjectId t.managedObjectName t.fragmentType = some s ↔
      s ∈ l.sensors.values ∧ s.series.key = t.key := by
  refine h.sensors.lookup_eq_some.trans (and_congr_right fun _ => ?_)
  exact Option.some_inj

theorem contains_sensorKey (h : l.Indexed) (s : Sensor) :
    l.sensorIndex.contains (sensorKey s) = true ↔
      ∃ a ∈ l.sensors.values, a.series.key = s.series.key :=
  h.sensors.contains_eq_true.trans
    (exists_congr fun _ => and_congr_right fun _ => Option.some_inj)

end Ledger.Indexed

namespace World

/-- The worlds that creating sensors leads to from an empty ledger. A sensor is created with an id
that no sensor has. -/
inductive SensorCalls : World → Prop where
  | new (capacity : Nat) (clock : Instant) : SensorCalls (.new capacity clock)
  | create {w : World} (h : SensorCalls w) {s : Sensor} (hnew : w.ledger.sensor? s.id = none) :
    SensorCalls ((Command.createSensor s).run w).2

variable {w : World}

theorem SensorCalls.indexed (h : w.SensorCalls) : w.ledger.Indexed := by
  induction h with
  | new capacity clock => exact .empty
  | @create w _ s hnew ih =>
    exact commitUnit_induction (motive := (·.ledger.Indexed)) ih fun l hl => ih.createSensor hnew hl

/-- Creating a sensor fails if there is one with its key, and then changes nothing. -/
theorem run_createSensor_cases (h : w.ledger.Indexed) (s : Sensor) :
    (∃ a ∈ w.ledger.sensors.values, a.series.key = s.series.key) ∧
        (Command.createSensor s).run w =
          (.error (.duplicateKey .sensor s.series.path), w) ∨
      (¬∃ a ∈ w.ledger.sensors.values, a.series.key = s.series.key) ∧
        ((Command.createSensor s).run w).1 = .ok () := by
  rw [← h.contains_sensorKey]
  simp only [Command.run, Ledger.createSensor]
  split
  · exact Or.inl ⟨‹_›, rfl⟩
  · exact Or.inr ⟨‹_›, rfl⟩

/-- A series is told from all others: looking it up finds the sensor that measures it, and another
sensor for it is refused if there is one already. -/
structure ExactFor (w : World) (t : Series) : Prop where
  found : ∀ s, w.ledger.sensorOf? t.managedObjectId t.managedObjectName t.fragmentType = some s ↔
    s ∈ w.ledger.sensors.values ∧ s.series = t
  refused : ∀ new : Sensor, new.series = t →
    (((Command.createSensor new).run w).1 = .error (.duplicateKey .sensor t.path) ↔
      ∃ s ∈ w.ledger.sensors.values, s.series = t)

/-- Only a sensor of another series with the same key gets in the way of a series. -/
theorem exactFor_iff (h : w.ledger.Indexed) (t : Series) :
    w.ExactFor t ↔ ¬∃ s ∈ w.ledger.sensors.values, s.series ≠ t ∧ s.series.key = t.key := by
  constructor
  · rintro hexact ⟨s, hs, hne, hkey⟩
    exact hne ((hexact.found s).1 (h.sensorOf?_eq_some.2 ⟨hs, hkey⟩)).2
  · intro hnone
    have hseries : ∀ s ∈ w.ledger.sensors.values, s.series.key = t.key ↔ s.series = t :=
      fun s hs => ⟨fun hkey => not_not.1 fun hne => hnone ⟨s, hs, hne, hkey⟩, congrArg _⟩
    refine ⟨fun s => h.sensorOf?_eq_some.trans (and_congr_right fun hs => hseries s hs), ?_⟩
    rintro new rfl
    rw [← exists_congr fun s => and_congr_right (hseries s)]
    rcases run_createSensor_cases h new with ⟨hthere, hrun⟩ | ⟨hthere, hrun⟩ <;> simp [hrun, hthere]

/-- However sensors are created: all series are told apart exactly as long as no sensor is stored
that has a separator in one of its names; a single one is, as long as no sensor of another series
with the same key is stored; and there is such a series exactly if one of its own names holds a
separator. -/
theorem series_exact_iff (h : w.SensorCalls) :
    ((∀ t, w.ExactFor t) ↔ ∀ s ∈ w.ledger.sensors.values, s.series.Plain) ∧
      (∀ t, w.ExactFor t ↔
        ¬∃ s ∈ w.ledger.sensors.values, s.series ≠ t ∧ s.series.key = t.key) ∧
      ∀ t : Series, (∃ t', t' ≠ t ∧ t'.key = t.key) ↔ ¬t.Plain := by
  have hl := h.indexed
  refine ⟨⟨fun hexact s hs => ?_, fun hplain t => ?_⟩, exactFor_iff hl, Series.key_shared_iff⟩
  · refine not_not.1 fun hnot => ?_
    obtain ⟨t, hne, hkey⟩ := Series.exists_other hnot
    exact (exactFor_iff hl t).1 (hexact t) ⟨s, hs, hne.symm, hkey.symm⟩
  · refine (exactFor_iff hl t).2 ?_
    rintro ⟨s, hs, hne, hkey⟩
    exact hne (Series.eq_of_key_eq (hplain s hs) hkey)

namespace Sample

/-- A sensor of a series that is told by its three names. -/
def sensorOf (id : SensorId) (t : Series) : Sensor :=
  ⟨id, id, none, t.managedObjectId, t.managedObjectName, t.fragmentType, none, .empty⟩

def created (ts : List (SensorId × Series)) : World :=
  ts.foldl (fun w t => ((Command.createSensor (sensorOf t.1 t.2)).run w).2)
    (.new 8 .epoch)

/-- Two series with the same key. -/
def cutLate : Series := ⟨"a\x1fb", "c", "T"⟩

def cutEarly : Series := ⟨"a", "b\x1fc", "T"⟩

end Sample

/-- A sensor with a separator in a name is found for another series too, for which no sensor can be
created any more. -/
theorem separator_confuses_series :
    (Sample.created [("s1", Sample.cutLate)]).SensorCalls ∧
      Sample.cutEarly ≠ Sample.cutLate ∧ Sample.cutEarly.key = Sample.cutLate.key ∧
      (Sample.created [("s1", Sample.cutLate)]).ledger.sensorOf? "a" "b\x1fc" "T" =
        some (Sample.sensorOf "s1" Sample.cutLate) ∧
      (∀ s ∈ (Sample.created [("s1", Sample.cutLate)]).ledger.sensors.values,
        s.series ≠ Sample.cutEarly) ∧
      ((Command.createSensor (Sample.sensorOf "s2" Sample.cutEarly)).run
        (Sample.created [("s1", Sample.cutLate)])).1 =
          .error (.duplicateKey .sensor "a/b\x1fc/T") :=
  ⟨.create (.new _ _) (s := Sample.sensorOf "s1" Sample.cutLate) rfl, by decide, by decide, rfl,
    by decide, rfl⟩

/-- Names that would run into each other without a separator are told apart. -/
theorem series_exact_of_adjacent :
    let w := Sample.created [("s1", ⟨"1", "a", "bc"⟩), ("s2", ⟨"1", "ab", "c"⟩)]
    w.SensorCalls ∧ (∀ t, w.ExactFor t) ∧
      w.ledger.sensorOf? "1" "a" "bc" = some (Sample.sensorOf "s1" ⟨"1", "a", "bc"⟩) := by
  intro w
  have hcalls : w.SensorCalls :=
    .create (.create (.new _ _) (s := Sample.sensorOf "s1" ⟨"1", "a", "bc"⟩) rfl)
      (s := Sample.sensorOf "s2" ⟨"1", "ab", "c"⟩) rfl
  have hvalues : w.ledger.sensors.values =
      [Sample.sensorOf "s1" ⟨"1", "a", "bc"⟩, Sample.sensorOf "s2" ⟨"1", "ab", "c"⟩] := rfl
  refine ⟨hcalls, (series_exact_iff hcalls).1.2 fun s hs => ?_, rfl⟩
  rw [hvalues, List.mem_cons, List.mem_singleton] at hs
  rcases hs with rfl | rfl <;> exact ⟨by decide, by decide, by decide⟩

end World

end SensorTasks

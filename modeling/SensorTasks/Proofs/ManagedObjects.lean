import SensorTasks.Message.Status
import SensorTasks.Proofs.Encoding

/-!
Managed objects as a sync reports them. A sensor or a group is told apart by its type, which stands
among its other members; a group holds further groups, and its decoder goes as deep as the document
does.
-/

namespace SensorTasks

namespace Json

/-! ### Depth -/

theorem depth_le_of_lookup {ms : List (String × Json)} {key : String} {j : Json}
    (h : ms.lookup key = some j) : j.tree.depth ≤ Tree.membersDepth (treeMembers ms) := by
  induction ms with
  | nil => cases h
  | cons m ms ih =>
    obtain ⟨k, value⟩ := m
    rw [lookup_member] at h
    rw [treeMembers, Tree.membersDepth]
    split at h
    · obtain rfl := Option.some.inj h
      exact Nat.le_max_left _ _
    · exact Nat.le_trans (ih h) (Nat.le_max_right _ _)

theorem depth_le_of_mem {items : List Json} {j : Json} (h : j ∈ items) :
    j.tree.depth ≤ Tree.itemsDepth (treeItems items) := by
  induction items with
  | nil => cases h
  | cons a items ih =>
    rw [treeItems, Tree.itemsDepth]
    rcases List.mem_cons.1 h with rfl | h
    · exact Nat.le_max_left _ _
    · exact Nat.le_trans (ih h) (Nat.le_max_right _ _)

/-- A list is read if each of its items is. -/
theorem Decoder.list_eq_ok {α : Type} {d : Decoder α} {encode : α → Json} {origin : Origin}
    {as : List α} (h : ∀ a ∈ as, d origin (encode a).tree = .ok a) :
    list d origin (ofList encode as).tree = .ok as := by
  rw [ofList, tree, list]
  induction as with
  | nil => rfl
  | cons a as ih =>
    rw [List.forall_mem_cons] at h
    simp [treeItems, items, h.1, ih h.2, Except.map]

end Json

namespace Message

open Json

/-! ### Sensors -/

namespace SensorObject

/-- The members of a sensor have names of their own, none of which is that of a type. -/
theorem nodup_tagged (s : SensorObject) : ("type" :: s.members.map (·.1)).Nodup := by
  unfold members
  cases s.valueFragmentType <;> cases s.valueFragmentDisplayName <;> simp [Json.optional]

theorem decoder_eq_ok (origin : Origin) {s : SensorObject} {ms : List (String × Json)}
    (h : SameMembers ms s.members) : decoder origin (.object (treeMembers ms)) = .ok s := by
  have hfields : fields.Regular := .seq (.seq (.seq (.map .required) .required) .optional) .optional
  refine (h.decode_eq_ok hfields).2 ?_
  simp [fields, members, string_faithful.reads, string_faithful.member]

theorem toJson_eq_ok (origin : Origin) (s : SensorObject) : decoder origin s.toJson.tree = .ok s :=
  decoder_eq_ok origin (.sorted (List.nodup_cons.1 s.nodup_tagged).2)

end SensorObject

/-! ### Groups -/

namespace GroupObject

theorem array_listToJson (gs : List GroupObject) : .array (listToJson gs) = ofList toJson gs := by
  rw [ofList]
  congr 1
  induction gs with
  | nil => rfl
  | cons g gs ih => rw [listToJson, ih, List.map_cons, toJson]

theorem nodup_tagged (g : GroupObject) : ("type" :: g.members.map (·.1)).Nodup := by
  cases g
  simp [members]

/-- A decoder reads the groups that are no deeper than it goes. -/
theorem decoderTo_eq_ok (depth : Nat) (origin : Origin) {g : GroupObject}
    {ms : List (String × Json)} (h : SameMembers ms g.members)
    (hdepth : Tree.membersDepth (treeMembers ms) < depth) :
    decoderTo depth origin (.object (treeMembers ms)) = .ok g := by
  induction depth generalizing g ms with
  | zero => cases hdepth
  | succ depth ih =>
    obtain ⟨id, name, sensors, groups⟩ := g
    have hgroups : ms.lookup "groups" = some (ofList toJson groups) := by
      simp [h.lookup, members, array_listToJson]
    have hread : ∀ g ∈ groups, decoderTo depth origin g.toJson.tree = .ok g := by
      intro g hg
      have harray := depth_le_of_lookup hgroups
      have hitem := depth_le_of_mem (List.mem_map_of_mem (f := toJson) hg)
      rw [ofList, tree, Tree.depth] at harray
      rw [toJson, ofMembers, tree, Tree.depth] at hitem
      exact ih (.sorted (List.nodup_cons.1 g.nodup_tagged).2) (by omega)
    have hfields : Fields.Regular (GroupObject.mk <$> .required "managedObjectId" .string
        <*> .required "managedObjectName" .string
        <*> .withDefault "sensors" (.list SensorObject.decoder) []
        <*> .withDefault "groups" (.list (decoderTo depth)) []) :=
      .seq (.seq (.seq (.map .required) .required) .withDefault) .withDefault
    refine (h.decode_eq_ok hfields).2 ?_
    simp [members, array_listToJson, string_faithful.reads,
      Decoder.list_eq_ok fun s _ => SensorObject.toJson_eq_ok origin s,
      Decoder.list_eq_ok hread]

theorem decoder_eq_ok (origin : Origin) {g : GroupObject} {ms : List (String × Json)}
    (h : SameMembers ms g.members) : decoder origin (.object (treeMembers ms)) = .ok g :=
  decoderTo_eq_ok _ origin h (by rw [Tree.depth]; omega)

end GroupObject

/-! ### Objects -/

theorem ManagedObject.faithful : Faithful ManagedObject.decoder ManagedObject.toJson := by
  refine faithful_of_read (fun origin o => ?_) fun o => by
    cases o <;> simp [toJson, ofMembers, tree]
  cases o with
  | sensor s =>
    refine Decoder.tagged_eq_ok s.nodup_tagged rfl (fun ms h => ?_) origin
    rw [Decoder.map, SensorObject.decoder_eq_ok .buffered h]
    rfl
  | group g =>
    refine Decoder.tagged_eq_ok g.nodup_tagged rfl (fun ms h => ?_) origin
    rw [Decoder.map, GroupObject.decoder_eq_ok .buffered h]
    rfl

end Message

end SensorTasks

import SensorTasks.Proofs.Decoding
import SensorTasks.Task.Codec

/-!
Reading what was written. An encoding is read by a decoder if the value fits, and then as a value
that may have lost something on the way, such as the last digits of a date. For records this is
decided field by field: the members of an object are found under their names in whatever order they
were sorted, and one that was left out is read as nothing.
-/

namespace SensorTasks.Json

variable {α : Type}

/-- What is written of a value is read exactly if the value fits, and then as `sent` says; it is
never `null`, which would be read as nothing. -/
structure Carries (d : Decoder α) (encode : α → Json) (fits : α → Prop) (sent : α → α) : Prop where
  reads : ∀ (origin : Origin) (a b : α), d origin (encode a).tree = .ok b ↔ fits a ∧ sent a = b
  ne_null : ∀ a, (encode a).tree ≠ .null

/-- Every value is read again as it was written. -/
abbrev Faithful (d : Decoder α) (encode : α → Json) : Prop :=
  Carries d encode (fun _ => True) id

theorem faithful_of_read {d : Decoder α} {encode : α → Json}
    (h : ∀ origin a, d origin (encode a).tree = .ok a) (hnull : ∀ a, (encode a).tree ≠ .null) :
    Faithful d encode where
  reads origin a b := by simp [h]
  ne_null := hnull

/-! ### Simple types -/

theorem string_faithful : Faithful .string .string where
  reads origin a b := by simp [tree, Decoder.string]
  ne_null a := by simp [tree]

theorem boolean_faithful : Faithful .boolean .bool where
  reads origin a b := by simp [tree, Decoder.boolean]
  ne_null a := by simp [tree]

theorem natural_faithful : Faithful .natural .ofNat where
  reads origin a b := by
    have hnat : ¬((a : Int) < 0) := by omega
    simp [ofNat, tree, Decoder.natural, hnat]
  ne_null a := by simp [ofNat, tree]

theorem attributes_faithful : Faithful .attributes Attributes.toJson where
  reads origin a b := by
    -- attributes are canonical by their type, so sorting them changes nothing
    have hread : Attributes.ofMembers a.members = a := by
      refine Attributes.ext ?_
      have h := canonical_of_isCanonical _ a.canonical
      rw [canonical, ofMembers] at h
      exact Json.object.inj h
    simp [Attributes.toJson, tree, Decoder.attributes, hread]
  ne_null a := by simp [Attributes.toJson, tree]

/-- A name out of several ones. -/
theorem choice_faithful {variants : List (String × α)} {name : α → String}
    (h : ∀ a, variants.lookup (name a) = some a) :
    Faithful (.choice variants) fun a => .string (name a) where
  reads origin a b := by simp [tree, Decoder.choice, Decoder.named, h]
  ne_null a := by simp [tree]

namespace Carries

variable {d : Decoder α} {encode : α → Json} {fits : α → Prop} {sent : α → α}

theorem exists_error (h : Carries d encode fits sent) (origin : Origin) {a : α}
    (hfits : ¬fits a) : ∃ e, d origin (encode a).tree = .error e := by
  cases hd : d origin (encode a).tree with
  | error e => exact ⟨e, rfl⟩
  | ok b => exact absurd ((h.reads origin a b).1 hd).1 hfits

theorem items (h : Carries d encode fits sent) (origin : Origin) (as bs : List α) :
    Decoder.items d origin (treeItems (as.map encode)) = .ok bs ↔
      (∀ a ∈ as, fits a) ∧ as.map sent = bs := by
  induction as generalizing bs with
  | nil => simp [treeItems, Decoder.items]
  | cons a as ih =>
    simp only [List.map_cons, treeItems, Decoder.items, List.forall_mem_cons]
    cases ha : d origin (encode a).tree with
    | error e =>
      have hfits : ¬fits a := fun hfits => by
        rw [(h.reads origin a (sent a)).2 ⟨hfits, rfl⟩] at ha
        cases ha
      simp [hfits]
    | ok b =>
      obtain ⟨hfits, rfl⟩ := (h.reads origin a b).1 ha
      simp only [hfits, true_and]
      cases hrest : Decoder.items d origin (treeItems (as.map encode)) with
      | error e =>
        have hnone : ¬∀ a ∈ as, fits a := fun hall => by
          rw [(ih _).2 ⟨hall, rfl⟩] at hrest
          cases hrest
        simp [Except.map, hnone]
      | ok cs =>
        obtain ⟨hall, rfl⟩ := (ih cs).1 hrest
        simpa [Except.map] using fun _ => hall

protected theorem list (h : Carries d encode fits sent) :
    Carries (.list d) (ofList encode) (fun as => ∀ a ∈ as, fits a) (List.map sent) where
  reads origin as bs := h.items origin as bs
  ne_null as := by simp [ofList, tree]

end Carries

/-! ### Records -/

attribute [simp] lookup_member List.lookup_append Fields.value_map_eq_ok Fields.value_seq_eq_ok

@[simp] theorem lookup_optional (key k : String) (encode : α → Json) (o : Option α) :
    (optional key encode o).lookup k = if k = key then o.map encode else none := by
  cases o with
  | none => simp [optional]
  | some a => simp [optional]

theorem Decoder.option_of_ne_null {d : Decoder α} {t : Tree} (h : t ≠ .null) (origin : Origin) :
    d.option origin t = (d origin t).map some := by
  simp only [Decoder.option]

/-- What a member is read as that may be left out. -/
def Decoder.member (d : Decoder α) (origin : Origin) : Option Json → Except DecodeError (Option α)
  | some j => d.option origin j.tree
  | none => .ok none

/-- A member that was left out is read as nothing, and one that is there as itself. -/
theorem Carries.member {d : Decoder α} {encode : α → Json} {fits : α → Prop} {sent : α → α}
    (h : Carries d encode fits sent) (origin : Origin) (o p : Option α) :
    d.member origin (o.map encode) = .ok p ↔ (∀ a ∈ o, fits a) ∧ o.map sent = p := by
  cases o with
  | none => simp [Decoder.member]
  | some a =>
    have hsome : d.member origin ((some a).map encode) = (d origin (encode a).tree).map some :=
      Decoder.option_of_ne_null (h.ne_null a) origin
    rw [hsome]
    cases hd : d origin (encode a).tree with
    | ok b =>
      obtain ⟨hfits, rfl⟩ := (h.reads origin a b).1 hd
      simp [Except.map, hfits]
    | error e =>
      have hfits : ¬fits a := fun hfits => by
        rw [(h.reads origin a (sent a)).2 ⟨hfits, rfl⟩] at hd
        cases hd
      simp [Except.map, hfits]

namespace Fields

variable {origin : Origin} {ms : List (String × Json)} {d : Decoder α} {name : String}

/-- A required member is the one under the name. -/
@[simp] theorem read_required {a : α} :
    (required name d).value origin (treeMembers ms) = .ok a ↔
      ∃ j, ms.lookup name = some j ∧ d origin j.tree = .ok a := by
  rw [value_required_eq_ok, lookup_treeMembers]
  cases ms.lookup name <;> simp

@[simp] theorem read_withDefault {a b : α} :
    (withDefault name d b).value origin (treeMembers ms) = .ok a ↔
      (∃ j, ms.lookup name = some j ∧ d origin j.tree = .ok a) ∨
        ms.lookup name = none ∧ b = a := by
  rw [value_withDefault_eq_ok, lookup_treeMembers]
  cases ms.lookup name <;> simp

@[simp] theorem read_optional {a : Option α} :
    (optional name d).value origin (treeMembers ms) = .ok a ↔
      d.member origin (ms.lookup name) = .ok a := by
  rw [value_optional_eq_ok, lookup_treeMembers]
  cases ms.lookup name <;> simp [Decoder.member]

/-- An object made of distinct members is read if every field of the record is. -/
theorem decode_ofMembers {wanted : String} {fs : Fields α} (hfs : fs.Regular)
    (hkeys : (ms.map (·.1)).Nodup) {a : α} :
    fs.decode wanted origin (Json.ofMembers ms).tree = .ok a ↔
      fs.value origin (treeMembers ms) = .ok a := by
  have hsorted : ((extendMembers [] ms).map (·.1)).Nodup :=
    nodup_of_keysIncrease (keysIncrease_extendMembers ms rfl)
  have hsame : fs.value origin (treeMembers (extendMembers [] ms)) =
      fs.value origin (treeMembers ms) := by
    refine hfs.congr fun k => ?_
    rw [lookup_treeMembers, lookup_treeMembers, lookup_extendMembers hkeys]
    simp
  rw [Json.ofMembers, tree, decode_object hfs hsorted, hsame]

end Fields

/-- A record carries what its fields carry. -/
theorem Carries.record {wanted : String} {fs : Fields α} {members : α → List (String × Json)}
    {fits : α → Prop} {sent : α → α} (hfs : fs.Regular)
    (hkeys : ∀ a, ((members a).map (·.1)).Nodup)
    (h : ∀ origin a b,
      fs.value origin (treeMembers (members a)) = .ok b ↔ fits a ∧ sent a = b) :
    Carries (fs.decode wanted) (fun a => ofMembers (members a)) fits sent where
  reads origin a b := (Fields.decode_ofMembers hfs (hkeys a)).trans (h origin a b)
  ne_null a := by simp [ofMembers, tree]

/-! ### Members in any order -/

/-- `ms` are the members `members`, in any order. -/
structure SameMembers (ms members : List (String × Json)) : Prop where
  nodup : (ms.map (·.1)).Nodup
  lookup : ∀ k, ms.lookup k = members.lookup k

theorem lookup_filter (p : String → Bool) (ms : List (String × Json)) (k : String) :
    (ms.filter fun m => p m.1).lookup k = if p k then ms.lookup k else none := by
  induction ms with
  | nil => simp
  | cons m ms ih =>
    obtain ⟨key, j⟩ := m
    by_cases hk : k = key
    · subst hk
      cases hp : p k <;> simp [hp, ih]
    · cases hp : p key <;> simp [hp, hk, ih]

namespace SameMembers

variable {ms members : List (String × Json)} {wanted : String} {fs : Fields α} {origin : Origin}

theorem sorted (h : (members.map (·.1)).Nodup) :
    SameMembers (extendMembers [] members) members where
  nodup := nodup_of_keysIncrease (keysIncrease_extendMembers members rfl)
  lookup k := by rw [lookup_extendMembers h, List.lookup_nil, Option.or_none]

theorem filter (h : SameMembers ms members) (p : String → Bool) :
    SameMembers (ms.filter fun m => p m.1) (members.filter fun m => p m.1) where
  nodup := (List.filter_sublist.map _).nodup h.nodup
  lookup k := by rw [lookup_filter, lookup_filter, h.lookup]

theorem mem_keys (h : SameMembers ms members) {k : String} (hk : k ∈ ms.map (·.1)) :
    k ∈ members.map (·.1) := by
  refine Decidable.of_not_not fun hnot => ?_
  rw [← lookup_eq_none, ← h.lookup, lookup_eq_none] at hnot
  exact hnot hk

theorem value_eq (h : SameMembers ms members) (hfs : fs.Regular) :
    fs.value origin (treeMembers ms) = fs.value origin (treeMembers members) :=
  hfs.congr fun k => by rw [lookup_treeMembers, lookup_treeMembers, h.lookup]

/-- The order of the members does not matter to a record. -/
theorem decode_eq_ok (h : SameMembers ms members) (hfs : fs.Regular) {a : α} :
    fs.decode wanted origin (.object (treeMembers ms)) = .ok a ↔
      fs.value origin (treeMembers members) = .ok a := by
  rw [Fields.decode_object hfs h.nodup, h.value_eq hfs]

end SameMembers

/-! ### Tags -/

namespace Decoder

variable {β : Type} {key name : String} {ms members : List (String × Json)}

theorem findTag_chosen {origin : Origin} {variants : List (String × β)} {b : β}
    (h : key ∉ ms.map (·.1)) :
    findTag key variants origin (some b) (treeMembers ms) = .ok (b, treeMembers ms) := by
  induction ms with
  | nil => rfl
  | cons m ms ih =>
    obtain ⟨k, j⟩ := m
    rw [List.map_cons, List.mem_cons, not_or] at h
    have hk : k ≠ key := Ne.symm h.1
    simp [treeMembers, findTag, hk, ih h.2, Except.map]

/-- The tag is found wherever it stands, and the other members are left. -/
theorem findTag_treeMembers {origin : Origin} {variants : List (String × β)} {b : β}
    (hkeys : (ms.map (·.1)).Nodup) (hname : ms.lookup key = some (.string name))
    (hb : variants.lookup name = some b) :
    findTag key variants origin none (treeMembers ms) =
      .ok (b, treeMembers (ms.filter fun m => m.1 != key)) := by
  induction ms with
  | nil => cases hname
  | cons m ms ih =>
    obtain ⟨k, j⟩ := m
    rw [List.map_cons, List.nodup_cons] at hkeys
    rw [lookup_member] at hname
    by_cases hk : k = key
    · subst hk
      rw [if_pos rfl] at hname
      obtain rfl := Option.some.inj hname
      have hrest : ms.filter (fun m => m.1 != k) = ms := by
        rw [List.filter_eq_self]
        intro m hm
        rw [bne_iff_ne]
        rintro rfl
        exact hkeys.1 (List.mem_map.2 ⟨m, hm, rfl⟩)
      simp [treeMembers, findTag, tree, tag, named, hb, hrest, findTag_chosen hkeys.1]
    · rw [if_neg (Ne.symm hk)] at hname
      simp [treeMembers, findTag, hk, ih hkeys.2 hname, Except.map]

/-- What a tag leads to is read from the other members. -/
theorem taggedMembers_eq (variants : List (String × Decoder α)) (origin : Origin) {d : Decoder α}
    (h : SameMembers ms ((key, .string name) :: members)) (hkey : members.lookup key = none)
    (hd : variants.lookup name = some d) :
    ∃ rest, SameMembers rest members ∧
      taggedMembers key variants origin (treeMembers ms) =
        d .buffered (.object (treeMembers rest)) := by
  refine ⟨ms.filter fun m => m.1 != key, ⟨(h.filter (· != key)).nodup, fun k => ?_⟩, ?_⟩
  · rw [lookup_filter (· != key), h.lookup, lookup_member]
    by_cases hk : k = key
    · subst hk
      simp [hkey]
    · simp [hk]
  · have hname : ms.lookup key = some (.string name) := by simp [h.lookup]
    unfold taggedMembers
    rw [findTag_treeMembers h.nodup hname hd]

/-- An object with a tag is read as what the tag leads to. -/
theorem tagged_eq_ok {wanted : String} {variants : List (String × Decoder α)} {d : Decoder α}
    {a : α} (hkeys : (key :: members.map (·.1)).Nodup) (hd : variants.lookup name = some d)
    (h : ∀ ms, SameMembers ms members → d .buffered (.object (treeMembers ms)) = .ok a)
    (origin : Origin) :
    tagged key wanted variants origin (ofMembers ((key, .string name) :: members)).tree = .ok a := by
  have hkey : members.lookup key = none := lookup_eq_none.2 (List.nodup_cons.1 hkeys).1
  have hsorted : SameMembers _ ((key, .string name) :: members) := .sorted hkeys
  obtain ⟨rest, hrest, heq⟩ := taggedMembers_eq variants origin hsorted hkey hd
  rw [ofMembers, tree, tagged, heq, h rest hrest]

end Decoder

/-- An object whose remaining members are read together. -/
theorem SameMembers.decodeWith_eq_ok {β : Type} {ms members : List (String × Json)}
    (h : SameMembers ms members) {wanted : String} {fs : Fields (β → α)} (hfs : fs.Regular)
    {rest : List (String × Tree) → Except DecodeError β} {origin : Origin} {a : α} :
    fs.decodeWith wanted rest origin (.object (treeMembers ms)) = .ok a ↔ ∃ f b,
      fs.value origin (treeMembers members) = .ok f ∧
        rest (treeMembers (ms.filter fun m => !fs.names.any (·.contains m.1))) = .ok b ∧
          f b = a := by
  have hothers : fs.others (treeMembers ms) =
      treeMembers (ms.filter fun m => !fs.names.any (·.contains m.1)) := by
    rw [treeMembers_eq_map, treeMembers_eq_map, Fields.others, List.filter_map]
    rfl
  have hread (f : β → α) :
      fs.decodeMembers (fun t => t.read?.isSome) origin (treeMembers ms) = .ok f ↔
        fs.value origin (treeMembers ms) = .ok f :=
    Fields.decodeMembers_eq_ok hfs (fun j => by simp) h.nodup
  rw [← h.value_eq hfs, Fields.decodeWith, hothers]
  cases hd : fs.decodeMembers (fun t => t.read?.isSome) origin (treeMembers ms) with
  | error e =>
    have hnone : ∀ f, fs.value origin (treeMembers ms) ≠ .ok f := fun f hf => by
      rw [(hread f).2 hf] at hd
      cases hd
    simp [hnone]
  | ok f =>
    rw [(hread f).1 hd]
    cases rest (treeMembers (ms.filter fun m => !fs.names.any (·.contains m.1))) <;>
      simp [Except.map]

end SensorTasks.Json

import SensorTasks.Json.Codec
import SensorTasks.Json.Decode.Record

/-!
How records are read. An object has a value for a record if every field of the record finds its
member, or may do without it, and the member decodes; then nothing else can go wrong, as long as the
keys of the object are distinct. The keys of a canonical object are, and of an object that was built
from distinct members all of them are found again.
-/

namespace SensorTasks.Json

/-! ### Members -/

theorem lookup_member (k k' : String) (value : Json) (members : List (String × Json)) :
    ((k', value) :: members).lookup k = if k = k' then some value else members.lookup k := by
  by_cases h : k = k'
  · simp [h]
  · simp [List.lookup_cons, beq_eq_false_iff_ne.2 h, h]

theorem lookup_eq_none {k : String} {members : List (String × Json)} :
    members.lookup k = none ↔ k ∉ members.map (·.1) := by
  induction members with
  | nil => simp
  | cons m members ih =>
    obtain ⟨key, value⟩ := m
    rw [lookup_member, List.map_cons, List.mem_cons, not_or, ← ih]
    split <;> simp_all

/-- Only the member that is put in changes. -/
theorem lookup_insertMember (key k : String) (value : Json) (members : List (String × Json)) :
    (insertMember key value members).lookup k =
      if k = key then some value else members.lookup k := by
  induction members with
  | nil => exact lookup_member k key value []
  | cons m members ih =>
    obtain ⟨k', v⟩ := m
    simp only [insertMember]
    split
    · rename_i h
      subst h
      rw [lookup_member, lookup_member]
      split <;> rfl
    · rename_i h
      split
      · rw [lookup_member]
      · rw [lookup_member, lookup_member, ih]
        by_cases hk : k = k'
        · rw [if_pos hk, if_pos hk, if_neg fun he => h (he.symm.trans hk)]
        · rw [if_neg hk, if_neg hk]

/-- Members with distinct keys are found again, before those that were there. -/
theorem lookup_extendMembers {members more : List (String × Json)} (h : (more.map (·.1)).Nodup)
    (k : String) :
    (extendMembers members more).lookup k = (more.lookup k).or (members.lookup k) := by
  induction more generalizing members with
  | nil => rfl
  | cons m more ih =>
    obtain ⟨key, value⟩ := m
    rw [List.map_cons, List.nodup_cons] at h
    refine (ih h.2).trans ?_
    rw [lookup_insertMember, lookup_member]
    by_cases hk : k = key
    · subst hk
      rw [if_pos rfl, if_pos rfl, lookup_eq_none.2 h.1, Option.none_or, Option.some_or]
    · rw [if_neg hk, if_neg hk]

theorem keysIncrease_extendMembers {members : List (String × Json)} (more : List (String × Json))
    (h : keysIncrease members = true) : keysIncrease (extendMembers members more) = true := by
  induction more generalizing members with
  | nil => exact h
  | cons m more ih => exact ih (keysIncrease_insertMember m.1 m.2 h)

theorem pairwise_of_keysIncrease {members : List (String × Json)}
    (h : keysIncrease members = true) : (members.map (·.1)).Pairwise (· < ·) := by
  induction members with
  | nil => exact .nil
  | cons m members ih =>
    obtain ⟨hhead, htail⟩ := keysIncrease_cons.1 h
    have hrest := ih htail
    refine List.pairwise_cons.2 ⟨fun k hk => ?_, hrest⟩
    cases members with
    | nil => cases hk
    | cons a members =>
      have ha : m.1 < a.1 := hhead a rfl
      rcases List.mem_cons.1 hk with rfl | hk
      · exact ha
      · exact String.lt_trans ha ((List.pairwise_cons.1 hrest).1 k hk)

theorem nodup_of_keysIncrease {members : List (String × Json)} (h : keysIncrease members = true) :
    (members.map (·.1)).Nodup :=
  (pairwise_of_keysIncrease h).imp fun hlt => by
    rintro rfl
    exact String.lt_irrefl _ hlt

/-! ### Canonical values -/

theorem insertMember_of_last {key : String} {value : Json} {members : List (String × Json)}
    (h : ∀ k ∈ members.map (·.1), k < key) :
    insertMember key value members = members ++ [(key, value)] := by
  induction members with
  | nil => rfl
  | cons m members ih =>
    rw [List.map_cons, List.forall_mem_cons] at h
    have hne : key ≠ m.1 := by
      rintro rfl
      exact String.lt_irrefl _ h.1
    have hnlt : ¬key < m.1 := fun hlt => String.lt_irrefl _ (String.lt_trans h.1 hlt)
    simp only [insertMember, if_neg hne, if_neg hnlt, ih h.2, List.cons_append]

/-- Members whose keys increase are sorted. -/
theorem extendMembers_of_increasing {members more : List (String × Json)}
    (h : ((members ++ more).map (·.1)).Pairwise (· < ·)) :
    extendMembers members more = members ++ more := by
  induction more generalizing members with
  | nil => simp [extendMembers]
  | cons m more ih =>
    have hlast : ∀ k ∈ members.map (·.1), k < m.1 := fun k hk => by
      rw [List.map_append, List.pairwise_append] at h
      exact h.2.2 k hk m.1 (by simp)
    have hstep : extendMembers members (m :: more) =
        extendMembers (insertMember m.1 m.2 members) more := rfl
    rw [hstep, insertMember_of_last hlast, ih (by simpa using h)]
    simp

mutual

/-- A canonical value is its own canonical form. -/
theorem canonical_of_isCanonical : (j : Json) → j.isCanonical = true → j.canonical = j
  | .array items, h => by
    rw [isCanonical] at h
    rw [canonical, canonicalItems_of_itemsCanonical items h]
  | .object members, h => by
    rw [isCanonical, Bool.and_eq_true] at h
    have hsorted : extendMembers [] members = members :=
      extendMembers_of_increasing (pairwise_of_keysIncrease h.2)
    rw [canonical, canonicalMembers_of_membersCanonical members h.1, ofMembers, hsorted]
  | .null, _ | .bool _, _ | .number _, _ | .string _, _ => by simp [canonical]

theorem canonicalItems_of_itemsCanonical : (items : List Json) → itemsCanonical items = true →
    canonicalItems items = items
  | [], _ => rfl
  | j :: items, h => by
    rw [itemsCanonical, Bool.and_eq_true] at h
    rw [canonicalItems, canonical_of_isCanonical j h.1, canonicalItems_of_itemsCanonical items h.2]

theorem canonicalMembers_of_membersCanonical : (members : List (String × Json)) →
    membersCanonical members = true → canonicalMembers members = members
  | [], _ => rfl
  | (k, j) :: members, h => by
    rw [membersCanonical, Bool.and_eq_true] at h
    rw [canonicalMembers, canonical_of_isCanonical j h.1,
      canonicalMembers_of_membersCanonical members h.2]

end

theorem isCanonical_of_lookup {members : List (String × Json)} {k : String} {j : Json}
    (h : membersCanonical members = true) (hj : members.lookup k = some j) :
    j.isCanonical = true := by
  induction members with
  | nil => cases hj
  | cons m members ih =>
    rw [membersCanonical, Bool.and_eq_true] at h
    rw [lookup_member] at hj
    split at hj
    · exact Option.some.inj hj ▸ h.1
    · exact ih h.2 hj

theorem isCanonical_of_mem {items : List Json} {j : Json} (h : itemsCanonical items = true)
    (hj : j ∈ items) : j.isCanonical = true := by
  induction items with
  | nil => cases hj
  | cons a items ih =>
    rw [itemsCanonical, Bool.and_eq_true] at h
    rcases List.mem_cons.1 hj with rfl | hj
    · exact h.1
    · exact ih h.2 hj

/-! ### Values as trees -/

theorem treeItems_eq_map (items : List Json) : treeItems items = items.map tree := by
  induction items with
  | nil => rfl
  | cons j items ih => rw [treeItems, ih, List.map_cons]

theorem treeMembers_eq_map (members : List (String × Json)) :
    treeMembers members = members.map fun m => (m.1, m.2.tree) := by
  induction members with
  | nil => rfl
  | cons m members ih => rw [treeMembers, ih, List.map_cons]

/-- A field with one name finds the member under it. -/
theorem lookup_treeMembers (name : String) (members : List (String × Json)) :
    Fields.lookup [name] (treeMembers members) = (members.lookup name).map tree := by
  induction members with
  | nil => rfl
  | cons m members ih =>
    obtain ⟨k, j⟩ := m
    rw [treeMembers, lookup_member]
    unfold Fields.lookup at ih ⊢
    by_cases hk : k = name
    · subst hk
      simp
    · rw [List.find?_cons_of_neg (by simpa using hk), ih, if_neg (Ne.symm hk)]

namespace Fields

variable {α β : Type} {origin : Origin} {members : List (String × Tree)} {d : Decoder α}
  {name : String}

/-- What a record finds in the members of an object. -/
def value (fs : Fields α) (origin : Origin) (members : List (String × Tree)) :
    Except DecodeError α :=
  (fs.ofMembers origin members).2

theorem value_map_eq_ok {f : α → β} {x : Fields α} {b : β} :
    (f <$> x).value origin members = .ok b ↔ ∃ a, x.value origin members = .ok a ∧ f a = b := by
  have h : (f <$> x).value origin members = (x.value origin members).map f := rfl
  rw [h]
  cases x.value origin members <;> simp [Except.map]

theorem value_seq (f : Fields (α → β)) (x : Fields α) (origin : Origin)
    (members : List (String × Tree)) : (f <*> x).value origin members =
      (f.value origin members).bind fun g => (x.value origin members).map g := by
  unfold value
  dsimp only [Seq.seq]
  cases (f.ofMembers origin members).2 <;> rfl

theorem value_seq_eq_ok {f : Fields (α → β)} {x : Fields α} {b : β} :
    (f <*> x).value origin members = .ok b ↔ ∃ g a,
      f.value origin members = .ok g ∧ x.value origin members = .ok a ∧ g a = b := by
  rw [value_seq]
  cases f.value origin members <;> cases x.value origin members <;> simp [Except.map, Except.bind]

theorem value_field_eq_ok {names : List String} {absent absentItem : Option α} {a : α} :
    (field names d absent absentItem).value origin members = .ok a ↔
      (∃ t, lookup names members = some t ∧ d origin t = .ok a) ∨
        lookup names members = none ∧ absent = some a := by
  unfold value field
  dsimp only
  cases lookup names members with
  | none => cases absent <;> simp
  | some t =>
    dsimp only
    cases h : d origin t <;> simp [h]

theorem value_required_eq_ok {a : α} :
    (required name d).value origin members = .ok a ↔
      ∃ t, lookup [name] members = some t ∧ d origin t = .ok a := by
  simp [required, value_field_eq_ok]

theorem value_withDefault_eq_ok {a b : α} :
    (withDefault name d b).value origin members = .ok a ↔
      (∃ t, lookup [name] members = some t ∧ d origin t = .ok a) ∨
        lookup [name] members = none ∧ b = a := by
  simp [withDefault, value_field_eq_ok]

theorem value_optional_eq_ok {a : Option α} :
    (optional name d).value origin members = .ok a ↔
      (∃ t, lookup [name] members = some t ∧ d.option origin t = .ok a) ∨
        lookup [name] members = none ∧ none = a :=
  value_withDefault_eq_ok

/-! ### Arrays -/

theorem ofItems_map_eq_ok {f : α → β} {x : Fields α} {items rest : List Tree} {b : β} :
    (f <$> x).ofItems origin items = .ok (b, rest) ↔
      ∃ a, x.ofItems origin items = .ok (a, rest) ∧ f a = b := by
  have h : (f <$> x).ofItems origin items =
      (x.ofItems origin items).map fun p => (f p.1, p.2) := rfl
  rw [h]
  cases x.ofItems origin items with
  | error e => simp [Except.map]
  | ok p =>
    obtain ⟨a, rest'⟩ := p
    simp [Except.map]
    grind

theorem ofItems_seq_eq_ok {f : Fields (α → β)} {x : Fields α} {items rest : List Tree} {b : β} :
    (f <*> x).ofItems origin items = .ok (b, rest) ↔ ∃ g mid a,
      f.ofItems origin items = .ok (g, mid) ∧ x.ofItems origin mid = .ok (a, rest) ∧ g a = b := by
  have h : (f <*> x).ofItems origin items =
      (f.ofItems origin items).bind fun p =>
        (x.ofItems origin p.2).map fun q => (p.1 q.1, q.2) := by
    dsimp only [Seq.seq]
    cases f.ofItems origin items <;> rfl
  rw [h]
  cases hf : f.ofItems origin items with
  | error e => simp [Except.bind]
  | ok p =>
    obtain ⟨g, mid⟩ := p
    dsimp only [Except.bind]
    cases hx : x.ofItems origin mid with
    | error e => simp [Except.map, hx]
    | ok q =>
      obtain ⟨a, rest'⟩ := q
      simp [Except.map]
      grind

/-! ### Records -/

/-- Every field has one name, and one that does not decode leaves the record without a value; only
what is found under the names counts, and the items of an array are taken from its front. -/
structure Regular (fs : Fields α) : Prop where
  named : ∀ group ∈ fs.names, ∃ name, group = [name]
  sound : ∀ {origin members a}, fs.value origin members = .ok a →
    (fs.ofMembers origin members).1 = []
  congr : ∀ {origin members members'}, (∀ k, lookup [k] members = lookup [k] members') →
    fs.value origin members = fs.value origin members'
  suffix : ∀ {origin items a rest}, fs.ofItems origin items = .ok (a, rest) → rest <:+ items

namespace Regular

theorem map {f : α → β} {x : Fields α} (h : x.Regular) : (f <$> x).Regular where
  named := h.named
  sound ha := by
    obtain ⟨a, ha, -⟩ := value_map_eq_ok.1 ha
    exact h.sound ha
  congr {origin members members'} hm := by
    have hmap (ms : List (String × Tree)) :
        (f <$> x).value origin ms = (x.value origin ms).map f := rfl
    rw [hmap, hmap, h.congr hm]
  suffix hb := by
    obtain ⟨a, ha, -⟩ := ofItems_map_eq_ok.1 hb
    exact h.suffix ha

theorem seq {f : Fields (α → β)} {x : Fields α} (hf : f.Regular) (hx : x.Regular) :
    (f <*> x).Regular where
  named group hgroup := (List.mem_append.1 hgroup).elim (hf.named group) (hx.named group)
  sound {origin members a} ha := by
    obtain ⟨g, a, hg, ha, -⟩ := value_seq_eq_ok.1 ha
    have happ : ((f <*> x).ofMembers origin members).1 =
        (f.ofMembers origin members).1 ++ (x.ofMembers origin members).1 := rfl
    rw [happ, hf.sound hg, hx.sound ha, List.nil_append]
  congr {origin members members'} hm := by
    rw [value_seq, value_seq, hf.congr hm, hx.congr hm]
  suffix hb := by
    obtain ⟨g, mid, a, hg, ha, -⟩ := ofItems_seq_eq_ok.1 hb
    exact (hx.suffix ha).trans (hf.suffix hg)

theorem field {absent absentItem : Option α} : (field [name] d absent absentItem).Regular where
  named group hgroup := ⟨name, List.mem_singleton.1 hgroup⟩
  sound {origin members a} ha := by
    unfold value Fields.field at ha
    unfold Fields.field
    dsimp only at ha ⊢
    cases hl : lookup [name] members with
    | none => cases absent <;> rfl
    | some t =>
      rw [hl] at ha
      dsimp only at ha ⊢
      cases hd : d origin t with
      | ok a => rfl
      | error e =>
        rw [hd] at ha
        cases ha
  congr hm := by
    unfold value Fields.field
    dsimp only
    rw [hm name]
  suffix := by
    intro origin items a rest h
    unfold Fields.field at h
    dsimp only at h
    cases items with
    | nil =>
      cases absentItem with
      | none => cases h
      | some b =>
        cases h
        exact List.suffix_refl []
    | cons t items =>
      dsimp only at h
      cases hd : d origin t with
      | error e =>
        rw [hd] at h
        cases h
      | ok b =>
        rw [hd] at h
        cases h
        exact List.suffix_cons _ _

theorem required : (required name d).Regular := field

theorem withDefault {a : α} : (withDefault name d a).Regular := field

theorem optional : (optional name d).Regular := withDefault

end Regular

/-- In an object with distinct keys, the first names of their fields, and no field that does not
decode, nothing is at fault. -/
theorem firstFault_eq_none {names : List (List String)} {passes : Tree → Bool}
    (hnames : ∀ group ∈ names, ∀ k ∈ members.map (·.1), k ∈ group → group.headD "" = k)
    (hpass : ∀ m ∈ members, passes m.2 = true)
    {seen : List String} (hkeys : (members.map (·.1)).Nodup)
    (hseen : ∀ k ∈ members.map (·.1), k ∉ seen) :
    firstFault names [] passes seen members = none := by
  induction members generalizing seen with
  | nil => rfl
  | cons m members ih =>
    obtain ⟨k, t⟩ := m
    rw [List.map_cons, List.nodup_cons] at hkeys
    rw [List.map_cons, List.forall_mem_cons] at hseen
    rw [List.forall_mem_cons] at hpass
    have hnames' : ∀ group ∈ names, ∀ k ∈ members.map (·.1), k ∈ group → group.headD "" = k :=
      fun group hgroup k hk => hnames group hgroup k (List.mem_cons_of_mem _ hk)
    unfold firstFault
    cases hfind : names.find? (·.contains k) with
    | none =>
      dsimp only
      rw [if_pos hpass.1]
      exact ih hnames' hpass.2 hkeys.2 hseen.2
    | some group =>
      have hfirst : group.headD "" = k :=
        hnames group (List.mem_of_find?_eq_some hfind) k List.mem_cons_self
          (by simpa using List.find?_some hfind)
      have hunseen : seen.contains k = false := by simpa using hseen.1
      simp only [hfirst, hunseen, Bool.false_eq_true, if_false, List.lookup_nil]
      refine ih hnames' hpass.2 hkeys.2 fun k' hk' => ?_
      rw [List.mem_cons, not_or]
      exact ⟨fun he => hkeys.1 (he ▸ hk'), hseen.2 k' hk'⟩

theorem value_of_decodeMembers {fs : Fields α} {passes : Tree → Bool} {a : α}
    (h : fs.decodeMembers passes origin members = .ok a) : fs.value origin members = .ok a := by
  simp only [decodeMembers] at h
  split at h
  · cases h
  · exact h

theorem value_of_decode {wanted : String} {fs : Fields α} {a : α}
    (h : fs.decode wanted origin (.object members) = .ok a) : fs.value origin members = .ok a :=
  value_of_decodeMembers h

/-- Members with distinct keys, the first names of their fields, are read if the record has a
value. -/
theorem decodeMembers_of_value {fs : Fields α} {passes : Tree → Bool}
    {ms : List (String × Json)} (hpass : ∀ j : Json, passes j.tree = true)
    (hkeys : (ms.map (·.1)).Nodup)
    (hnames : ∀ group ∈ fs.names, ∀ k ∈ ms.map (·.1), k ∈ group → group.headD "" = k)
    (hfailed : (fs.ofMembers origin (treeMembers ms)).1 = []) :
    fs.decodeMembers passes origin (treeMembers ms) = fs.value origin (treeMembers ms) := by
  have hpass' : ∀ m ∈ treeMembers ms, passes m.2 = true := by
    rw [treeMembers_eq_map]
    intro m hm
    obtain ⟨m', -, rfl⟩ := List.mem_map.1 hm
    exact hpass m'.2
  have hmap : (treeMembers ms).map (·.1) = ms.map (·.1) := by
    simp [treeMembers_eq_map, Function.comp_def]
  simp only [decodeMembers, hfailed]
  rw [firstFault_eq_none (hmap ▸ hnames) hpass' (hmap ▸ hkeys) fun _ _ => List.not_mem_nil]
  rfl

/-- Members with distinct keys are read if every field of the record is. -/
theorem decodeMembers_eq_ok {fs : Fields α} (hfs : fs.Regular) {passes : Tree → Bool}
    {ms : List (String × Json)} (hpass : ∀ j : Json, passes j.tree = true)
    (hkeys : (ms.map (·.1)).Nodup) {a : α} :
    fs.decodeMembers passes origin (treeMembers ms) = .ok a ↔
      fs.value origin (treeMembers ms) = .ok a := by
  refine ⟨value_of_decodeMembers, fun h => ?_⟩
  have hnames : ∀ group ∈ fs.names, ∀ k ∈ ms.map (·.1), k ∈ group → group.headD "" = k := by
    intro group hgroup k _ hk
    obtain ⟨name, rfl⟩ := hfs.named group hgroup
    exact (List.mem_singleton.1 hk).symm
  rw [decodeMembers_of_value hpass hkeys hnames (hfs.sound h), h]

/-- An object with distinct keys is read if every field of the record is. -/
theorem decode_object {wanted : String} {fs : Fields α} (hfs : fs.Regular)
    {ms : List (String × Json)} (hkeys : (ms.map (·.1)).Nodup) {a : α} :
    fs.decode wanted origin (.object (treeMembers ms)) = .ok a ↔
      fs.value origin (treeMembers ms) = .ok a :=
  decodeMembers_eq_ok hfs Tree.isWhole_tree hkeys

/-- An array is read if the record takes all its items. -/
theorem decode_array {wanted : String} {fs : Fields α} {items : List Tree} {a : α} :
    fs.decode wanted origin (.array items) = .ok a ↔ fs.ofItems origin items = .ok (a, []) := by
  simp only [decode, decodeItems]
  split
  · rename_i h
    simp [h]
  · rename_i h
    simp [h]
  · rename_i h
    simp [h]
  · rename_i hne h
    simp [h]
    grind

end Fields

end SensorTasks.Json

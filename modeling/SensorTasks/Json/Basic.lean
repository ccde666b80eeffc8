import SensorTasks.Number.Double

/-!
JSON values and the free-form attributes of documents. An object is the list of its members; it is
canonical when the keys increase, which leaves one member per key and one list per object. What a
document carries along as attributes is canonical by its type.
-/

namespace SensorTasks

inductive Number where
  | integer (n : Int)
  | real (x : Double)
  deriving DecidableEq

inductive Json where
  | null
  | bool (b : Bool)
  | number (n : Number)
  | string (s : String)
  | array (items : List Json)
  | object (members : List (String × Json))

namespace Json

def ofNat (n : Nat) : Json := .number (.integer n)

/-- The member under `key`, if `j` is an object that has it. -/
def get? (j : Json) (key : String) : Option Json :=
  match j with
  | .object members => members.lookup key
  | _ => none

/-! ### Members in increasing order of their keys -/

/-- `members` with `value` under `key`, which keeps its place if it is there. -/
def insertMember (key : String) (value : Json) : List (String × Json) → List (String × Json)
  | [] => [(key, value)]
  | (k, v) :: members =>
    if key = k then (key, value) :: members
    else if key < k then (key, value) :: (k, v) :: members
    else (k, v) :: insertMember key value members

/-- Every member of `more` is put into `members`, so the last one of a key stays. -/
def extendMembers (members more : List (String × Json)) : List (String × Json) :=
  more.foldl (fun acc m => insertMember m.1 m.2 acc) members

/-- The object with the given members, sorted. -/
def ofMembers (members : List (String × Json)) : Json :=
  .object (extendMembers [] members)

def keysIncrease : List (String × Json) → Bool
  | [] => true
  | [_] => true
  | a :: b :: rest => decide (a.1 < b.1) && keysIncrease (b :: rest)

mutual

/-- In this value and everything inside it the keys of an object increase. -/
def isCanonical : Json → Bool
  | .array items => itemsCanonical items
  | .object members => membersCanonical members && keysIncrease members
  | _ => true

def itemsCanonical : List Json → Bool
  | [] => true
  | j :: items => j.isCanonical && itemsCanonical items

def membersCanonical : List (String × Json) → Bool
  | [] => true
  | (_, j) :: members => j.isCanonical && membersCanonical members

end

mutual

/-- The value with all objects sorted and the last of several members of one key kept. -/
def canonical : Json → Json
  | .array items => .array (canonicalItems items)
  | .object members => ofMembers (canonicalMembers members)
  | j => j

def canonicalItems : List Json → List Json
  | [] => []
  | j :: items => j.canonical :: canonicalItems items

def canonicalMembers : List (String × Json) → List (String × Json)
  | [] => []
  | (k, j) :: members => (k, j.canonical) :: canonicalMembers members

end

theorem keysIncrease_cons {k : String} {v : Json} {members : List (String × Json)} :
    keysIncrease ((k, v) :: members) = true ↔
      (∀ m ∈ members.head?, k < m.1) ∧ keysIncrease members = true := by
  cases members <;> simp [keysIncrease]

theorem head?_insertMember (key : String) (value : Json) (members : List (String × Json)) :
    ∀ m ∈ (insertMember key value members).head?, m.1 = key ∨ m ∈ members.head? := by
  cases members with
  | nil => simp [insertMember]
  | cons a members =>
    simp only [insertMember]
    split
    · simp
    · split <;> simp

theorem keysIncrease_insertMember (key : String) (value : Json) {members : List (String × Json)}
    (h : keysIncrease members = true) : keysIncrease (insertMember key value members) = true := by
  induction members with
  | nil => rfl
  | cons a members ih =>
    obtain ⟨k, v⟩ := a
    have hc := keysIncrease_cons.1 h
    simp only [insertMember]
    split
    · rename_i e
      subst e
      exact keysIncrease_cons.2 hc
    · rename_i hne
      split
      · rename_i hlt
        exact keysIncrease_cons.2 ⟨by simpa using hlt, h⟩
      · rename_i hge
        refine keysIncrease_cons.2 ⟨fun m hm => ?_, ih hc.2⟩
        rcases head?_insertMember key value members m hm with e | hm'
        · rw [e]
          exact Std.lt_of_le_of_ne (Std.not_lt.1 hge) (Ne.symm hne)
        · exact hc.1 m hm'

theorem membersCanonical_insertMember {key : String} {value : Json}
    {members : List (String × Json)} (hv : value.isCanonical = true)
    (h : membersCanonical members = true) :
    membersCanonical (insertMember key value members) = true := by
  induction members with
  | nil => simp [insertMember, membersCanonical, hv]
  | cons a members ih =>
    obtain ⟨k, v⟩ := a
    simp only [membersCanonical, Bool.and_eq_true] at h
    simp only [insertMember]
    split
    · simp [membersCanonical, hv, h.2]
    · split
      · simp [membersCanonical, hv, h.1, h.2]
      · simp [membersCanonical, h.1, ih h.2]

theorem canonical_extendMembers {members more : List (String × Json)}
    (hm : membersCanonical more = true) (h : membersCanonical members = true)
    (hk : keysIncrease members = true) :
    membersCanonical (extendMembers members more) = true ∧
      keysIncrease (extendMembers members more) = true := by
  induction more generalizing members with
  | nil => exact ⟨h, hk⟩
  | cons a more ih =>
    simp only [membersCanonical, Bool.and_eq_true] at hm
    exact ih hm.2 (membersCanonical_insertMember hm.1 h) (keysIncrease_insertMember _ _ hk)

theorem isCanonical_ofMembers {members : List (String × Json)}
    (h : membersCanonical members = true) : (ofMembers members).isCanonical = true := by
  have := @canonical_extendMembers [] members h rfl rfl
  simp [ofMembers, isCanonical, this.1, this.2]

mutual

theorem isCanonical_canonical : (j : Json) → j.canonical.isCanonical = true
  | .array items => by
    simp only [canonical, isCanonical]
    exact itemsCanonical_canonicalItems items
  | .object members => by
    simp only [canonical]
    exact isCanonical_ofMembers (membersCanonical_canonicalMembers members)
  | .null | .bool _ | .number _ | .string _ => by simp [canonical, isCanonical]

theorem itemsCanonical_canonicalItems : (items : List Json) →
    itemsCanonical (canonicalItems items) = true
  | [] => rfl
  | j :: items => by
    simp only [canonicalItems, itemsCanonical, Bool.and_eq_true]
    exact ⟨isCanonical_canonical j, itemsCanonical_canonicalItems items⟩

theorem membersCanonical_canonicalMembers : (members : List (String × Json)) →
    membersCanonical (canonicalMembers members) = true
  | [] => rfl
  | (_, j) :: members => by
    simp only [canonicalMembers, membersCanonical, Bool.and_eq_true]
    exact ⟨isCanonical_canonical j, membersCanonical_canonicalMembers members⟩

end

end Json

/-! ### Attributes -/

/-- Free-form attributes under distinct keys, which may nest. -/
structure Attributes where
  members : List (String × Json)
  canonical : (Json.object members).isCanonical = true

namespace Attributes

@[ext] theorem ext {a b : Attributes} (h : a.members = b.members) : a = b := by
  cases a
  cases b
  simp_all

def empty : Attributes := ⟨[], rfl⟩

instance : Inhabited Attributes := ⟨empty⟩

def toJson (a : Attributes) : Json := .object a.members

/-- The attributes that the members of an object stand for. -/
def ofMembers (members : List (String × Json)) : Attributes where
  members := Json.extendMembers [] (Json.canonicalMembers members)
  canonical := Json.isCanonical_ofMembers (Json.membersCanonical_canonicalMembers members)

/-- `a` with all of `b`, which wins where both have a key. -/
def extend (a b : Attributes) : Attributes where
  members := Json.extendMembers a.members b.members
  canonical := by
    have ha := a.canonical
    have hb := b.canonical
    simp only [Json.isCanonical, Bool.and_eq_true] at ha hb ⊢
    exact Json.canonical_extendMembers hb.1 ha.1 ha.2

end Attributes

end SensorTasks

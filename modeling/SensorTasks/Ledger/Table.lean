/-!
Tables: finite maps from texts, as the list of their rows. No two rows have the same key, so what a
table holds under a key is told by `get?` alone, and `size` counts the keys.
-/

namespace SensorTasks

structure Table (α : Type) where
  rows : List (String × α)
  distinct : (rows.map (·.1)).Nodup

namespace Table

variable {α : Type}

def empty : Table α := ⟨[], List.Pairwise.nil⟩

instance : Inhabited (Table α) := ⟨empty⟩

def size (t : Table α) : Nat := t.rows.length

def values (t : Table α) : List α := t.rows.map (·.2)

def get? (t : Table α) (key : String) : Option α := t.rows.lookup key

def contains (t : Table α) (key : String) : Bool := (t.get? key).isSome

/-! ### Rows -/

/-- `rows` with `a` under `key`, in its place if it is there and at the end if it is not. -/
def setRow (key : String) (a : α) : List (String × α) → List (String × α)
  | [] => [(key, a)]
  | (k, b) :: rows => if k = key then (key, a) :: rows else (k, b) :: setRow key a rows

def dropRow (key : String) (rows : List (String × α)) : List (String × α) :=
  rows.filter fun row => row.1 != key

theorem mem_keys_setRow {key k : String} {a : α} {rows : List (String × α)} :
    k ∈ (setRow key a rows).map (·.1) ↔ k = key ∨ k ∈ rows.map (·.1) := by
  induction rows with
  | nil => simp [setRow]
  | cons row rows ih =>
    obtain ⟨k', b⟩ := row
    simp only [setRow]
    split
    · rename_i h
      subst h
      simp
    · rw [List.map_cons, List.mem_cons, ih, List.map_cons, List.mem_cons]
      constructor
      · rintro (h | h | h)
        · exact Or.inr (Or.inl h)
        · exact Or.inl h
        · exact Or.inr (Or.inr h)
      · rintro (h | h | h)
        · exact Or.inr (Or.inl h)
        · exact Or.inl h
        · exact Or.inr (Or.inr h)

theorem nodup_setRow {key : String} {a : α} {rows : List (String × α)}
    (h : (rows.map (·.1)).Nodup) : ((setRow key a rows).map (·.1)).Nodup := by
  induction rows with
  | nil => simp [setRow]
  | cons row rows ih =>
    obtain ⟨k, b⟩ := row
    rw [List.map_cons, List.nodup_cons] at h
    simp only [setRow]
    split
    · rename_i e
      subst e
      exact List.nodup_cons.2 h
    · rename_i e
      refine List.nodup_cons.2 ⟨fun hm => ?_, ih h.2⟩
      rcases mem_keys_setRow.1 hm with hm | hm
      · exact e hm
      · exact h.1 hm

theorem lookup_setRow (key k : String) (a : α) (rows : List (String × α)) :
    (setRow key a rows).lookup k = if k = key then some a else rows.lookup k := by
  induction rows with
  | nil =>
    by_cases h : k = key
    · simp [setRow, h]
    · simp [setRow, List.lookup_cons, beq_eq_false_iff_ne.2 h, h]
  | cons row rows ih =>
    obtain ⟨k', b⟩ := row
    simp only [setRow]
    split
    · rename_i e
      subst e
      by_cases h : k = k'
      · simp [h]
      · simp [List.lookup_cons, beq_eq_false_iff_ne.2 h, h]
    · rename_i e
      by_cases h : k = k'
      · subst h
        simp [e]
      · simp [List.lookup_cons, beq_eq_false_iff_ne.2 h, ih]

theorem lookup_dropRow (key k : String) (rows : List (String × α)) :
    (dropRow key rows).lookup k = if k = key then none else rows.lookup k := by
  induction rows with
  | nil => simp [dropRow]
  | cons row rows ih =>
    obtain ⟨k', b⟩ := row
    simp only [dropRow, List.filter_cons] at ih ⊢
    by_cases e : k' = key
    · subst e
      by_cases h : k = k'
      · simpa [h] using ih
      · simpa [List.lookup_cons, beq_eq_false_iff_ne.2 h, h] using ih
    · by_cases h : k = k'
      · subst h
        simp [e]
      · simpa [List.lookup_cons, beq_eq_false_iff_ne.2 h, e] using ih

/-! ### Tables -/

def insert (t : Table α) (key : String) (a : α) : Table α where
  rows := setRow key a t.rows
  distinct := nodup_setRow t.distinct

def erase (t : Table α) (key : String) : Table α where
  rows := dropRow key t.rows
  distinct := t.distinct.sublist ((List.filter_sublist).map _)

@[simp] theorem get?_empty (key : String) : (empty : Table α).get? key = none := rfl

theorem get?_insert (t : Table α) (key k : String) (a : α) :
    (t.insert key a).get? k = if k = key then some a else t.get? k :=
  lookup_setRow key k a t.rows

theorem get?_erase (t : Table α) (key k : String) :
    (t.erase key).get? k = if k = key then none else t.get? k :=
  lookup_dropRow key k t.rows

@[simp] theorem get?_insert_self (t : Table α) (key : String) (a : α) :
    (t.insert key a).get? key = some a := by
  simp [get?_insert]

theorem get?_insert_of_ne {t : Table α} {key k : String} {a : α} (h : k ≠ key) :
    (t.insert key a).get? k = t.get? k := by
  simp [get?_insert, h]

theorem mem_rows {t : Table α} {key : String} {a : α} :
    (key, a) ∈ t.rows ↔ t.get? key = some a := by
  obtain ⟨rows, distinct⟩ := t
  simp only [get?]
  induction rows with
  | nil => simp
  | cons row rows ih =>
    obtain ⟨k, b⟩ := row
    rw [List.map_cons, List.nodup_cons] at distinct
    rw [List.mem_cons, ih distinct.2, List.lookup_cons]
    by_cases h : key = k
    · subst h
      have hnone : rows.lookup key ≠ some a := fun hs =>
        distinct.1 (List.mem_map.2 ⟨_, (ih distinct.2).2 hs, rfl⟩)
      simp [hnone, eq_comm]
    · simp [beq_eq_false_iff_ne.2 h, h]

/-- What is new comes last. -/
theorem values_insert_of_none {t : Table α} {key : String} (h : t.get? key = none) (a : α) :
    (t.insert key a).values = t.values ++ [a] := by
  obtain ⟨rows, distinct⟩ := t
  simp only [get?] at h
  simp only [values, insert]
  clear distinct
  induction rows with
  | nil => rfl
  | cons row rows ih =>
    obtain ⟨k, b⟩ := row
    rw [List.lookup_cons] at h
    by_cases hk : key = k
    · simp [hk] at h
    · rw [beq_eq_false_iff_ne.2 hk] at h
      rw [setRow, if_neg (Ne.symm hk), List.map_cons, ih h, List.map_cons, List.cons_append]

theorem mem_values {t : Table α} {a : α} : a ∈ t.values ↔ ∃ key, t.get? key = some a := by
  simp [values, ← mem_rows]

end Table

end SensorTasks

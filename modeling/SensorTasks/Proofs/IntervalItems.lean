import SensorTasks.Interval.Parser

/-!
The items of an interval that is written. What is read from words is one item after the other, each
a count and a unit, and what they come to is the sum of them. Every item is added to the sum of
those before it, and the reading ends when that is too long for an interval: so it gives just the
whole sum, if that is not too long.
-/

namespace SensorTasks.Interval

variable {text : String} {number unit word digits : List Char} {ws vs : List (List Char)}
  {count length m n total sum : Nat} {i : Interval}

/-! ### Totals -/

/-- The interval of so many seconds, if there is one that long. -/
def ofTotal (text : String) (seconds : Nat) : Except IntervalError Interval :=
  if h : seconds < UInt64.size then .ok ⟨seconds, h⟩ else .error (.invalidNumber text)

theorem ofTotal_of_lt (h : n < UInt64.size) : ofTotal text n = .ok ⟨n, h⟩ :=
  dif_pos h

theorem ofTotal_of_le (h : UInt64.size ≤ n) : ofTotal text n = .error (.invalidNumber text) :=
  dif_neg (Nat.not_lt.2 h)

/-- A sum that is too long stays so when the rest is added. -/
theorem ofTotal_bind {f : Nat → Except IntervalError Nat}
    (hf : ∀ sum < UInt64.size, f sum = (ofTotal text (sum + n)).map (·.seconds)) :
    ((ofTotal text m).map (·.seconds) >>= f) = (ofTotal text (m + n)).map (·.seconds) := by
  by_cases h : m < UInt64.size
  · rw [ofTotal_of_lt h]
    exact hf m h
  · rw [ofTotal_of_le (by omega), ofTotal_of_le (by omega)]
    rfl

/-! ### Single items -/

/-- The seconds of one item with those before it. -/
def addItem (text : String) (total : Nat) (number unit : List Char) :
    Except IntervalError Nat := do
  let count ← readCount number
  let length ← readUnit unit
  addUnits text total count length

theorem bind_eq_ok {ε α β : Type} {r : Except ε α} {f : α → Except ε β} {b : β} :
    r >>= f = .ok b ↔ ∃ a, r = .ok a ∧ f a = .ok b := by
  cases r <;> simp [bind, Except.bind]

theorem addItem_of_read (hcount : readCount number = .ok count)
    (hunit : readUnit unit = .ok length) (text : String) (total : Nat) :
    addItem text total number unit =
      (ofTotal text (total + count * length)).map (·.seconds) := by
  have hadd : addItem text total number unit = addUnits text total count length := by
    rw [addItem, hcount]
    simp only [bind, Except.bind, hunit]
  rw [hadd, addUnits]
  split <;> rename_i h <;> simp only [Bool.and_eq_true, decide_eq_true_eq] at h
  · rw [ofTotal_of_lt h.2]
    rfl
  · rw [ofTotal_of_le (by omega)]
    rfl

theorem addItem_eq_ok (h : addItem text total number unit = .ok sum) :
    ∃ count length, readCount number = .ok count ∧ readUnit unit = .ok length ∧
      sum = total + count * length := by
  obtain ⟨count, hcount, h⟩ := bind_eq_ok.1 h
  obtain ⟨length, hunit, h⟩ := bind_eq_ok.1 h
  refine ⟨count, length, hcount, hunit, ?_⟩
  unfold addUnits at h
  split at h <;> cases h
  rfl

theorem sumItems_compact (hsplit : splitCount word = some (digits, unit)) :
    sumItems text total (word :: ws) =
      addItem text total digits unit >>= fun sum => sumItems text sum ws := by
  rw [sumItems, hsplit]
  simp only [addItem, bind_assoc]

theorem sumItems_spelled (hsplit : splitCount word = none) :
    sumItems text total (word :: unit :: ws) =
      addItem text total word unit >>= fun sum => sumItems text sum ws := by
  rw [sumItems, hsplit]
  simp only [addItem, bind_assoc]

/-! ### Words -/

/-- The words are items, one after the other, that come to so many seconds. -/
inductive Itemized : List (List Char) → Nat → Prop where
  | nil : Itemized [] 0
  /-- Digits with their unit, in one word. -/
  | compact {word digits unit : List Char} {rest : List (List Char)} {count length seconds : Nat}
    (hsplit : splitCount word = some (digits, unit)) (hcount : readCount digits = .ok count)
    (hunit : readUnit unit = .ok length) (hrest : Itemized rest seconds) :
    Itemized (word :: rest) (count * length + seconds)
  /-- A count and its unit. -/
  | spelled {word unit : List Char} {rest : List (List Char)} {count length seconds : Nat}
    (hsplit : splitCount word = none) (hcount : readCount word = .ok count)
    (hunit : readUnit unit = .ok length) (hrest : Itemized rest seconds) :
    Itemized (word :: unit :: rest) (count * length + seconds)

/-- An item ends where it ends, also if there are more of them. -/
theorem Itemized.append (h : Itemized ws m) (h' : Itemized vs n) :
    Itemized (ws ++ vs) (m + n) := by
  induction h with
  | nil => simpa using h'
  | compact hsplit hcount hunit _ ih =>
    rw [Nat.add_assoc]
    exact .compact hsplit hcount hunit ih
  | spelled hsplit hcount hunit _ ih =>
    rw [Nat.add_assoc]
    exact .spelled hsplit hcount hunit ih

/-- Items are summed up to what they come to, unless that is too long. -/
theorem sumItems_of_itemized (h : Itemized ws n) (htotal : total < UInt64.size) :
    sumItems text total ws = (ofTotal text (total + n)).map (·.seconds) := by
  induction h generalizing total with
  | nil =>
    rw [Nat.add_zero, ofTotal_of_lt htotal]
    rfl
  | compact hsplit hcount hunit _ ih =>
    rw [sumItems_compact hsplit, addItem_of_read hcount hunit, ← Nat.add_assoc]
    exact ofTotal_bind fun sum hsum => ih hsum
  | spelled hsplit hcount hunit _ ih =>
    rw [sumItems_spelled hsplit, addItem_of_read hcount hunit, ← Nat.add_assoc]
    exact ofTotal_bind fun sum hsum => ih hsum

/-- What is summed up without an error is itemized. -/
theorem itemized_of_sumItems : ∀ (ws : List (List Char)) {total : Nat},
    sumItems text total ws = .ok n → ∃ seconds, Itemized ws seconds ∧ n = total + seconds
  | [], _, h => ⟨0, .nil, (Except.ok.inj h).symm⟩
  | word :: ws, total, h => by
    -- after an item the words go on, by one or by two of them
    have hrest {number unit : List Char} {vs : List (List Char)} (hvs : vs.length ≤ ws.length)
        (h : (addItem text total number unit >>= fun sum => sumItems text sum vs) = .ok n) :
        ∃ count length seconds, readCount number = .ok count ∧ readUnit unit = .ok length ∧
          Itemized vs seconds ∧ n = total + (count * length + seconds) := by
      obtain ⟨sum, hadd, h⟩ := bind_eq_ok.1 h
      obtain ⟨count, length, hcount, hunit, rfl⟩ := addItem_eq_ok hadd
      obtain ⟨seconds, hitems, rfl⟩ := itemized_of_sumItems vs h
      exact ⟨count, length, seconds, hcount, hunit, hitems, Nat.add_assoc _ _ _⟩
    cases hsplit : splitCount word with
    | some split =>
      rw [sumItems_compact hsplit] at h
      obtain ⟨count, length, seconds, hcount, hunit, hitems, rfl⟩ := hrest (Nat.le_refl _) h
      exact ⟨_, .compact hsplit hcount hunit hitems, rfl⟩
    | none =>
      cases ws with
      | nil =>
        rw [sumItems, hsplit] at h
        obtain ⟨_, _, h⟩ := bind_eq_ok.1 h
        cases h
      | cons unit ws =>
        rw [sumItems_spelled hsplit] at h
        obtain ⟨count, length, seconds, hcount, hunit, hitems, rfl⟩ := hrest (Nat.le_succ _) h
        exact ⟨_, .spelled hsplit hcount hunit hitems, rfl⟩
termination_by ws => ws.length

/-! ### Texts -/

/-- The items of the text come to so many seconds, be they too many or not. -/
structure ComesTo (text : String) (seconds : Nat) : Prop where
  nonempty : afterEvery (significantWords text) ≠ []
  itemized : Itemized (afterEvery (significantWords text)) seconds

theorem ComesTo.parse_eq (h : ComesTo text n) : parse text = ofTotal text n := by
  have hsum : sumItems text 0 (afterEvery (significantWords text)) =
      (ofTotal text (0 + n)).map (·.seconds) := sumItems_of_itemized h.itemized (by decide)
  rw [Nat.zero_add] at hsum
  unfold parse
  split
  · rename_i hnil
    exact absurd hnil h.nonempty
  · rw [hsum]
    by_cases hn : n < UInt64.size
    · rw [ofTotal_of_lt hn]
      exact dif_pos hn
    · rw [ofTotal_of_le (by omega)]
      rfl

theorem comesTo_of_parse (h : parse text = .ok i) : ComesTo text i.seconds := by
  unfold parse at h
  split at h
  · cases h
  · rename_i hne
    split at h
    · cases h
    · rename_i n hsum
      obtain ⟨seconds, hitems, hn⟩ := itemized_of_sumItems _ hsum
      split at h <;> cases h
      rw [Nat.zero_add] at hn
      exact ⟨hne, hn ▸ hitems⟩

end SensorTasks.Interval

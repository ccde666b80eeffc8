import Mathlib.Algebra.Group.Nat.Defs
import SensorTasks.Instant.Wire

/-!
Dates as messages carry them. The date of a day has the number of that day, so the stamp of an
instant names the instant again. Its written form is read as the stamp without the digits that were
not written, as long as the year has four digits: any other year is written with a sign, which is
not read. So an instant can be sent exactly if it lies in one of the years 0 to 9999, and it arrives
without what it has below the milliseconds.
-/

namespace SensorTasks

open Calendar

/-! ### Days -/

namespace Date

/-- The search for the month of a day loses no day. -/
theorem day_monthOfDay (leap : Bool) (fuel : Nat) {month : Nat} (n : Nat) (hm : 1 ≤ month) :
    daysBeforeMonth leap (monthOfDay leap fuel month n).1 + ((monthOfDay leap fuel month n).2 - 1) =
      daysBeforeMonth leap month + n := by
  induction fuel generalizing month n with
  | zero => rfl
  | succ fuel ih =>
    obtain ⟨k, rfl⟩ : ∃ k, month = k + 1 := ⟨month - 1, by omega⟩
    simp only [monthOfDay]
    split
    · rfl
    · rename_i hn
      rw [ih (n - monthLength leap (k + 1)) (by omega), daysBeforeMonth]
      omega

theorem toDay_ofDay (n : Int) : (ofDay n).toDay = n := by
  let year := yearOfDay (n + epochDay)
  have hmonth := day_monthOfDay (isLeap year) 11
    (n + epochDay - daysBeforeYear year).toNat (Nat.le_refl 1)
  have hstart : daysBeforeMonth (isLeap year) 1 = 0 := rfl
  have hyear : daysBeforeYear year ≤ n + epochDay := (yearOfDay_spec (n + epochDay)).1
  rw [hstart] at hmonth
  have hday : (ofDay n).toDay = daysBeforeYear year +
      daysBeforeMonth (isLeap year) (monthOfDay (isLeap year) 11 1
        (n + epochDay - daysBeforeYear year).toNat).1 +
      ((monthOfDay (isLeap year) 11 1 (n + epochDay - daysBeforeYear year).toNat).2 - 1 : Nat) -
      epochDay := rfl
  omega

theorem ofParts?_self (d : Date) : ofParts? d.year d.month d.day = some d :=
  dif_pos d.valid

end Date

/-! ### Numbers -/

namespace Stamp

theorem length_padded {width n : Nat} (hw : 0 < width) (hn : n < 10 ^ width) :
    (padded width n).length = width := by
  have hlength := (Nat.length_toDigits_le_iff (by decide) hw).2 hn
  unfold padded Text.zeroPad
  rw [List.length_append, List.length_replicate]
  omega

theorem isDigit_of_mem_padded {width n : Nat} {c : Char} (hc : c ∈ padded width n) :
    c.isDigit = true := by
  rcases List.mem_append.1 hc with hc | hc
  · rw [List.eq_of_mem_replicate hc]
    rfl
  · exact Nat.isDigit_of_mem_toDigits (by decide) (by decide) hc

theorem value_padded (width n : Nat) : Nat.ofDigitChars 10 (padded width n) 0 = n := by
  unfold padded Text.zeroPad
  rw [Nat.ofDigitChars_append, Nat.ofDigitChars_replicate_zero, Nat.mul_zero,
    Nat.ofDigitChars_ten_toDigits]

end Stamp

namespace DateText

open Stamp

/-- The text does not go on with a digit. -/
def EndsNumber (cs : List Char) : Prop := ∀ c ∈ cs.head?, c.isDigit = false

theorem takeWhile_digits {ds rest : List Char} (hds : ∀ c ∈ ds, c.isDigit = true)
    (hrest : EndsNumber rest) : (ds ++ rest).takeWhile Char.isDigit = ds := by
  rw [List.takeWhile_append_of_pos hds]
  cases rest with
  | nil => simp
  | cons c rest => rw [List.takeWhile_cons_of_neg (by simp [hrest c rfl]), List.append_nil]

theorem dropWhile_digits {rest : List Char} (hrest : EndsNumber rest) :
    rest.dropWhile Char.isDigit = rest := by
  cases rest with
  | nil => rfl
  | cons c rest => rw [List.dropWhile_cons_of_neg (by simp [hrest c rfl])]

theorem EndsNumber.take {rest : List Char} (h : EndsNumber rest) (k : Nat) :
    EndsNumber (rest.take k) := by
  intro c hc
  rw [List.head?_take] at hc
  split at hc
  · cases hc
  · exact h c hc

/-- A number is read up to its last digit, or up to the last one that is wanted. -/
theorem number_padded {least most width n : Nat} {rest : List Char} (hleast : least ≤ width)
    (hw : 0 < width) (hn : n < 10 ^ width) (hsmall : width ≤ 18)
    (hmost : width = most ∨ width ≤ most ∧ EndsNumber rest) :
    number least most (padded width n ++ rest) = .ok (n, rest) := by
  have hlength := length_padded hw hn
  -- what stops the reading: enough digits, or something else than a digit
  have hstop : EndsNumber (rest.take (most - width)) := by
    rcases hmost with rfl | ⟨-, hrest⟩
    · rw [Nat.sub_self]
      exact fun c hc => by cases hc
    · exact hrest.take _
  have hdigits : ((padded width n ++ rest).take most).takeWhile Char.isDigit = padded width n := by
    rw [List.take_append, List.take_of_length_le (by omega), hlength]
    exact takeWhile_digits (fun c => isDigit_of_mem_padded) hstop
  have hfits : n < UInt64.size / 2 :=
    Nat.lt_of_lt_of_le hn (Nat.le_trans (Nat.pow_le_pow_right (by decide) hsmall) (by decide))
  have hrest : (padded width n ++ rest).drop width = rest := List.drop_left' hlength
  unfold number
  simp only [hdigits, hlength, value_padded, hrest]
  rw [if_neg (by omega), if_pos hfits]

theorem year_padded {n : Nat} (rest : List Char) (hn : n ≤ 9999) :
    number 4 4 (padded 4 n ++ rest) = .ok (n, rest) :=
  number_padded (Nat.le_refl 4) (by decide) (by omega) (by decide) (Or.inl rfl)

theorem bounded_padded {low high n : Nat} (rest : List Char) (hlow : low ≤ n) (hhigh : n ≤ high)
    (hn : n ≤ 99) : bounded low high 2 2 (padded 2 n ++ rest) = .ok (n, rest) := by
  unfold bounded
  rw [number_padded (Nat.le_refl 2) (by decide) (by omega) (by decide) (Or.inl rfl)]
  simp [hlow, hhigh]

theorem mark_self (c : Char) (cs : List Char) : mark c (c :: cs) = .ok ((), cs) :=
  if_pos rfl

/-! ### Fractions -/

/-- The digits of a fraction that are written, filled up with zeros when it is read. -/
theorem fraction_padded {width n : Nat} {rest : List Char} (hw : 0 < width) (hwidth : width ≤ 9)
    (hn : n < 10 ^ width) (hrest : EndsNumber rest) :
    fraction ('.' :: (padded width n ++ rest)) = .ok (n * Nat.pow 10 (9 - width), rest) := by
  have hread : number 1 9 (padded width n ++ rest) = .ok (n, rest) :=
    number_padded hw hw hn (by omega) (Or.inr ⟨hwidth, hrest⟩)
  have hused : (padded width n ++ rest).length - rest.length = width := by
    rw [List.length_append, length_padded hw hn, Nat.add_sub_cancel]
  unfold fraction
  simp only [hread, hused, dropWhile_digits hrest]

/-! ### Offsets -/

theorem twoDigits_padded {lead n : Nat} (rest : List Char) (hlead : n / 10 ≤ lead)
    (hn : n ≤ 99) : twoDigits lead (padded 2 n ++ rest) = .ok (n, rest) := by
  have htwo : ∀ n ≤ 99, padded 2 n = [Nat.digitChar (n / 10), Nat.digitChar (n % 10)] := by decide
  have htens : n / 10 < 10 := by omega
  have hones : n % 10 < 10 := Nat.mod_lt _ (by decide)
  rw [htwo n hn, List.cons_append, List.cons_append, List.nil_append]
  simp only [twoDigits, Nat.isDigit_digitChar, htens, hones, decide_true, Bool.and_self, if_true,
    Nat.toNat_digitChar_of_lt_ten, Nat.add_sub_cancel_left, hlead, Nat.div_add_mod']

/-- Nothing that an offset begins with could go on with the seconds. -/
theorem head_offsetChars (zulu : Bool) (off : Int) :
    ∀ c ∈ (offsetChars zulu off).head?, c.isDigit = false ∧ c ≠ '.' := by
  intro c hc
  unfold offsetChars at hc
  split at hc
  · obtain rfl : 'Z' = c := by simpa using hc
    decide
  · obtain rfl : (if off < 0 then '-' else '+') = c := by simpa using hc
    split <;> decide

/-- Hours and minutes after a sign. -/
theorem offset_signed {sign : Char} (hsign : sign = '+' ∨ sign = '-') {h m : Nat} (hh : h ≤ 99)
    (hm : m ≤ 59) : offset (mark ':') (sign :: (padded 2 h ++ ':' :: padded 2 m)) =
      .ok (if sign == '+' then (h * 3600 + m * 60 : Int) else -(h * 3600 + m * 60), []) := by
  have hhours : twoDigits 9 (padded 2 h ++ ':' :: padded 2 m) = .ok (h, ':' :: padded 2 m) :=
    twoDigits_padded _ (by omega) hh
  have hminutes : twoDigits 5 (padded 2 m) = .ok (m, []) := by
    rw [← List.append_nil (padded 2 m)]
    exact twoDigits_padded [] (by omega) (by omega)
  unfold offset
  rcases hsign with rfl | rfl <;> simp only [hhours, mark_self, hminutes] <;> rfl

/-- An offset of less than a day is read as it was written. -/
theorem offset_offsetChars (zulu : Bool) {off : Int} (hday : off.natAbs < 86400)
    (hwhole : off % 60 = 0) : offset (mark ':') (offsetChars zulu off) = .ok (off, []) := by
  unfold offsetChars
  split
  · rename_i hzulu
    obtain ⟨-, rfl⟩ : zulu = true ∧ off = 0 := by simpa using hzulu
    rfl
  · dsimp only
    rw [List.cons_append, offset_signed (by split <;> simp) (by omega) (by omega)]
    congr 2
    by_cases hwest : off < 0
    · rw [if_pos hwest, if_neg (by decide)]
      omega
    · rw [if_neg hwest, if_pos (by decide)]
      omega

end DateText

namespace Precision

/-- What is written of some nanoseconds. -/
def cut : Precision → Nat → Nat
  | seconds, _ => 0
  | millis, nano => nano / 1000000 * 1000000
  | micros, nano => nano / 1000 * 1000
  | nanos, nano => nano

theorem cut_le (p : Precision) (nano : Nat) : p.cut nano ≤ nano := by
  cases p <;> simp only [cut] <;> omega

/-- Nothing that was written is lost. -/
theorem fractionChars_cut (p : Precision) (nano : Nat) :
    Stamp.fractionChars (p.cut nano) p = Stamp.fractionChars nano p := by
  cases p with
  | seconds | nanos => rfl
  | millis | micros => simp [Stamp.fractionChars, cut]

theorem fraction_fractionChars (p : Precision) {nano : Nat} (h : nano < 1000000000)
    (rest : List Char) (hrest : DateText.EndsNumber rest) (hpoint : ∀ c ∈ rest.head?, c ≠ '.') :
    DateText.fraction (Stamp.fractionChars nano p ++ rest) = .ok (p.cut nano, rest) := by
  cases p with
  | seconds =>
    simp only [Stamp.fractionChars, List.nil_append, cut]
    unfold DateText.fraction
    split
    · exact absurd rfl (hpoint '.' rfl)
    · rfl
  | millis => exact DateText.fraction_padded (by decide) (by decide) (by omega) hrest
  | micros => exact DateText.fraction_padded (by decide) (by decide) (by omega) hrest
  | nanos => exact (DateText.fraction_padded (by decide) (by decide) h hrest).trans (by simp [cut])

end Precision

/-! ### Stamps -/

namespace Stamp

/-- The stamp without the digits that a precision leaves out. -/
def cut (p : Precision) (s : Stamp) : Stamp :=
  { s with
    nano := p.cut s.nano
    valid := by
      have h := s.valid
      have hcut := p.cut_le s.nano
      omega }

theorem chars_cut (p : Precision) (zulu : Bool) (s : Stamp) :
    (s.cut p).chars p zulu = s.chars p zulu := by
  unfold chars cut
  dsimp only
  rw [p.fractionChars_cut]

theorem monthLength_le (leap : Bool) (month : Nat) : monthLength leap month ≤ 31 := by
  unfold monthLength
  split
  · split <;> decide
  · split <;> decide

theorem stamp?_self {s : Stamp} (hoffset : s.offset.natAbs < 86400) :
    DateText.stamp? s.date.year s.date.month s.date.day s.hour s.minute s.second s.nano s.offset =
      some s := by
  have hparts : ofParts? s.date s.hour s.minute s.second s.nano s.offset = some s :=
    dif_pos s.valid
  unfold DateText.stamp?
  rw [if_pos hoffset, Date.ofParts?_self, Option.bind_some, hparts]

/-- In a year of four digits, what is written is read. -/
theorem strictStamp_chars {s : Stamp} (hyear : 0 ≤ s.date.year ∧ s.date.year ≤ 9999)
    (hoffset : s.offset.natAbs < 86400) (p : Precision) (zulu : Bool) :
    DateText.strictStamp (s.chars p zulu) = .ok (s.cut p) := by
  obtain ⟨⟨hhour, hminute, hsecond, hnano⟩, hwhole⟩ := s.valid
  obtain ⟨⟨hmonth, hmonth'⟩, hday, hday'⟩ := s.date.valid
  have hday31 := monthLength_le (isLeap s.date.year) s.date.month
  have hhead := DateText.head_offsetChars zulu s.offset
  have hfraction := p.fraction_fractionChars hnano (offsetChars zulu s.offset)
    (fun c hc => (hhead c hc).1) (fun c hc => (hhead c hc).2)
  have hread := DateText.offset_offsetChars zulu hoffset hwhole
  have hsign : (s.date.year.toNat : Int) = s.date.year := Int.toNat_of_nonneg hyear.1
  have hstamp : DateText.stamp? s.date.year s.date.month s.date.day s.hour s.minute s.second
      (p.cut s.nano) s.offset = some (s.cut p) := stamp?_self (s := s.cut p) hoffset
  have hok {α β : Type} (a : α) (f : α → Except DateError β) : (Except.ok a >>= f) = f a := rfl
  unfold chars yearChars
  rw [if_pos (by simp [hyear])]
  unfold DateText.strictStamp
  simp (disch := omega) only [List.append_assoc, List.cons_append, DateText.year_padded,
    DateText.bounded_padded, DateText.mark_self, hok, hfraction, hread, hsign]
  rw [if_pos (by decide), if_neg (by decide), hstamp]

/-- The sign of any other year is no digit. -/
theorem strictStamp_signed {s : Stamp} (hyear : ¬(0 ≤ s.date.year ∧ s.date.year ≤ 9999))
    (p : Precision) (zulu : Bool) : ∃ e, DateText.strictStamp (s.chars p zulu) = .error e := by
  have hsign : (if s.date.year < 0 then '-' else '+').isDigit = false := by split <;> rfl
  unfold chars yearChars
  rw [if_neg (by simpa using hyear)]
  unfold DateText.strictStamp
  simp only [List.cons_append, DateText.number, List.take_succ_cons,
    List.takeWhile_cons_of_neg (by simp [hsign] : ¬(if s.date.year < 0 then '-' else '+').isDigit)]
  exact ⟨_, rfl⟩

end Stamp

/-! ### Instants -/

namespace Instant

/-- The year in universal time. -/
def year (t : Instant) : Int := t.toStamp.date.year

/-- The instant lies in a year of four digits, so that a message can carry it. -/
def Sendable (t : Instant) : Prop := 0 ≤ t.year ∧ t.year ≤ 9999

instance (t : Instant) : Decidable t.Sendable := inferInstanceAs (Decidable (_ ∧ _))

/-- In a leap second the stamp has one second more, which `secondOf` does not count. -/
theorem secondOf_toStamp (t : Instant) : secondOf t.toStamp = t.second := by
  have hvalid := t.valid.1
  have hday : t.toStamp.date.toDay = t.second / 86400 := Date.toDay_ofDay _
  unfold secondOf
  rw [hday]
  simp only [toStamp]
  omega

/-- The stamp of an instant names it, leap seconds included. -/
theorem ofStamp?_cut (t : Instant) : ofStamp? (t.toStamp.cut .millis) = some t.toMillis := by
  have hvalid := t.valid.1
  have hsecond : secondOf (t.toStamp.cut .millis) = t.second := secondOf_toStamp t
  have hnano : nanoOf (t.toStamp.cut .millis) = t.nano / 1000000 * 1000000 := by
    unfold nanoOf
    split <;> rename_i hleap <;> simp only [Stamp.cut, toStamp, Precision.cut] at hleap ⊢ <;> omega
  unfold ofStamp? ofSecond?
  simp only [hsecond, hnano]
  exact dif_pos t.toMillis.valid

/-- A date is read from a message exactly if it lies in a year of four digits, and it has lost what
it had below the milliseconds. -/
theorem ofWire?_toWire (t : Instant) :
    ofWire? t.toWire = if t.Sendable then some t.toMillis else none := by
  have htext : t.toWire.toList = t.toStamp.chars .millis true := String.toList_ofList
  unfold ofWire?
  rw [htext]
  by_cases hyear : t.Sendable
  · have hwritten : (t.toStamp.cut .millis).isWritten (t.toStamp.chars .millis true) = true :=
      List.any_eq_true.2 ⟨.millis, by decide, by simp [Stamp.chars_cut]⟩
    rw [Stamp.strictStamp_chars hyear (show (0 : Int).natAbs < 86400 by decide)]
    simp only [hwritten, if_true, ofStamp?_cut, if_pos hyear]
  · obtain ⟨e, he⟩ := Stamp.strictStamp_signed hyear .millis true
    rw [he, if_neg hyear]

/-- Cutting off digits turns no two instants around. -/
theorem before_toMillis {a b : Instant} (h : a.before b = false) :
    a.toMillis.before b.toMillis = false := by
  have hbefore (m n : Instant) :
      m.before n = false ↔ n.second ≤ m.second ∧ (m.second = n.second → n.nano ≤ m.nano) := by
    simp only [before, Bool.or_eq_false_iff, Bool.and_eq_false_iff, decide_eq_false_iff_not,
      beq_eq_false_iff_ne]
    omega
  rw [hbefore] at h ⊢
  refine ⟨h.1, fun hsecond => ?_⟩
  exact Nat.mul_le_mul_right _ (Nat.div_le_div_right (h.2 hsecond))

end Instant

end SensorTasks

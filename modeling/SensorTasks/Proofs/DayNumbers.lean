import Mathlib.Data.Int.Init
import SensorTasks.Proofs.DocumentDates

/-!
The numbers of the dates. Each date has a next one, and its number is that of the date before it and
one more; as the first of January 1970 has the number 0, there is one such numbering only. So the
number that is reckoned from year, month and day counts the days from date to date.
-/

namespace SensorTasks

open Calendar

/-! ### Bounds -/

/-- All months end in their year. -/
theorem Calendar.daysBeforeMonth_add_le : ∀ leap : Bool, ∀ month ≤ 12, 1 ≤ month →
    daysBeforeMonth leap month + monthLength leap month ≤ if leap then 366 else 365 := by
  decide

namespace Date

/-- The day of a date lies in its year. -/
theorem toDay_bounds (d : Date) : daysBeforeYear d.year ≤ d.toDay + epochDay ∧
    d.toDay + epochDay < daysBeforeYear (d.year + 1) := by
  obtain ⟨⟨hmonth, hmonth'⟩, hday, hday'⟩ := d.valid
  have hyear := daysBeforeMonth_add_le (isLeap d.year) d.month hmonth' hmonth
  rw [daysBeforeYear_succ]
  unfold toDay
  cases hleap : isLeap d.year <;> simp [hleap] at hyear hday' ⊢ <;> omega

theorem toDay_eq_first_iff {d : Date} :
    d.toDay + epochDay = daysBeforeYear d.year ↔ d.month = 1 ∧ d.day = 1 := by
  obtain ⟨⟨hmonth, hmonth'⟩, hday, -⟩ := d.valid
  have hlater : ∀ leap : Bool, ∀ month ≤ 12, 1 ≤ month →
      (daysBeforeMonth leap month = 0 ↔ month = 1) := by decide
  have hmonth := hlater (isLeap d.year) d.month hmonth' hmonth
  unfold toDay
  omega

theorem toDay_eq_last_iff {d : Date} :
    d.toDay + epochDay + 1 = daysBeforeYear (d.year + 1) ↔ d.month = 12 ∧ d.day = 31 := by
  obtain ⟨⟨hmonth, hmonth'⟩, hday, hday'⟩ := d.valid
  have hlater : ∀ leap : Bool, ∀ month ≤ 12, 1 ≤ month → ∀ day ≤ monthLength leap month,
      (daysBeforeMonth leap month + day = (if leap then 366 else 365) ↔
        month = 12 ∧ day = 31) := by decide
  rw [← hlater (isLeap d.year) d.month hmonth' hmonth d.day hday', daysBeforeYear_succ]
  unfold toDay
  cases isLeap d.year <;> simp <;> omega

/-- No date of the years from 0 on lies before the first of January of the year 0. -/
theorem first_le_toDay {d : Date} (h : 0 ≤ d.year) : -719528 ≤ d.toDay ∧
    (d.toDay = -719528 ↔ d.year = 0 ∧ d.month = 1 ∧ d.day = 1) := by
  have hstart : daysBeforeYear 0 = -366 := by decide
  have hnext : daysBeforeYear 1 = 0 := by decide
  have hbounds := d.toDay_bounds
  have hfirst := d.toDay_eq_first_iff
  simp only [epochDay] at hbounds hfirst
  rcases Int.lt_or_eq_of_le h with hlater | hyear
  · have hmono : daysBeforeYear 1 ≤ daysBeforeYear d.year := daysBeforeYear_mono (by omega)
    omega
  · rw [← hyear] at hbounds hfirst ⊢
    omega

/-- No date of the years up to 9999 lies after the last of December of the year 9999. -/
theorem toDay_le_last {d : Date} (h : d.year ≤ 9999) : d.toDay ≤ 2932896 ∧
    (d.toDay = 2932896 ↔ d.year = 9999 ∧ d.month = 12 ∧ d.day = 31) := by
  have hstart : daysBeforeYear 9999 = 3651694 := by decide
  have hend : daysBeforeYear (9999 + 1) = 3652059 := by decide
  have hbounds := d.toDay_bounds
  have hlast := d.toDay_eq_last_iff
  simp only [epochDay] at hbounds hlast
  rcases Int.lt_or_eq_of_le h with hearlier | hyear
  · have hmono : daysBeforeYear (d.year + 1) ≤ daysBeforeYear 9999 :=
      daysBeforeYear_mono (by omega)
    omega
  · rw [hyear] at hbounds hlast ⊢
    omega

/-! ### Counting -/

/-- One date follows another one: in the same month, in the next one or in the next year. -/
inductive Next (d e : Date) : Prop
  | sameMonth (year : e.year = d.year) (month : e.month = d.month) (day : e.day = d.day + 1)
  | nextMonth (last : d.day = monthLength (isLeap d.year) d.month) (year : e.year = d.year)
      (month : e.month = d.month + 1) (day : e.day = 1)
  | nextYear (december : d.month = 12) (last : d.day = 31) (year : e.year = d.year + 1)
      (month : e.month = 1) (day : e.day = 1)

/-- From one date to the next it is one day. -/
theorem toDay_next {d e : Date} (h : d.Next e) : e.toDay = d.toDay + 1 := by
  obtain ⟨⟨hmonth, -⟩, hday, -⟩ := d.valid
  unfold toDay
  cases h with
  | sameMonth hyear hmonth hday =>
    rw [hyear, hmonth, hday]
    omega
  | nextMonth hlast hyear hmonth' hday' =>
    obtain ⟨k, hk⟩ : ∃ k, d.month = k + 1 := ⟨d.month - 1, by omega⟩
    rw [hyear, hmonth', hday', hk, daysBeforeMonth, ← hk]
    omega
  | nextYear hdecember hlast hyear hmonth' hday' =>
    have hlength : ∀ leap : Bool, daysBeforeMonth leap 12 = if leap then 335 else 334 := by decide
    rw [hyear, hmonth', hday', hdecember, hlast, daysBeforeYear_succ, hlength]
    split <;> simp [daysBeforeMonth] <;> omega

/-- A numbering of the dates, day by day from the first of January 1970. -/
structure Counts (number : Date → Int) : Prop where
  epoch : number ⟨1970, 1, 1, by decide⟩ = 0
  next : ∀ {d e : Date}, d.Next e → number e = number d + 1

theorem toDay_counts : Counts toDay := ⟨by decide, toDay_next⟩

/-- The search for the month of a day ends where it should. -/
theorem monthOfDay_day : ∀ leap : Bool, ∀ month ≤ 12, 1 ≤ month →
    ∀ day ≤ monthLength leap month, 1 ≤ day →
      monthOfDay leap 11 1 (daysBeforeMonth leap month + (day - 1)) = (month, day) := by
  decide

theorem ofDay_toDay (d : Date) : ofDay d.toDay = d := by
  obtain ⟨⟨hmonth, hmonth'⟩, hday, hday'⟩ := d.valid
  obtain ⟨hstart, hend⟩ := d.toDay_bounds
  have hyear : yearOfDay (d.toDay + epochDay) = d.year := by
    have hbegun : d.year ≤ yearOfDay (d.toDay + epochDay) := le_yearOfDay_iff.2 hstart
    have hnotBegun : ¬d.year + 1 ≤ yearOfDay (d.toDay + epochDay) := fun h =>
      Int.not_lt.2 (le_yearOfDay_iff.1 h) hend
    omega
  have hdays : (d.toDay + epochDay - daysBeforeYear d.year).toNat =
      daysBeforeMonth (isLeap d.year) d.month + (d.day - 1) := by
    unfold toDay
    omega
  have hparts := monthOfDay_day (isLeap d.year) d.month hmonth' hmonth d.day hday' hday
  unfold ofDay
  simp only [hyear, hdays, hparts]

theorem exists_next (d : Date) : ∃ e, d.Next e := by
  obtain ⟨⟨hmonth, hmonth'⟩, hday, hday'⟩ := d.valid
  have hlength : ∀ leap : Bool, ∀ month ≤ 12, 1 ≤ month → 1 ≤ monthLength leap month := by decide
  have hdecember : ∀ leap : Bool, monthLength leap 12 = 31 := by decide
  by_cases hlast : d.day = monthLength (isLeap d.year) d.month
  · by_cases hdec : d.month = 12
    · exact ⟨⟨d.year + 1, 1, 1, by simp [monthLength]⟩,
        .nextYear hdec (by rw [hlast, hdec, hdecember]) rfl rfl rfl⟩
    · exact ⟨⟨d.year, d.month + 1, 1, by omega, by omega, hlength _ _ (by omega) (by omega)⟩,
        .nextMonth hlast rfl rfl rfl⟩
  · exact ⟨⟨d.year, d.month, d.day + 1, ⟨hmonth, hmonth'⟩, by omega, by omega⟩,
      .sameMonth rfl rfl rfl⟩

theorem next_ofDay (n : Int) : (ofDay n).Next (ofDay (n + 1)) := by
  obtain ⟨e, he⟩ := (ofDay n).exists_next
  have hday := toDay_next he
  rw [toDay_ofDay] at hday
  rwa [← hday, ofDay_toDay]

/-- There is no other numbering: it is the same on the first of January 1970, and goes on from there
in the same way, forwards and backwards. -/
theorem Counts.eq_toDay {number : Date → Int} (h : Counts number) (d : Date) :
    number d = d.toDay := by
  have hday (n : Int) : number (ofDay n) = n := by
    induction n using Int.induction_on with
    | zero => exact h.epoch
    | succ n ih => rw [h.next (next_ofDay n), ih]
    | pred n ih =>
      have hnext := h.next (next_ofDay (-n - 1))
      rw [Int.sub_add_cancel, ih] at hnext
      omega
  rw [← hday d.toDay, ofDay_toDay]

end Date

end SensorTasks

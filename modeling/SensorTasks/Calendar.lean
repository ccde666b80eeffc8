/-!
The Gregorian calendar, continued in both directions: dates and their numbers, counted from the
first of January 1970. The number of a date is the days before its year, before its month and
before it; the date of a number is found the same way, from the year down.
-/

namespace SensorTasks

namespace Calendar

def isLeap (year : Int) : Bool :=
  year % 4 == 0 && (year % 100 != 0 || year % 400 == 0)

def monthLength (leap : Bool) (month : Nat) : Nat :=
  if month == 2 then (if leap then 29 else 28)
  else if month == 4 || month == 6 || month == 9 || month == 11 then 30
  else 31

/-- The days of the years before `year`, counted from year 1. -/
def daysBeforeYear (year : Int) : Int :=
  let y := year - 1
  365 * y + y / 4 - y / 100 + y / 400

/-- The days of the months before `month` in its year. -/
def daysBeforeMonth (leap : Bool) : Nat → Nat
  | 0 => 0
  | 1 => 0
  | month + 2 => daysBeforeMonth leap (month + 1) + monthLength leap (month + 1)

/-- The first of January 1970, counted from year 1. -/
def epochDay : Int := 719162

/-- The year that has the day `n`, counted from year 1. -/
def yearOfDay (n : Int) : Int :=
  let guess := n * 400 / 146097 + 1
  if n < daysBeforeYear guess then guess - 1
  else if daysBeforeYear (guess + 1) ≤ n then guess + 1
  else guess

/-- The month and the day in it of the `n`-th day of a year, starting the search at `month`. -/
def monthOfDay (leap : Bool) : (fuel month n : Nat) → Nat × Nat
  | 0, month, n => (month, n + 1)
  | fuel + 1, month, n =>
    if n < monthLength leap month then (month, n + 1)
    else monthOfDay leap fuel (month + 1) (n - monthLength leap month)

theorem daysBeforeYear_succ (year : Int) :
    daysBeforeYear (year + 1) = daysBeforeYear year + if isLeap year then 366 else 365 := by
  cases h : isLeap year
  all_goals
    simp [isLeap] at h
    simp [daysBeforeYear]
    omega

theorem yearOfDay_spec (n : Int) :
    daysBeforeYear (yearOfDay n) ≤ n ∧ n < daysBeforeYear (yearOfDay n + 1) := by
  simp only [yearOfDay]
  split
  · rename_i h
    simp only [daysBeforeYear] at h ⊢
    omega
  · split
    · rename_i h
      simp only [daysBeforeYear] at h ⊢
      omega
    · omega

end Calendar

open Calendar

structure Date where
  year : Int
  month : Nat
  day : Nat
  valid : (1 ≤ month ∧ month ≤ 12) ∧ 1 ≤ day ∧ day ≤ monthLength (isLeap year) month
  deriving DecidableEq

namespace Date

def ofParts? (year : Int) (month day : Nat) : Option Date :=
  if h : (1 ≤ month ∧ month ≤ 12) ∧ 1 ≤ day ∧ day ≤ monthLength (isLeap year) month then
    some ⟨year, month, day, h⟩
  else none

/-- The days from the first of January 1970 to `d`. -/
def toDay (d : Date) : Int :=
  daysBeforeYear d.year + daysBeforeMonth (isLeap d.year) d.month + (d.day - 1 : Nat) - epochDay

theorem monthOfDay_valid (leap : Bool) (fuel month n : Nat) (hm : 1 ≤ month)
    (hf : month + fuel = 12)
    (hn : n + daysBeforeMonth leap month < if leap then 366 else 365) :
    (1 ≤ (monthOfDay leap fuel month n).1 ∧ (monthOfDay leap fuel month n).1 ≤ 12) ∧
      1 ≤ (monthOfDay leap fuel month n).2 ∧
      (monthOfDay leap fuel month n).2 ≤ monthLength leap (monthOfDay leap fuel month n).1 := by
  induction fuel generalizing month n with
  | zero =>
    have : month = 12 := by omega
    subst this
    cases leap <;> simp [daysBeforeMonth, monthLength, monthOfDay] at hn ⊢ <;> omega
  | succ fuel ih =>
    simp only [monthOfDay]
    split
    · rename_i h
      dsimp only
      omega
    · rename_i h
      refine ih (month + 1) _ (by omega) (by omega) ?_
      match month, hm with
      | month + 1, _ =>
        simp only [daysBeforeMonth] at hn ⊢
        omega

/-- The date of a day counted from the first of January 1970. -/
def ofDay (n : Int) : Date :=
  let year := yearOfDay (n + epochDay)
  let md := monthOfDay (isLeap year) 11 1 (n + epochDay - daysBeforeYear year).toNat
  { year := year
    month := md.1
    day := md.2
    valid := by
      refine monthOfDay_valid _ 11 1 _ (by omega) rfl ?_
      have h := yearOfDay_spec (n + epochDay)
      rw [daysBeforeYear_succ] at h
      have e : daysBeforeMonth (isLeap year) 1 = 0 := rfl
      rw [e]
      split at h <;> rename_i hl <;> simp only [year, hl] <;> simp <;> omega }

end Date

end SensorTasks

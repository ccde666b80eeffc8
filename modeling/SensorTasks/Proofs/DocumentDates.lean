import SensorTasks.Instant.Codec
import SensorTasks.Proofs.WireDates

/-!
Dates as documents carry them. The patient reader takes every date that is written: the years with a
sign and more than four digits as well as the others, leap seconds, and fractions of any length. As
no digit of an instant is left out, it is read as itself.
-/

namespace SensorTasks

open Calendar

/-! ### Years -/

theorem Calendar.daysBeforeYear_mono {a b : Int} (h : a ≤ b) :
    daysBeforeYear a ≤ daysBeforeYear b := by
  simp only [daysBeforeYear]
  omega

/-- The year of a day is the last one that has begun. -/
theorem Calendar.le_yearOfDay_iff {year n : Int} :
    year ≤ yearOfDay n ↔ daysBeforeYear year ≤ n := by
  obtain ⟨hle, hlt⟩ := yearOfDay_spec n
  constructor
  · exact fun h => Int.le_trans (daysBeforeYear_mono h) hle
  · refine fun h => Int.not_lt.1 fun hlater => ?_
    have hmono : daysBeforeYear (yearOfDay n + 1) ≤ daysBeforeYear year :=
      daysBeforeYear_mono hlater
    omega

namespace Instant

theorem le_year_iff (t : Instant) (year : Int) :
    year ≤ t.year ↔ daysBeforeYear year ≤ t.second / 86400 + epochDay :=
  le_yearOfDay_iff

/-- The years that instants lie in. -/
theorem year_bounds (t : Instant) : -262143 ≤ t.year ∧ t.year ≤ 262142 := by
  obtain ⟨-, hfirst, hlast⟩ := t.valid
  have hstart : daysBeforeYear (-262143) = -95746130 := by decide
  have hend : daysBeforeYear 262143 = 95745399 := by decide
  have hlow := t.le_year_iff (-262143)
  have hhigh := t.le_year_iff 262143
  simp only [firstSecond, lastSecond] at hfirst hlast
  simp only [hstart, hend, epochDay] at hlow hhigh
  omega

end Instant

namespace DateText

open Stamp

theorem skipBlanks_of_head {cs : List Char} (h : ∀ c ∈ cs.head?, Text.isBlank c = false) :
    skipBlanks cs = cs := by
  cases cs with
  | nil => rfl
  | cons c cs => exact List.dropWhile_cons_of_neg (by simp [h c rfl])

/-- A number begins with a digit. -/
theorem head_padded {width n : Nat} (hw : 0 < width) (hn : n < 10 ^ width) (rest : List Char) :
    ∀ c ∈ (padded width n ++ rest).head?, c.isDigit = true := by
  intro c hc
  have hlength := length_padded hw hn
  cases h : padded width n with
  | nil =>
    rw [h, List.length_nil] at hlength
    omega
  | cons d ds =>
    rw [h] at hc
    obtain rfl : d = c := by simpa using hc
    exact isDigit_of_mem_padded (h ▸ List.mem_cons_self)

/-- No blank stands before a number. -/
theorem skipBlanks_padded {width n : Nat} (hw : 0 < width) (hn : n < 10 ^ width)
    (rest : List Char) : skipBlanks (padded width n ++ rest) = padded width n ++ rest :=
  skipBlanks_of_head fun c hc => Text.isBlank_of_isDigit (head_padded hw hn rest c hc)

/-- A number of two digits, of which one would do. -/
theorem short_padded {low high n : Nat} (rest : List Char) (hlow : low ≤ n) (hhigh : n ≤ high)
    (hn : n ≤ 99) : short low high (padded 2 n ++ rest) = .ok (n, rest) := by
  unfold short bounded
  rw [skipBlanks_padded (by decide) (by omega),
    number_padded (by decide) (by decide) (by omega) (by decide) (Or.inl rfl)]
  simp [hlow, hhigh]

theorem spacedMark_self {c : Char} (hc : Text.isBlank c = false) (cs : List Char) :
    spacedMark c (c :: cs) = .ok ((), cs) := by
  unfold spacedMark
  rw [skipBlanks_of_head (by simpa using hc), mark_self]

/-- A number is written with as many digits as it has, or with four. -/
theorem exists_width {n : Nat} (hn : n < 1000000) :
    ∃ width, 4 ≤ width ∧ width ≤ 6 ∧ n < 10 ^ width ∧ padded 4 n = padded width n := by
  have hlength : (Nat.toDigits 10 n).length ≤ 6 :=
    (Nat.length_toDigits_le_iff (by decide) (by decide)).2 hn
  let width := max 4 (Nat.toDigits 10 n).length
  have hfits : n < 10 ^ width :=
    (Nat.length_toDigits_le_iff (by decide) (by omega)).1 (Nat.le_max_right 4 _)
  refine ⟨width, Nat.le_max_left 4 _, by omega, hfits, ?_⟩
  have hzeros : 4 - (Nat.toDigits 10 n).length = width - (Nat.toDigits 10 n).length := by omega
  unfold padded Text.zeroPad
  rw [hzeros]

/-- After a sign as many digits are taken as there are. -/
theorem signedYear_signed (negative : Bool) {n : Nat} {ds rest : List Char}
    (hread : number 1 ds.length ds = .ok (n, rest)) (hn : n < 1000000) :
    signedYear ((if negative then '-' else '+') :: ds) =
      .ok (if negative then -n else n, rest) := by
  unfold signedYear
  cases negative with
  | true =>
    have hskip : skipBlanks ('-' :: ds) = '-' :: ds := skipBlanks_of_head (by simp; decide)
    have hrange : -2147483648 ≤ -(n : Int) ∧ -(n : Int) ≤ 2147483647 := by omega
    simp [hskip, hread, hrange]
  | false =>
    have hskip : skipBlanks ('+' :: ds) = '+' :: ds := skipBlanks_of_head (by simp; decide)
    have hrange : -2147483648 ≤ (n : Int) ∧ (n : Int) ≤ 2147483647 := by omega
    simp [hskip, hread, hrange]

/-- Without a sign four digits are taken at most. -/
theorem signedYear_padded {n : Nat} (hn : n < 10 ^ 4) (rest : List Char) :
    signedYear (padded 4 n ++ rest) = .ok (n, rest) := by
  have hread : number 1 4 (padded 4 n ++ rest) = .ok (n, rest) :=
    number_padded (by decide) (by decide) hn (by decide) (Or.inl rfl)
  have hrange : -2147483648 ≤ (n : Int) ∧ (n : Int) ≤ 2147483647 := by omega
  have hdigit {c : Char} {ds : List Char} (h : padded 4 n ++ rest = c :: ds) : c.isDigit = true :=
    head_padded (by decide) hn rest c (by simp [h])
  unfold signedYear
  simp only [skipBlanks_padded (by decide) hn]
  split
  · rename_i h
    exact absurd (hdigit h) (by decide)
  · rename_i h
    exact absurd (hdigit h) (by decide)
  · simp [hread, hrange]

/-- Every year of an instant is read, with its sign if it has one. -/
theorem signedYear_yearChars {year : Int} (hlow : -262143 ≤ year) (hhigh : year ≤ 262142)
    {rest : List Char} (hrest : EndsNumber rest) :
    signedYear (yearChars year ++ rest) = .ok (year, rest) := by
  unfold yearChars
  by_cases hyear : 0 ≤ year ∧ year ≤ 9999
  · have hfour : year.toNat < 10 ^ 4 := Nat.lt_of_le_of_lt (Int.toNat_le_toNat hyear.2) (by decide)
    rw [if_pos (by simp [hyear]), signedYear_padded hfour, Int.toNat_of_nonneg hyear.1]
  · have hsmall : year.natAbs < 1000000 := by omega
    obtain ⟨width, hfour, hsix, hfits, hdigits⟩ := exists_width hsmall
    have hread : number 1 (padded width year.natAbs ++ rest).length
        (padded width year.natAbs ++ rest) = .ok (year.natAbs, rest) := by
      refine number_padded (by omega) (by omega) hfits (by omega) (Or.inr ⟨?_, hrest⟩)
      rw [List.length_append, length_padded (by omega) hfits]
      omega
    have hvalue : (if year < 0 then -(year.natAbs : Int) else year.natAbs) = year := by omega
    have hsigned := signedYear_signed (decide (year < 0)) hread hsmall
    simp only [decide_eq_true_eq, hvalue] at hsigned
    rw [if_neg (by simpa using hyear), hdigits, List.cons_append, hsigned]

end DateText

/-! ### Stamps -/

namespace Precision

/-- The shortest form leaves out nothing but zeros. -/
theorem cut_exact (nano : Nat) : (exact nano).cut nano = nano := by
  unfold exact
  split
  · rename_i h
    simp only [beq_iff_eq] at h
    exact h.symm
  · split
    · rename_i h
      simp only [beq_iff_eq] at h
      simp only [cut]
      omega
    · split
      · rename_i h
        simp only [beq_iff_eq] at h
        simp only [cut]
        omega
      · rfl

end Precision

namespace Stamp

theorem cut_of_eq {p : Precision} {s : Stamp} (h : p.cut s.nano = s.nano) : s.cut p = s := by
  unfold cut
  simp only [h]

/-- In universal time, whatever is written of a stamp is read. -/
theorem documentDate_chars {s : Stamp} (hlow : -262143 ≤ s.date.year)
    (hhigh : s.date.year ≤ 262142) (hoffset : s.offset = 0) {p : Precision} {t : Instant}
    (ht : Instant.ofStamp? (s.cut p) = some t) :
    DateText.documentDate (s.chars p true) = .ok t := by
  obtain ⟨⟨hhour, hminute, hsecond, hnano⟩, -⟩ := s.valid
  obtain ⟨⟨hmonth, hmonth'⟩, hday, hday'⟩ := s.date.valid
  have hday31 := monthLength_le (isLeap s.date.year) s.date.month
  have hfraction := p.fraction_fractionChars hnano ['Z'] (by simp [DateText.EndsNumber]) (by simp)
  have hoffsetChars : offsetChars true s.offset = ['Z'] := by
    rw [hoffset]
    rfl
  have hyear (rest : List Char) : DateText.signedYear (yearChars s.date.year ++ '-' :: rest) =
      .ok (s.date.year, '-' :: rest) :=
    DateText.signedYear_yearChars hlow hhigh (by simp [DateText.EndsNumber])
  have hdash := fun cs => DateText.spacedMark_self (show Text.isBlank '-' = false by decide) cs
  have hcolon := fun cs => DateText.spacedMark_self (show Text.isBlank ':' = false by decide) cs
  have hseparator (cs : List Char) : DateText.separator ('T' :: cs) = .ok ((), cs) := rfl
  have hzone : DateText.namedOffset (DateText.skipBlanks ['Z']) = .ok (0, []) := rfl
  have hstamp : DateText.stamp? s.date.year s.date.month s.date.day s.hour s.minute s.second
      (p.cut s.nano) 0 = some (s.cut p) := by
    rw [← hoffset]
    exact stamp?_self (s := s.cut p) (show s.offset.natAbs < 86400 by omega)
  have hok {α β : Type} (a : α) (f : α → Except DateError β) : (Except.ok a >>= f) = f a := rfl
  unfold chars
  rw [hoffsetChars]
  unfold DateText.documentDate
  simp (disch := omega) only [List.append_assoc, List.cons_append, hyear, hdash, hcolon,
    DateText.short_padded, hseparator, hok, hfraction, hzone]
  rw [if_neg (by decide), if_neg (by simp; omega), hstamp]
  simp only [ht]

end Stamp

/-! ### Instants -/

namespace Instant

open Json

theorem ofStamp?_toStamp (t : Instant) : ofStamp? t.toStamp = some t := by
  have hvalid := t.valid.1
  have hnano : nanoOf t.toStamp = t.nano := by
    unfold nanoOf
    split <;> rename_i hleap <;> simp only [toStamp] at hleap ⊢ <;> omega
  unfold ofStamp? ofSecond?
  simp only [secondOf_toStamp, hnano]
  exact dif_pos t.valid

/-- A date that was written into a document is read as itself. -/
theorem parse_render (t : Instant) : parse t.render = .ok t := by
  have htext : t.render.toList = t.toStamp.chars (.exact t.toStamp.nano) true :=
    String.toList_ofList
  have hwhole := Stamp.cut_of_eq (Precision.cut_exact t.toStamp.nano)
  obtain ⟨hlow, hhigh⟩ := t.year_bounds
  unfold parse
  rw [htext]
  exact Stamp.documentDate_chars hlow hhigh rfl (by rw [hwhole, ofStamp?_toStamp])

-- A leap second in a year of five digits.
example : (⟨253433923199, 1000000001, by decide⟩ : Instant).render =
    "+10000-12-31T23:59:60.000000001Z" := by rfl

end Instant

end SensorTasks

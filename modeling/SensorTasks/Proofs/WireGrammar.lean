import Mathlib.Data.List.Induction
import SensorTasks.Proofs.DayNumbers

/-!
The dates that messages carry, as a grammar: a year of four digits, a date that exists, a time of
day that may be a leap second, a fraction of three, six or nine digits or none, and `Z` or an offset
of less than a day. Reading accepts exactly what the grammar spells: what is spelled is a written
form of its stamp that leaves nothing out, and conversely the stamp that was read and is written
again must be the one that was spelled.
-/

namespace SensorTasks

open Calendar

/-! ### Numerals -/

/-- The number `n` is written with `width` digits. -/
structure Numeral (width n : Nat) (cs : List Char) : Prop where
  length : cs.length = width
  digits : ∀ c ∈ cs, c.isDigit = true
  value : Nat.ofDigitChars 10 cs 0 = n

namespace Numeral

theorem value_append (cs : List Char) (c : Char) :
    Nat.ofDigitChars 10 (cs ++ [c]) 0 = 10 * Nat.ofDigitChars 10 cs 0 + (c.toNat - 48) := by
  rw [Nat.ofDigitChars_append, Nat.ofDigitChars_cons, Nat.ofDigitChars_nil]
  rfl

theorem value_lt {cs : List Char} (h : ∀ c ∈ cs, c.isDigit = true) :
    Nat.ofDigitChars 10 cs 0 < 10 ^ cs.length := by
  induction cs using List.reverseRecOn with
  | nil => exact Nat.one_pos
  | append_singleton cs c ih =>
    obtain ⟨hcs, hc⟩ := List.forall_mem_append.1 h
    have hbound := Text.toNat_of_isDigit (hc c List.mem_cons_self)
    have hlater := ih hcs
    rw [value_append, List.length_append, List.length_singleton, Nat.pow_succ]
    omega

/-- The digits are those of the number, so as many digits are of one number only. -/
theorem eq_of_value {cs ds : List Char} (hcs : ∀ c ∈ cs, c.isDigit = true)
    (hds : ∀ c ∈ ds, c.isDigit = true) (hlength : cs.length = ds.length)
    (hvalue : Nat.ofDigitChars 10 cs 0 = Nat.ofDigitChars 10 ds 0) : cs = ds := by
  induction cs using List.reverseRecOn generalizing ds with
  | nil => exact (List.eq_nil_of_length_eq_zero hlength.symm).symm
  | append_singleton cs c ih =>
    rcases List.eq_nil_or_concat ds with rfl | ⟨rest, d, rfl⟩
    · simp at hlength
    · rw [List.concat_eq_append] at hds hlength hvalue ⊢
      obtain ⟨hfirst, hc⟩ := List.forall_mem_append.1 hcs
      obtain ⟨hrest, hd⟩ := List.forall_mem_append.1 hds
      have hboundc := Text.toNat_of_isDigit (hc c List.mem_cons_self)
      have hboundd := Text.toNat_of_isDigit (hd d List.mem_cons_self)
      rw [value_append, value_append] at hvalue
      rw [List.length_append, List.length_append, List.length_singleton, List.length_singleton]
        at hlength
      have hlast : c = d := Char.toNat_inj.1 (by omega)
      rw [ih hfirst hrest (by omega) (by omega), hlast]

end Numeral

theorem numeral_padded {width n : Nat} (hw : 0 < width) (hn : n < 10 ^ width) :
    Numeral width n (Stamp.padded width n) :=
  ⟨Stamp.length_padded hw hn, fun _ => Stamp.isDigit_of_mem_padded, Stamp.value_padded width n⟩

/-- A number has one numeral of each width that it fits into. -/
theorem numeral_iff {width n : Nat} (hw : 0 < width) {cs : List Char} :
    Numeral width n cs ↔ n < 10 ^ width ∧ cs = Stamp.padded width n := by
  constructor
  · rintro ⟨rfl, hdigits, rfl⟩
    have hn := Numeral.value_lt hdigits
    obtain ⟨hlength, hdigits', hvalue⟩ := numeral_padded hw hn
    exact ⟨hn, Numeral.eq_of_value hdigits hdigits' hlength.symm hvalue.symm⟩
  · rintro ⟨hn, rfl⟩
    exact numeral_padded hw hn

/-! ### Spelling -/

/-- A fraction of a second, in nanoseconds: none, or three, six or nine digits after a point. -/
inductive Fraction : Nat → List Char → Prop
  | none : Fraction 0 []
  | millis {n : Nat} {ds : List Char} (digits : Numeral 3 n ds) :
      Fraction (n * 1000000) ('.' :: ds)
  | micros {n : Nat} {ds : List Char} (digits : Numeral 6 n ds) :
      Fraction (n * 1000) ('.' :: ds)
  | nanos {n : Nat} {ds : List Char} (digits : Numeral 9 n ds) : Fraction n ('.' :: ds)

/-- An offset in seconds: `Z`, or a sign with hours and minutes. Nothing lies to the west of
universal time by no time at all. -/
inductive Zone : Int → List Char → Prop
  | zulu : Zone 0 ['Z']
  | east {h m : Nat} {hours minutes : List Char} (hour : Numeral 2 h hours) (hour_le : h ≤ 23)
      (minute : Numeral 2 m minutes) (minute_le : m ≤ 59) :
      Zone (h * 3600 + m * 60) ('+' :: hours ++ ':' :: minutes)
  | west {h m : Nat} {hours minutes : List Char} (hour : Numeral 2 h hours) (hour_le : h ≤ 23)
      (minute : Numeral 2 m minutes) (minute_le : m ≤ 59) (some : h ≠ 0 ∨ m ≠ 0) :
      Zone (-(h * 3600 + m * 60)) ('-' :: hours ++ ':' :: minutes)

/-- A date of a message, character by character. That the date exists, and that hours, minutes and
seconds are at most 23, 59 and 60, is part of the stamp. -/
inductive Spells (s : Stamp) : List Char → Prop
  | intro {y : Nat} {year month day hour minute second fraction zone : List Char}
      (year_eq : s.date.year = y)
      (year_spelled : Numeral 4 y year)
      (month_spelled : Numeral 2 s.date.month month)
      (day_spelled : Numeral 2 s.date.day day)
      (hour_spelled : Numeral 2 s.hour hour)
      (minute_spelled : Numeral 2 s.minute minute)
      (second_spelled : Numeral 2 s.second second)
      (fraction_spelled : Fraction s.nano fraction)
      (zone_spelled : Zone s.offset zone) :
      Spells s (year ++ '-' :: month ++ '-' :: day ++ 'T' :: hour ++ ':' :: minute ++
        ':' :: second ++ fraction ++ zone)

/-- A fraction is spelled as it is written in one of the precisions that leave nothing out. -/
theorem fraction_iff {nano : Nat} (hnano : nano < 1000000000) {cs : List Char} :
    Fraction nano cs ↔ ∃ p : Precision, cs = Stamp.fractionChars nano p ∧ p.cut nano = nano := by
  constructor
  · rintro (- | h | h | h)
    · exact ⟨.seconds, rfl, rfl⟩
    · obtain ⟨-, rfl⟩ := (numeral_iff (by decide)).1 h
      exact ⟨.millis, by simp [Stamp.fractionChars], by simp [Precision.cut]⟩
    · obtain ⟨-, rfl⟩ := (numeral_iff (by decide)).1 h
      exact ⟨.micros, by simp [Stamp.fractionChars], by simp [Precision.cut]⟩
    · obtain ⟨-, rfl⟩ := (numeral_iff (by decide)).1 h
      exact ⟨.nanos, rfl, rfl⟩
  · rintro ⟨p, rfl, hcut⟩
    rw [← hcut]
    cases p with
    | seconds => exact .none
    | millis =>
      have hdigits : Numeral 3 (nano / 1000000) (Stamp.padded 3 (nano / 1000000)) :=
        numeral_padded (by decide) (by omega)
      simpa [Stamp.fractionChars, Precision.cut] using Fraction.millis hdigits
    | micros =>
      have hdigits : Numeral 6 (nano / 1000) (Stamp.padded 6 (nano / 1000)) :=
        numeral_padded (by decide) (by omega)
      simpa [Stamp.fractionChars, Precision.cut] using Fraction.micros hdigits
    | nanos => exact .nanos (numeral_padded (by decide) hnano)

/-- An offset is spelled as it is written, with `Z` or without. -/
theorem zone_iff {off : Int} {cs : List Char} : Zone off cs ↔
    (off.natAbs < 86400 ∧ off % 60 = 0) ∧ ∃ zulu, cs = Stamp.offsetChars zulu off := by
  constructor
  · rintro (- | @⟨h, m, _, _, hour, hhour, minute, hminute⟩ |
      @⟨h, m, _, _, hour, hhour, minute, hminute, hsome⟩)
    · exact ⟨by decide, true, rfl⟩
    · obtain ⟨-, rfl⟩ := (numeral_iff (by decide)).1 hour
      obtain ⟨-, rfl⟩ := (numeral_iff (by decide)).1 minute
      have hhours : ((h : Int) * 3600 + m * 60).natAbs / 60 / 60 = h := by omega
      have hminutes : ((h : Int) * 3600 + m * 60).natAbs / 60 % 60 = m := by omega
      have hsign : ¬((h : Int) * 3600 + m * 60 < 0) := by omega
      refine ⟨by omega, false, ?_⟩
      simp [Stamp.offsetChars, hhours, hminutes, hsign]
    · obtain ⟨-, rfl⟩ := (numeral_iff (by decide)).1 hour
      obtain ⟨-, rfl⟩ := (numeral_iff (by decide)).1 minute
      have hhours : (-((h : Int) * 3600 + m * 60)).natAbs / 60 / 60 = h := by omega
      have hminutes : (-((h : Int) * 3600 + m * 60)).natAbs / 60 % 60 = m := by omega
      have hsign : -((h : Int) * 3600 + m * 60) < 0 := by omega
      refine ⟨by omega, false, ?_⟩
      simp only [Stamp.offsetChars, hhours, hminutes, hsign, Bool.false_and, Bool.false_eq_true,
        if_false, if_true]
  · rintro ⟨⟨hday, hwhole⟩, zulu, rfl⟩
    unfold Stamp.offsetChars
    split
    · rename_i hzulu
      obtain ⟨-, rfl⟩ : zulu = true ∧ off = 0 := by simpa using hzulu
      exact .zulu
    · have hhour : Numeral 2 (off.natAbs / 60 / 60) _ := numeral_padded (by decide) (by omega)
      have hminute : Numeral 2 (off.natAbs / 60 % 60) _ := numeral_padded (by decide) (by omega)
      dsimp only
      split
      · have hoff : off = -(((off.natAbs / 60 / 60 : Nat) : Int) * 3600 +
            (off.natAbs / 60 % 60 : Nat) * 60) := by omega
        have hzone := Zone.west hhour (by omega) hminute (by omega) (by omega)
        rwa [← hoff] at hzone
      · have hoff : off = ((off.natAbs / 60 / 60 : Nat) : Int) * 3600 +
            (off.natAbs / 60 % 60 : Nat) * 60 := by omega
        have hzone := Zone.east hhour (by omega) hminute (by omega)
        rwa [← hoff] at hzone

/-- What is spelled is a written form of its stamp, in a year of four digits, that leaves nothing
out. -/
theorem spells_iff {s : Stamp} {cs : List Char} : Spells s cs ↔
    ((0 ≤ s.date.year ∧ s.date.year ≤ 9999) ∧ s.offset.natAbs < 86400) ∧
      ∃ p zulu, cs = s.chars p zulu ∧ s.cut p = s := by
  obtain ⟨⟨hhour, hminute, hsecond, hnano⟩, hwhole⟩ := s.valid
  obtain ⟨⟨-, hmonth⟩, -, hday⟩ := s.date.valid
  have hday31 := Stamp.monthLength_le (isLeap s.date.year) s.date.month
  constructor
  · rintro @⟨y, _, _, _, _, _, _, _, _, hy, year, month, day, hour, minute, second, hfraction,
      hzone⟩
    obtain ⟨hfour, rfl⟩ := (numeral_iff (by decide)).1 year
    obtain ⟨-, rfl⟩ := (numeral_iff (by decide)).1 month
    obtain ⟨-, rfl⟩ := (numeral_iff (by decide)).1 day
    obtain ⟨-, rfl⟩ := (numeral_iff (by decide)).1 hour
    obtain ⟨-, rfl⟩ := (numeral_iff (by decide)).1 minute
    obtain ⟨-, rfl⟩ := (numeral_iff (by decide)).1 second
    obtain ⟨p, rfl, hcut⟩ := (fraction_iff hnano).1 hfraction
    obtain ⟨⟨hoffset, -⟩, zulu, rfl⟩ := zone_iff.1 hzone
    have hyear : 0 ≤ s.date.year ∧ s.date.year ≤ 9999 := by omega
    have hchars : Stamp.yearChars s.date.year = Stamp.padded 4 y := by
      rw [Stamp.yearChars, if_pos (by simp [hyear]), hy]
      rfl
    exact ⟨⟨hyear, hoffset⟩, p, zulu, by rw [Stamp.chars, hchars], Stamp.cut_of_eq hcut⟩
  · rintro ⟨⟨hyear, hoffset⟩, p, zulu, rfl, hcut⟩
    have hchars : Stamp.yearChars s.date.year = Stamp.padded 4 s.date.year.toNat :=
      if_pos (by simp [hyear])
    have htwo {n : Nat} (hn : n < 100) : Numeral 2 n (Stamp.padded 2 n) :=
      numeral_padded (by decide) hn
    rw [Stamp.chars, hchars]
    exact .intro (Int.toNat_of_nonneg hyear.1).symm (numeral_padded (by decide) (by omega))
      (htwo (by omega)) (htwo (by omega)) (htwo (by omega)) (htwo (by omega)) (htwo (by omega))
      ((fraction_iff hnano).2 ⟨p, rfl, congrArg Stamp.nano hcut⟩)
      (zone_iff.2 ⟨⟨hoffset, hwhole⟩, zulu, rfl⟩)

/-! ### Reading -/

namespace DateText

/-- A stamp whose offset is a day or more is not made. -/
theorem offset_of_stamp? {year : Int} {month day hour minute second nano : Nat} {off : Int}
    {s : Stamp} (h : stamp? year month day hour minute second nano off = some s) :
    s.offset.natAbs < 86400 := by
  unfold stamp? at h
  split at h
  · rename_i hday
    obtain ⟨d, -, hparts⟩ := Option.bind_eq_some_iff.1 h
    unfold Stamp.ofParts? at hparts
    split at hparts
    · obtain rfl := Option.some.inj hparts
      exact hday
    · cases hparts
  · cases h

/-- Nor is it read, as the stamp is made at the end, of whatever was read before. -/
theorem offset_of_strictStamp {cs : List Char} {s : Stamp} (h : strictStamp cs = .ok s) :
    s.offset.natAbs < 86400 := by
  have hlater {α : Type} {x : Except DateError α} {f : α → Except DateError Stamp}
      (hf : ∀ a, f a = .ok s → s.offset.natAbs < 86400) :
      (x >>= f) = .ok s → s.offset.natAbs < 86400 := by
    cases x with
    | error e =>
      intro h
      cases h
    | ok a => exact hf a
  revert h
  unfold strictStamp
  refine hlater fun _ => hlater fun _ => hlater fun _ => hlater fun _ => hlater fun _ => ?_
  dsimp only
  split
  · intro h
    cases h
  · split
    · refine hlater fun _ => hlater fun _ => hlater fun _ => hlater fun _ => hlater fun _ =>
        hlater fun _ => hlater fun _ => hlater fun _ => ?_
      split
      · intro h
        cases h
      · split
        · rename_i hstamp
          exact fun h => offset_of_stamp? (Except.ok.inj h ▸ hstamp)
        · intro h
          cases h
    · intro h
      cases h

end DateText

theorem Stamp.isWritten_iff {s : Stamp} {cs : List Char} :
    s.isWritten cs = true ↔ ∃ p zulu, cs = s.chars p zulu := by
  have hall (p : Precision) : p ∈ Precision.all := by cases p <;> decide
  simp [isWritten, hall, eq_comm (a := cs), or_comm]

/-- A stamp is read and written again as the same text exactly if the text spells it. -/
theorem spells_iff_read {s : Stamp} {cs : List Char} :
    Spells s cs ↔ DateText.strictStamp cs = .ok s ∧ s.isWritten cs = true := by
  rw [spells_iff, Stamp.isWritten_iff]
  constructor
  · rintro ⟨⟨hyear, hoffset⟩, p, zulu, rfl, hcut⟩
    exact ⟨by rw [Stamp.strictStamp_chars hyear hoffset, hcut], p, zulu, rfl⟩
  · rintro ⟨hread, p, zulu, rfl⟩
    have hoffset := DateText.offset_of_strictStamp hread
    have hyear : 0 ≤ s.date.year ∧ s.date.year ≤ 9999 := by
      by_contra hyear
      obtain ⟨e, he⟩ := Stamp.strictStamp_signed hyear p zulu
      cases he.symm.trans hread
    rw [Stamp.strictStamp_chars hyear hoffset] at hread
    exact ⟨⟨hyear, hoffset⟩, p, zulu, rfl, Except.ok.inj hread⟩

namespace Instant

/-- The time that a stamp names: the days since the first of January 1970, however they are counted,
and the time of day, less the offset. A leap second is the second half of the second before it. -/
structure Denotes (s : Stamp) (t : Instant) : Prop where
  second : ∀ number, Date.Counts number →
    t.second = number s.date * 86400 + s.hour * 3600 + s.minute * 60 + min s.second 59 - s.offset
  nano : t.nano = s.nano + if s.second = 60 then 1000000000 else 0

/-- Whatever is spelled names a time. -/
theorem exists_denoted {s : Stamp} (hyear : 0 ≤ s.date.year ∧ s.date.year ≤ 9999)
    (hoffset : s.offset.natAbs < 86400) : ∃ t, ofStamp? s = some t ∧ Denotes s t := by
  obtain ⟨⟨hhour, hminute, hsecond, hnano⟩, hwhole⟩ := s.valid
  obtain ⟨hfirst, -⟩ := Date.first_le_toDay hyear.1
  obtain ⟨hlast, -⟩ := Date.toDay_le_last hyear.2
  have hvalid : (nanoOf s < 1000000000 ∨ nanoOf s < 2000000000 ∧ secondOf s % 60 = 59) ∧
      firstSecond ≤ secondOf s ∧ secondOf s ≤ lastSecond := by
    unfold nanoOf secondOf firstSecond lastSecond
    refine ⟨?_, by omega, by omega⟩
    split <;> omega
  refine ⟨⟨secondOf s, nanoOf s, hvalid⟩, dif_pos hvalid, fun number hcounts => ?_, rfl⟩
  rw [hcounts.eq_toDay]
  simp only [secondOf]
  omega

/-- What is spelled is read as the time that it names. -/
theorem ofWire?_of_spelled {v : String} {s : Stamp} (hs : Spells s v.toList) :
    ∃ t, ofWire? v = some t ∧ Denotes s t := by
  obtain ⟨⟨hyear, hoffset⟩, -⟩ := spells_iff.1 hs
  obtain ⟨hread, hwritten⟩ := spells_iff_read.1 hs
  obtain ⟨t, ht, hdenotes⟩ := exists_denoted hyear hoffset
  refine ⟨t, ?_, hdenotes⟩
  unfold ofWire?
  simp only [hread, hwritten, if_true, ht]

/-- What is read was spelled. -/
theorem exists_spelled {v : String} {t : Instant} (h : ofWire? v = some t) :
    ∃ s, Spells s v.toList ∧ Denotes s t := by
  have hspelled : ∃ s, Spells s v.toList := by
    unfold ofWire? at h
    cases hread : DateText.strictStamp v.toList with
    | error e => simp [hread] at h
    | ok s =>
      by_cases hwritten : s.isWritten v.toList = true
      · exact ⟨s, spells_iff_read.2 ⟨hread, hwritten⟩⟩
      · simp [hread, hwritten] at h
  obtain ⟨s, hs⟩ := hspelled
  obtain ⟨t', ht', hdenotes⟩ := ofWire?_of_spelled hs
  obtain rfl := Option.some.inj (h.symm.trans ht')
  exact ⟨s, hs, hdenotes⟩

/-- A text is read as a date exactly if the grammar spells it, and then as the time that is
spelled. -/
theorem wire_grammar (v : String) : ((ofWire? v).isSome ↔ ∃ s, Spells s v.toList) ∧
    ∀ s, Spells s v.toList → ∃ t, ofWire? v = some t ∧ Denotes s t := by
  refine ⟨⟨fun h => ?_, fun ⟨s, hs⟩ => ?_⟩, fun s hs => ofWire?_of_spelled hs⟩
  · obtain ⟨t, ht⟩ := Option.isSome_iff_exists.1 h
    obtain ⟨s, hs, -⟩ := exists_spelled ht
    exact ⟨s, hs⟩
  · obtain ⟨t, ht, -⟩ := ofWire?_of_spelled hs
    exact Option.isSome_iff_exists.2 ⟨t, ht⟩

/-- A leap second, in a place to the east. -/
theorem leap_second_spelled : ∃ s, Spells s "2017-01-01T08:59:60.500+09:00".toList ∧
    ∃ t, ofWire? "2017-01-01T08:59:60.500+09:00" = some t ∧ Denotes s t := by
  let s : Stamp := ⟨⟨2017, 1, 1, by decide⟩, 8, 59, 60, 500000000, 32400, by decide⟩
  have hs : Spells s "2017-01-01T08:59:60.500+09:00".toList :=
    spells_iff.2 ⟨by decide, .millis, false, by decide, by decide⟩
  exact ⟨s, hs, (wire_grammar "2017-01-01T08:59:60.500+09:00").2 s hs⟩

end Instant

end SensorTasks

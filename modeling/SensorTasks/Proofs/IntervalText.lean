import Mathlib.Data.List.Basic
import Mathlib.Data.List.TakeWhile
import SensorTasks.Interval.Basic
import SensorTasks.Proofs.IntervalItems
import SensorTasks.Proofs.IntervalWords

/-!
The written form of an interval, and what is read from it. A text has the words that its pieces have
between the blanks, so the words of a written interval are the numeral and the unit of each count,
and the "and" between two counts is passed over. The counts are those of mixed radix: each unit is
taken as often as it fits, so that the items come to the interval, which is not too long.
-/

namespace SensorTasks

namespace Text

theorem isDigit_of_mem_toDigits {c : Char} {n : Nat} (h : c ∈ Nat.toDigits 10 n) :
    c.isDigit = true :=
  Nat.isDigit_of_mem_toDigits (by decide) (by decide) h

/-- A numeral is read as its number. -/
theorem natural?_toDigits {limit n : Nat} (h : n < limit) :
    natural? limit (Nat.toDigits 10 n) = some n := by
  have hdigits : ∀ c ∈ Nat.toDigits 10 n, c.isDigit = true := fun c =>
    isDigit_of_mem_toDigits
  have hall : (Nat.toDigits 10 n).all Char.isDigit = true := List.all_eq_true.2 hdigits
  have hne : (Nat.toDigits 10 n).isEmpty = false := by simp
  have hvalue : Nat.ofDigitChars 10 (Nat.toDigits 10 n) 0 = n := Nat.ofDigitChars_ten_toDigits
  unfold natural?
  split
  · rename_i ds hsign
    exact absurd (hdigits '+' (hsign ▸ List.mem_cons_self)) (by decide)
  · simp [hall, hne, hvalue, h]

end Text

namespace Interval

open Text

/-! ### Texts in small letters -/

/-- A character of which reading makes no other one. -/
def IsPlain (c : Char) : Prop := c.toNat < 128 ∧ c.toLower = c ∧ c ≠ ','

instance (c : Char) : Decidable (IsPlain c) := inferInstanceAs (Decidable (_ ∧ _))

/-- In a plain text nothing is replaced before it is cut into words. -/
theorem significantWords_of_plain {text : String} (h : ∀ c ∈ text.toList, IsPlain c) :
    significantWords text = countingWords text.toList := by
  have hlower : toLower text.toList = text.toList := by
    rw [toLower, lowerFrom_ascii fun c hc => (h c hc).1]
    exact (List.map_congr_left fun c hc => (h c hc).2.1).trans (List.map_id _)
  have hspaced : spaced text.toList = text.toList := by
    rw [spaced, hlower]
    refine (List.map_congr_left fun c hc => if_neg ?_).trans (List.map_id _)
    simpa using (h c hc).2.2
  rw [significantWords_eq, hspaced]

/-! ### Counts of units -/

/-- A unit is one word in small letters, and it is read in its two forms, as its length. -/
structure IsReadable (unit : String) (length : Nat) : Prop where
  plain : ∀ c ∈ unit.toList, IsPlain c ∧ isBlank c = false
  one : readUnit unit.toList = .ok length
  several : readUnit (unit ++ "s").toList = .ok length

theorem readable_units : ∀ u ∈ units, IsReadable u.1 u.2 := by
  have hplain : ∀ u ∈ units,
      u.1.toList.all (fun c => decide (IsPlain c ∧ isBlank c = false)) = true := by decide
  have hone : ∀ u ∈ units, readUnit u.1.toList = .ok u.2 := by decide
  have hseveral : ∀ u ∈ units, readUnit (u.1 ++ "s").toList = .ok u.2 := by decide
  exact fun u hu => ⟨fun c hc => of_decide_eq_true (List.all_eq_true.1 (hplain u hu) c hc),
    hone u hu, hseveral u hu⟩

section

variable {unit : String} {length : Nat}

theorem isPlain_of_isDigit {c : Char} (h : c.isDigit = true) : IsPlain c := by
  have hdigit := (toNat_of_isDigit h).2
  have hall : ∀ n < 58, (Char.ofNat n).isDigit = true → IsPlain (Char.ofNat n) := by decide
  rw [← Char.ofNat_toNat c] at h ⊢
  exact hall c.toNat (by omega) h

/-- The unit of a count, in the form that goes with it. -/
def unitOf (count : Nat) (unit : String) : String := unit ++ if count == 1 then "" else "s"

theorem toList_part (count : Nat) (unit : String) :
    (part count unit).toList = Nat.toDigits 10 count ++ ' ' :: (unitOf count unit).toList := by
  simp [part, unitOf]

theorem IsReadable.unitOf (h : IsReadable unit length) (count : Nat) :
    readUnit (unitOf count unit).toList = .ok length ∧
      ∀ c ∈ (Interval.unitOf count unit).toList, IsPlain c ∧ isBlank c = false := by
  unfold Interval.unitOf
  split
  · simpa using ⟨h.one, h.plain⟩
  · refine ⟨h.several, fun c hc => ?_⟩
    rw [String.toList_append, List.mem_append] at hc
    rcases hc with hc | hc
    · exact h.plain c hc
    · obtain rfl : c = 's' := by simpa using hc
      decide

theorem isPlain_part (h : IsReadable unit length) (count : Nat) :
    ∀ c ∈ (part count unit).toList, IsPlain c := by
  intro c hc
  rw [toList_part, List.mem_append, List.mem_cons] at hc
  rcases hc with hc | rfl | hc
  · exact isPlain_of_isDigit (isDigit_of_mem_toDigits hc)
  · decide
  · exact ((h.unitOf count).2 c hc).1

/-- A count has two words. -/
theorem countingWords_part (h : IsReadable unit length) (count : Nat) :
    countingWords (part count unit).toList =
      [Nat.toDigits 10 count, (unitOf count unit).toList] := by
  obtain ⟨hread, hsolid⟩ := h.unitOf count
  have hdigits : words (Nat.toDigits 10 count) = [Nat.toDigits 10 count] :=
    words_of_solid Nat.toDigits_ne_nil fun c hc =>
      isBlank_of_isDigit (isDigit_of_mem_toDigits hc)
  have hunit : words (unitOf count unit).toList = [(unitOf count unit).toList] := by
    refine words_of_solid (fun hnil => ?_) fun c hc => (hsolid c hc).2
    have hnone : readUnit [] = .error (.invalidUnit "") := rfl
    rw [hnil, hnone] at hread
    cases hread
  have hnotAnd : Nat.toDigits 10 count ≠ "and".toList := fun he =>
    absurd (isDigit_of_mem_toDigits (c := 'a') (n := count) (by simp [he])) (by decide)
  have hunitNotAnd : (unitOf count unit).toList ≠ "and".toList := by
    intro he
    have hnone : readUnit "and".toList = .error (.invalidUnit "and") := rfl
    rw [he, hnone] at hread
    cases hread
  rw [countingWords, toList_part, words_append (by decide), hdigits, hunit, List.singleton_append,
    List.filter_cons_of_pos (by simpa using hnotAnd),
    List.filter_cons_of_pos (by simpa using hunitNotAnd), List.filter_nil]

theorem splitCount_toDigits (count : Nat) : splitCount (Nat.toDigits 10 count) = none := by
  have hall : (Nat.toDigits 10 count).dropWhile Char.isDigit = [] :=
    List.dropWhile_eq_nil_iff.2 fun c hc => isDigit_of_mem_toDigits hc
  simp [splitCount, hall]

theorem readCount_toDigits {count : Nat} (h : count < UInt64.size) :
    readCount (Nat.toDigits 10 count) = .ok count := by
  simp [readCount, natural?_toDigits h]

end

/-! ### Mixed radix -/

/-- What is left of a number of seconds when all units have been taken from it. -/
def leftOver (units : List (String × Nat)) (seconds : Nat) : Nat :=
  units.foldl (fun s u => s % u.2) seconds

theorem exists_of_mem_parts {us : List (String × Nat)} {seconds : Nat} {p : String}
    (hp : p ∈ parts us seconds) : ∃ u ∈ us, ∃ count, p = part count u.1 := by
  induction us generalizing seconds with
  | nil => cases hp
  | cons u us ih =>
    have hlater {s : Nat} (hp : p ∈ parts us s) : ∃ v ∈ u :: us, ∃ count, p = part count v.1 := by
      obtain ⟨v, hv, hpart⟩ := ih hp
      exact ⟨v, List.mem_cons_of_mem u hv, hpart⟩
    rw [parts] at hp
    split at hp
    · rcases List.mem_cons.1 hp with rfl | hp
      · exact ⟨u, List.mem_cons_self, _, rfl⟩
      · exact hlater hp
    · exact hlater hp

/-- The counts come to the seconds if nothing is left over. -/
theorem itemized_parts {us : List (String × Nat)} (hus : ∀ u ∈ us, IsReadable u.1 u.2)
    {seconds : Nat} (hrest : leftOver us seconds = 0) (hfits : seconds < UInt64.size) :
    Itemized ((parts us seconds).flatMap fun p => countingWords p.toList) seconds := by
  induction us generalizing seconds with
  | nil =>
    obtain rfl : seconds = 0 := hrest
    exact .nil
  | cons u us ih =>
    obtain ⟨unit, length⟩ := u
    obtain ⟨hu, hrestReadable⟩ := List.forall_mem_cons.1 hus
    have hparted : seconds / length * length + seconds % length = seconds :=
      Nat.div_add_mod' seconds length
    have hcount : seconds / length ≤ seconds := Nat.div_le_self seconds length
    rw [parts]
    split
    · have hread : readCount (Nat.toDigits 10 (seconds / length)) = .ok (seconds / length) :=
        readCount_toDigits (by omega)
      have hlater : Itemized ((parts us (seconds % length)).flatMap fun p =>
          countingWords p.toList) (seconds % length) := ih hrestReadable hrest (by omega)
      have hunit := (hu.unitOf (seconds / length)).1
      have hitems := Itemized.spelled (splitCount_toDigits _) hread hunit hlater
      rw [hparted] at hitems
      rw [List.flatMap_cons, countingWords_part hu]
      exact hitems
    · rename_i hnone
      -- less than one of this unit: nothing is taken
      have hsame : seconds % length = seconds := by
        rw [Nat.eq_zero_of_not_pos hnone, Nat.zero_mul] at hparted
        omega
      refine ih hrestReadable ?_ hfits
      rwa [leftOver, List.foldl_cons, hsame] at hrest

/-- What the counts are summed up to. -/
theorem sumItems_parts {us : List (String × Nat)} (hus : ∀ u ∈ us, IsReadable u.1 u.2)
    (text : String) {total seconds : Nat} (hrest : leftOver us seconds = 0)
    (hfits : total + seconds < UInt64.size) :
    sumItems text total ((parts us seconds).flatMap fun p => countingWords p.toList) =
      .ok (total + seconds) := by
  rw [sumItems_of_itemized (itemized_parts hus hrest (by omega)) (by omega), ofTotal_of_lt hfits]
  rfl

/-- The second is a unit, so nothing is left over. -/
theorem leftOver_units (seconds : Nat) : leftOver units seconds = 0 :=
  Nat.mod_one _

/-- Counts of units that are written one after the other are read as their sum. -/
theorem parse_intercalate {ps : List String} {seconds : Nat} (hfits : seconds < UInt64.size)
    (hps : ∀ p ∈ ps, ∃ u ∈ units, ∃ count, p = part count u.1) (hne : ps ≠ [])
    (hsum : sumItems (" and ".intercalate ps) 0 (ps.flatMap fun p => countingWords p.toList) =
      .ok seconds) :
    parse (" and ".intercalate ps) = .ok ⟨seconds, hfits⟩ := by
  have hwords : significantWords (" and ".intercalate ps) =
      ps.flatMap fun p => countingWords p.toList := by
    rw [significantWords_intercalate]
    refine List.flatMap_congr fun p hp => ?_
    obtain ⟨u, hu, count, rfl⟩ := hps p hp
    exact significantWords_of_plain (isPlain_part (readable_units u hu) count)
  obtain ⟨p, rest, rfl⟩ := List.exists_cons_of_ne_nil hne
  obtain ⟨u, hu, count, rfl⟩ := hps p List.mem_cons_self
  -- the first word is a numeral, and so not the one that is skipped
  have hfirst : (Nat.toDigits 10 count == "every".toList) = false := by
    refine beq_eq_false_iff_ne.2 fun he => ?_
    have hdigit := isDigit_of_mem_toDigits (c := 'e') (n := count) (by simp [he])
    exact absurd hdigit (by decide)
  rw [List.flatMap_cons, countingWords_part (readable_units u hu)] at hwords hsum
  unfold parse
  rw [hwords]
  simp only [List.cons_append, afterEvery, hfirst, Bool.false_eq_true, if_false]
  simp only [List.cons_append] at hsum
  simp only [hsum, hfits, dif_pos]

/-- What is written of an interval is read as that interval, up to the longest one there is. -/
theorem parse_of_render (i : Interval) : parse i.render = .ok i := by
  obtain ⟨seconds, hfits⟩ := i
  by_cases hzero : seconds = 0
  · subst hzero
    have hsecond : ∀ p ∈ [part 0 "second"], ∃ u ∈ units, ∃ count, p = part count u.1 :=
      fun p hp => ⟨("second", 1), by decide, 0, List.mem_singleton.1 hp⟩
    have htext : render ⟨0, hfits⟩ = " and ".intercalate [part 0 "second"] :=
      (if_pos rfl).trans (by decide)
    rw [htext]
    exact parse_intercalate hfits hsecond (List.cons_ne_nil _ _) (by decide)
  · have htext : render ⟨seconds, hfits⟩ = " and ".intercalate (parts units seconds) :=
      if_neg (by simpa using hzero)
    have hsum := sumItems_parts readable_units (" and ".intercalate (parts units seconds))
      (leftOver_units seconds) (Nat.zero_add seconds ▸ hfits)
    rw [Nat.zero_add] at hsum
    have hne : parts units seconds ≠ [] := by
      intro hnil
      rw [hnil] at hsum
      exact hzero (Except.ok.inj hsum).symm
    rw [htext]
    exact parse_intercalate hfits (fun p => exists_of_mem_parts) hne hsum

example : render ⟨UInt64.size - 1, by decide⟩ =
    "30500568904943 weeks and 7 hours and 15 seconds" := by decide

end Interval

end SensorTasks

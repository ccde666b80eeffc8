import Mathlib.Data.List.Induction
import SensorTasks.Interval.Parser

/-!
The words of a text about an interval. No word goes on over a blank or a comma, and the case of a
letter does not depend on what stands beyond one. So the words that count in a text are those of
its pieces, one after the other, whatever is trimmed from its ends; and a text that is put together
from two has the words of the one and then those of the other.
-/

namespace SensorTasks

namespace Text

/-! ### Words -/

theorem fields_append {p : Char → Bool} {c : Char} (hc : p c = true) (a b : List Char) :
    fields p (a ++ c :: b) = fields p a ++ fields p b := by
  induction a with
  | nil => simp [fields, hc]
  | cons d a ih =>
    simp only [List.cons_append, fields, ih]
    split
    · rfl
    · cases h : fields p a with
      | nil => exact absurd h (fields_ne_nil p a)
      | cons w ws => rfl

theorem fields_of_none {p : Char → Bool} {w : List Char} (hw : ∀ c ∈ w, p c = false) :
    fields p w = [w] := by
  induction w with
  | nil => rfl
  | cons c w ih =>
    obtain ⟨hc, hw⟩ := List.forall_mem_cons.1 hw
    simp [fields, hc, ih hw]

/-- Words do not go on over a blank. -/
theorem words_append {c : Char} (hc : isBlank c = true) (a b : List Char) :
    words (a ++ c :: b) = words a ++ words b := by
  rw [words, fields_append hc, List.filter_append]
  rfl

theorem words_of_solid {w : List Char} (hne : w ≠ []) (hw : ∀ c ∈ w, isBlank c = false) :
    words w = [w] := by
  rw [words, fields_of_none hw, List.filter_cons_of_pos (by simpa using hne), List.filter_nil]

/-- What blanks at the ends do not change, trimming does not change. -/
theorem apply_trimChars {α : Type} {f : List Char → α}
    (hfront : ∀ c cs, isBlank c = true → f (c :: cs) = f cs)
    (hback : ∀ cs c, isBlank c = true → f (cs ++ [c]) = f cs) (cs : List Char) :
    f (trimChars cs) = f cs := by
  have hright (cs : List Char) : f (trimRight cs) = f cs := by
    induction cs using List.reverseRecOn with
    | nil => rfl
    | append_singleton cs c ih =>
      by_cases hc : isBlank c = true
      · have htrim : trimRight (cs ++ [c]) = trimRight cs := by
          simp [trimRight, List.dropWhile_cons_of_pos hc]
        rw [htrim, ih, hback cs c hc]
      · simp [trimRight, List.dropWhile_cons_of_neg hc]
  have hleft : f (cs.dropWhile isBlank) = f cs := by
    induction cs with
    | nil => rfl
    | cons c cs ih =>
      by_cases hc : isBlank c = true
      · rw [List.dropWhile_cons_of_pos hc, ih, hfront c cs hc]
      · rw [List.dropWhile_cons_of_neg hc]
  rw [trimChars, hright, hleft]

/-! ### Lower case beside a break -/

/-- A character that is no part of a word and that lower case leaves alone. What stands before it
and what stands behind it do not see each other. -/
structure IsBreak (c : Char) : Prop where
  uncased : isCased c = false
  notIgnorable : isCaseIgnorable c = false
  lower : lowerChar c = [c]

instance (c : Char) : Decidable (IsBreak c) :=
  decidable_of_iff (isCased c = false ∧ isCaseIgnorable c = false ∧ lowerChar c = [c])
    ⟨fun ⟨uncased, notIgnorable, lower⟩ => ⟨uncased, notIgnorable, lower⟩,
      fun h => ⟨h.uncased, h.notIgnorable, h.lower⟩⟩

/-- The code points of the white space. -/
def blankCodes : List Nat :=
  List.range' 9 5 ++ [0x20, 0x85, 0xA0, 0x1680] ++ List.range' 0x2000 11 ++
    [0x2028, 0x2029, 0x202F, 0x205F, 0x3000]

theorem isBreak_of_isBlank {c : Char} (h : isBlank c = true) : IsBreak c := by
  have hall : ∀ n ∈ blankCodes, IsBreak (Char.ofNat n) := by decide +kernel
  have hmem : c.toNat ∈ blankCodes := by
    simp only [isBlank, Bool.or_eq_true, Bool.and_eq_true, decide_eq_true_eq, beq_iff_eq] at h
    simp only [blankCodes, List.mem_append, List.mem_range'_1, List.mem_cons, List.not_mem_nil,
      or_false]
    omega
  rw [← Char.ofNat_toNat c]
  exact hall _ hmem

variable {c : Char}

theorem IsBreak.ne_sigma (h : IsBreak c) : (c.toNat == 0x3A3) = false := by
  have hsigma : isCased (Char.ofNat 0x3A3) = true := by decide +kernel
  refine beq_eq_false_iff_ne.2 fun hc => ?_
  rw [← hc, Char.ofNat_toNat, h.uncased] at hsigma
  cases hsigma

/-- From the front, a search for a letter ends at a break. -/
theorem meetsCased_append (h : IsBreak c) (a b : List Char) :
    meetsCased (a ++ c :: b) = meetsCased a := by
  induction a with
  | nil => simp [meetsCased, h.notIgnorable, h.uncased]
  | cons d a ih => simp only [List.cons_append, meetsCased, ih]

/-- Of what was read before, all that counts is whether it ends in a word. -/
theorem lowerFrom_congr {before before' : List Char} (h : meetsCased before = meetsCased before')
    (cs : List Char) : lowerFrom before cs = lowerFrom before' cs := by
  induction cs generalizing before before' with
  | nil => rfl
  | cons d cs ih =>
    have hnext : meetsCased (d :: before) = meetsCased (d :: before') := by
      simp only [meetsCased, h]
    simp only [lowerFrom, h, ih hnext]

theorem lowerFrom_append (h : IsBreak c) (before a b : List Char) :
    lowerFrom before (a ++ c :: b) = lowerFrom before a ++ c :: toLower b := by
  induction a generalizing before with
  | nil =>
    have hbefore : meetsCased (c :: before) = meetsCased [] := meetsCased_append h [] before
    simp [lowerFrom, h.ne_sigma, h.lower, toLower, lowerFrom_congr hbefore]
  | cons d a ih =>
    simp only [List.cons_append, lowerFrom, meetsCased_append h, ih, List.append_assoc]

theorem toLower_append (h : IsBreak c) (a b : List Char) :
    toLower (a ++ c :: b) = toLower a ++ c :: toLower b :=
  lowerFrom_append h [] a b

end Text

namespace Interval

open Text

/-! ### Words of joined texts -/

/-- The words that count, of a text that is in lower case already. -/
def countingWords (cs : List Char) : List (List Char) :=
  (words cs).filter fun w => w != "and".toList

/-- A text in lower case, with blanks for the commas. -/
def spaced (cs : List Char) : List Char :=
  (toLower cs).map fun c => if c == ',' then ' ' else c

/-- A blank, or a comma, which is read as one. -/
def IsGap (c : Char) : Prop := isBlank c = true ∨ c = ','

theorem IsGap.isBreak {c : Char} (h : IsGap c) : IsBreak c := by
  rcases h with h | rfl
  · exact isBreak_of_isBlank h
  · decide +kernel

theorem IsGap.isBlank {c : Char} (h : IsGap c) :
    Text.isBlank (if c == ',' then ' ' else c) = true := by
  rcases h with h | rfl
  · split
    · rfl
    · exact h
  · rfl

/-- No word goes on over a gap. -/
theorem words_spaced {c : Char} (h : IsGap c) (a b : List Char) :
    words (spaced (a ++ c :: b)) = words (spaced a) ++ words (spaced b) := by
  simp only [spaced, toLower_append h.isBreak, List.map_append, List.map_cons]
  exact words_append h.isBlank _ _

theorem significantWords_eq (text : String) :
    significantWords text = countingWords (spaced text.toList) := by
  have htrim : words (spaced (trimChars text.toList)) = words (spaced text.toList) :=
    apply_trimChars (f := fun cs => words (spaced cs))
      (fun c cs hc => words_spaced (Or.inl hc) [] cs)
      (fun cs c hc => (words_spaced (Or.inl hc) cs []).trans (List.append_nil _)) _
  unfold significantWords countingWords
  exact congrArg (List.filter fun w => w != "and".toList) htrim

/-- Two gaps with no word between them that counts are as good as one. -/
theorem countingWords_gaps {c d : Char} (hc : IsGap c) (hd : IsGap d) {between : List Char}
    (hbetween : countingWords (spaced between) = []) (a b : List Char) :
    countingWords (spaced (a ++ c :: (between ++ d :: b))) =
      countingWords (spaced a) ++ countingWords (spaced b) := by
  unfold countingWords at hbetween ⊢
  rw [words_spaced hc, words_spaced hd, List.filter_append, List.filter_append, hbetween,
    List.nil_append]

/-- What stands between two texts that are joined. -/
inductive Conjunction where
  | and
  | comma
  deriving DecidableEq

def Conjunction.text : Conjunction → String
  | .and => " and "
  | .comma => ", "

/-- A joined text has the words of the one part and those of the other. -/
theorem significantWords_join (s t : String) (c : Conjunction) :
    significantWords (s ++ c.text ++ t) = significantWords s ++ significantWords t := by
  have hblank : IsGap ' ' := Or.inl (by decide)
  have hcomma : IsGap ',' := Or.inr rfl
  simp only [significantWords_eq, String.toList_append]
  cases c with
  | and =>
    have htext : s.toList ++ Conjunction.and.text.toList ++ t.toList =
        s.toList ++ ' ' :: ("and".toList ++ ' ' :: t.toList) := by simp [Conjunction.text]
    rw [htext]
    exact countingWords_gaps hblank hblank (by decide) _ _
  | comma =>
    have htext : s.toList ++ Conjunction.comma.text.toList ++ t.toList =
        s.toList ++ ',' :: ([] ++ ' ' :: t.toList) := by simp [Conjunction.text]
    rw [htext]
    exact countingWords_gaps hcomma hblank (by decide) _ _

theorem significantWords_intercalate (ps : List String) :
    significantWords (" and ".intercalate ps) = ps.flatMap significantWords := by
  induction ps with
  | nil => decide +kernel
  | cons p ps ih =>
    cases ps with
    | nil => simp
    | cons q ps =>
      rw [String.intercalate_cons_cons, List.flatMap_cons, ← ih]
      exact significantWords_join p _ .and

end Interval

end SensorTasks

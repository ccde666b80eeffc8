/-!
Blank characters and the two things done with them: a text is trimmed of the blanks at its ends,
and cut into the words between them. `isBlank` is the White_Space property of Unicode.
-/

namespace SensorTasks.Text

/-- The white space of Unicode. -/
def isBlank (c : Char) : Bool :=
  let n := c.toNat
  (9 ≤ n && n ≤ 13) || n == 0x20 || n == 0x85 || n == 0xA0 || n == 0x1680 ||
    (0x2000 ≤ n && n ≤ 0x200A) || n == 0x2028 || n == 0x2029 || n == 0x202F ||
    n == 0x205F || n == 0x3000

theorem toNat_of_isDigit {c : Char} (h : c.isDigit = true) : 48 ≤ c.toNat ∧ c.toNat ≤ 57 := by
  simp only [Char.isDigit, Bool.and_eq_true, decide_eq_true_eq, ge_iff_le,
    UInt32.le_iff_toNat_le] at h
  exact h

theorem isBlank_of_isDigit {c : Char} (h : c.isDigit = true) : isBlank c = false := by
  have hn := toNat_of_isDigit h
  simp only [isBlank, Bool.or_eq_false_iff, Bool.and_eq_false_iff, decide_eq_false_iff_not,
    beq_eq_false_iff_ne]
  omega

/-! ### Trimming -/

/-- `cs` without the blanks at its end. -/
def trimRight (cs : List Char) : List Char :=
  (cs.reverse.dropWhile isBlank).reverse

/-- `cs` without the blanks at both ends. -/
def trimChars (cs : List Char) : List Char :=
  trimRight (cs.dropWhile isBlank)

def trim (s : String) : String :=
  String.ofList (trimChars s.toList)

/-- Nothing but blanks. -/
def isBlankText (s : String) : Bool :=
  s.toList.all isBlank

theorem mem_dropWhile {p : Char → Bool} {cs : List Char} {c : Char} (hc : c ∈ cs)
    (hp : p c = false) : c ∈ cs.dropWhile p := by
  induction cs with
  | nil => cases hc
  | cons d cs ih =>
    by_cases hd : p d = true
    · rw [List.dropWhile_cons_of_pos hd]
      rcases List.mem_cons.1 hc with rfl | hc
      · rw [hp] at hd
        cases hd
      · exact ih hc
    · rwa [List.dropWhile_cons_of_neg hd]

theorem mem_trimChars {cs : List Char} {c : Char} (hc : c ∈ cs) (hb : isBlank c = false) :
    c ∈ trimChars cs :=
  List.mem_reverse.2 (mem_dropWhile (List.mem_reverse.2 (mem_dropWhile hc hb)) hb)

/-- Trimming leaves nothing exactly of what is blank. -/
theorem trimChars_eq_nil {cs : List Char} : trimChars cs = [] ↔ ∀ c ∈ cs, isBlank c = true := by
  constructor
  · intro h c hc
    by_cases hb : isBlank c = true
    · exact hb
    · have := mem_trimChars hc (Bool.eq_false_iff.2 hb)
      rw [h] at this
      cases this
  · intro h
    have hnil : cs.dropWhile isBlank = [] := by
      induction cs with
      | nil => rfl
      | cons d cs ih =>
        rw [List.forall_mem_cons] at h
        rw [List.dropWhile_cons_of_pos h.1, ih h.2]
    unfold trimChars
    rw [hnil]
    rfl

theorem isBlankText_eq_false {s : String} :
    isBlankText s = false ↔ ∃ c ∈ s.toList, isBlank c = false := by
  unfold isBlankText
  rw [List.all_eq_false]
  simp

theorem trim_isEmpty (s : String) : (trim s).isEmpty = isBlankText s := by
  rw [Bool.eq_iff_iff]
  simp [trim, isBlankText, trimChars_eq_nil]

/-- What is left of a text after trimming is not blank, unless it is nothing. -/
theorem isBlankText_trim (s : String) : isBlankText (trim s) = isBlankText s := by
  cases h : isBlankText s with
  | true =>
    have hnil : trimChars s.toList = [] := trimChars_eq_nil.2 (List.all_eq_true.1 h)
    simp [isBlankText, trim, hnil]
  | false =>
    obtain ⟨c, hc, hb⟩ := isBlankText_eq_false.1 h
    exact isBlankText_eq_false.2 ⟨c, by simpa [trim] using mem_trimChars hc hb, hb⟩

theorem ne_empty_of_isBlankText {s : String} (h : isBlankText s = false) : s ≠ "" := by
  rintro rfl
  cases h

/-! ### Fields and words -/

/-- The pieces of `cs` between the characters that satisfy `p`; there is one more of them than
of those. -/
def fields (p : Char → Bool) : List Char → List (List Char)
  | [] => [[]]
  | c :: cs =>
    if p c then [] :: fields p cs
    else
      match fields p cs with
      | [] => [[c]]
      | w :: ws => (c :: w) :: ws

theorem fields_ne_nil (p : Char → Bool) (cs : List Char) : fields p cs ≠ [] := by
  cases cs with
  | nil => simp [fields]
  | cons c cs =>
    simp only [fields]
    split
    · simp
    · split <;> simp

/-- The longest runs of characters that are not blank. -/
def words (cs : List Char) : List (List Char) :=
  (fields isBlank cs).filter fun w => !w.isEmpty

/-- `cs` cut at the first place where `p` holds, which belongs to neither piece. -/
def cut (p : Char → Bool) : List Char → Option (List Char × List Char)
  | [] => none
  | c :: cs =>
    if p c then some ([], cs) else (cut p cs).map fun (a, b) => (c :: a, b)

/-- `old` replaced by `new`, from left to right, without looking into what was put in. -/
def replaceAll (old new : List Char) (cs : List Char) : List Char :=
  match cs with
  | [] => []
  | c :: rest =>
    if old.isPrefixOf (c :: rest) && !old.isEmpty then
      new ++ replaceAll old new (rest.drop (old.length - 1))
    else c :: replaceAll old new rest
termination_by cs.length
decreasing_by
  all_goals simp only [List.length_drop, List.length_cons]; omega

end SensorTasks.Text

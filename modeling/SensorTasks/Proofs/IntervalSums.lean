import SensorTasks.Proofs.IntervalItems
import SensorTasks.Proofs.IntervalWords

/-!
Intervals put together from others. A text with "and" or a comma between two texts has the words of
the one and then those of the other, since the case of a letter does not depend on what stands
beyond a blank or a comma. Where the first text ends, its last item ends. So the whole is read as
the sum of what its parts are read as, whatever they are grouped into, and it is refused just if
the sum is longer than the longest interval.
-/

namespace SensorTasks

namespace Interval

/-! ### Texts -/

/-- The first word that counts is "every". -/
def OpensWithEvery (text : String) : Prop :=
  (significantWords text).head? = some "every".toList

instance (text : String) : Decidable (OpensWithEvery text) :=
  inferInstanceAs (Decidable (_ = _))

section

variable {s t text : String} {m n : Nat}

theorem afterEvery_append {ws vs : List (List Char)} (h : ws ≠ []) :
    afterEvery (ws ++ vs) = afterEvery ws ++ vs := by
  cases ws with
  | nil => exact absurd rfl h
  | cons w ws =>
    simp only [List.cons_append, afterEvery]
    split <;> rfl

theorem afterEvery_of_not_opens (h : ¬OpensWithEvery text) :
    afterEvery (significantWords text) = significantWords text := by
  unfold OpensWithEvery at h
  cases hws : significantWords text with
  | nil => rfl
  | cons w ws =>
    rw [hws, List.head?_cons, Option.some.injEq] at h
    exact if_neg (by simpa using h)

/-- Texts that are joined come to the sum of what they come to. -/
theorem ComesTo.join (hs : ComesTo s m) (ht : ComesTo t n) (hevery : ¬OpensWithEvery t)
    (c : Conjunction) : ComesTo (s ++ c.text ++ t) (m + n) := by
  have hwords : significantWords s ≠ [] := fun hnil => hs.nonempty (by rw [hnil]; rfl)
  have hitems : afterEvery (significantWords (s ++ c.text ++ t)) =
      afterEvery (significantWords s) ++ afterEvery (significantWords t) := by
    rw [significantWords_join, afterEvery_append hwords, afterEvery_of_not_opens hevery]
  constructor <;> rw [hitems]
  · exact List.append_ne_nil_of_left_ne_nil hs.nonempty _
  · exact hs.itemized.append ht.itemized

end

/-! ### Groups of parts -/

/-- A text put together from parts, which are grouped in some way, each part with what it is read
as. -/
inductive Phrase where
  | part (text : String) (interval : Interval)
  | join (left : Phrase) (c : Conjunction) (right : Phrase)

namespace Phrase

def text : Phrase → String
  | part text _ => text
  | join left c right => left.text ++ c.text ++ right.text

/-- The parts, without their grouping. -/
def parts : Phrase → List (String × Interval)
  | part text i => [(text, i)]
  | join left _ right => left.parts ++ right.parts

/-- The seconds of all parts. -/
def seconds : Phrase → Nat
  | part _ i => i.seconds
  | join left _ right => left.seconds + right.seconds

/-- The parts are read as they are said to be, and "every" stands at most before the first one. -/
def Reads : Phrase → Prop
  | part text i => parse text = .ok i
  | join left _ right => left.Reads ∧ right.Reads ∧ ¬OpensWithEvery right.text

instance : (p : Phrase) → Decidable p.Reads
  | part text i => inferInstanceAs (Decidable (parse text = .ok i))
  | join left _ right =>
    have := instDecidableReads left
    have := instDecidableReads right
    inferInstanceAs (Decidable (left.Reads ∧ right.Reads ∧ ¬OpensWithEvery right.text))

theorem comesTo {p : Phrase} (h : p.Reads) : ComesTo p.text p.seconds := by
  induction p with
  | part text i => exact comesTo_of_parse h
  | join left c right ihl ihr =>
    obtain ⟨hleft, hright, hevery⟩ := h
    exact (ihl hleft).join (ihr hright) hevery c

theorem foldr_parts (p : Phrase) (n : Nat) :
    p.parts.foldr (fun part n => part.2.seconds + n) n = p.seconds + n := by
  induction p generalizing n with
  | part text i => rfl
  | join left c right ihl ihr =>
    rw [parts, List.foldr_append, ihr, ihl, seconds, Nat.add_assoc]

/-- The sum depends neither on the grouping nor on the order. -/
theorem seconds_of_perm {p q : Phrase} (h : p.parts.Perm q.parts) : p.seconds = q.seconds := by
  have hfoldr := h.foldr_eq' (f := fun part n => part.2.seconds + n)
    (fun _ _ _ _ _ => Nat.add_left_comm _ _ _) 0
  simpa only [foldr_parts, Nat.add_zero] using hfoldr

end Phrase

/-- Two texts that are read as intervals, the second one without "every" at its front, are read
together as the sum of the two, or are refused as too long a number if that is longer than any
interval. The same goes for any number of parts, however they are grouped; and the same parts in
another order come to the same. -/
theorem parse_joined :
    (∀ (s t : String) (a b : Interval) (c : Conjunction), parse s = .ok a → parse t = .ok b →
      ¬OpensWithEvery t →
        parse (s ++ c.text ++ t) = ofTotal (s ++ c.text ++ t) (a.seconds + b.seconds)) ∧
      (∀ p : Phrase, p.Reads → parse p.text = ofTotal p.text p.seconds) ∧
      ∀ p q : Phrase, p.Reads → q.Reads → p.parts.Perm q.parts →
        (parse p.text).toOption = (parse q.text).toOption := by
  refine ⟨fun s t a b c hs ht hevery => ?_, fun p hp => (Phrase.comesTo hp).parse_eq,
    fun p q hp hq hperm => ?_⟩
  · exact ((comesTo_of_parse hs).join (comesTo_of_parse ht) hevery c).parse_eq
  · rw [(Phrase.comesTo hp).parse_eq, (Phrase.comesTo hq).parse_eq, Phrase.seconds_of_perm hperm]
    unfold ofTotal
    split <;> rfl

namespace Sample

def twoDays : Phrase := .part "every two days" ⟨172800, by decide⟩

def fiveMinutes : Phrase := .part "5m" ⟨300, by decide⟩

/-- With a sign for the kelvin, which is a small letter in lower case. -/
def aWeek : Phrase := .part "and 1 WEE\u212A" ⟨604800, by decide⟩

/-- As long as an interval can be. -/
def ages : Interval := ⟨18446744073709551615, by decide⟩

end Sample

open Sample in
/-- Three parts in two groupings and two orders; and two that are too long together. -/
theorem parse_joined_of_three :
    let p := Phrase.join (.join twoDays .comma fiveMinutes) .and aWeek
    let q := Phrase.join twoDays .and (.join aWeek .comma fiveMinutes)
    p.Reads ∧ q.Reads ∧ p.parts.Perm q.parts ∧
      parse "every two days, 5m and and 1 WEE\u212A" = .ok ⟨777900, by decide⟩ ∧
      (parse p.text).toOption = (parse q.text).toOption ∧
      parse "18446744073709551615 seconds" = .ok ages ∧ parse "1s" = .ok ⟨1, by decide⟩ ∧
      ¬OpensWithEvery "1s" ∧
      parse "18446744073709551615 seconds, 1s" =
        .error (.invalidNumber "18446744073709551615 seconds, 1s") := by
  intro p q
  obtain ⟨hjoined, htotal, hperm⟩ := parse_joined
  have htwoDays : twoDays.Reads := by decide +kernel
  have hfiveMinutes : fiveMinutes.Reads := by decide +kernel
  have haWeek : aWeek.Reads := by decide +kernel
  have hp : p.Reads := ⟨⟨htwoDays, hfiveMinutes, by decide +kernel⟩, haWeek, by decide +kernel⟩
  have hq : q.Reads := ⟨htwoDays, ⟨haWeek, hfiveMinutes, by decide +kernel⟩, by decide +kernel⟩
  have hparts : p.parts.Perm q.parts := (List.Perm.swap _ _ []).cons _
  have hread : parse "every two days, 5m and and 1 WEE\u212A" = .ok ⟨777900, by decide⟩ := by
    have htext : p.text = "every two days, 5m and and 1 WEE\u212A" := by decide +kernel
    have hseconds : p.seconds = 777900 := by decide
    rw [← htext, htotal p hp, hseconds]
    exact ofTotal_of_lt _
  have hages : parse "18446744073709551615 seconds" = .ok ages := by decide +kernel
  have hsecond : parse "1s" = .ok ⟨1, by decide⟩ := by decide +kernel
  have hevery : ¬OpensWithEvery "1s" := by decide +kernel
  have htooLong : parse "18446744073709551615 seconds, 1s" =
      .error (.invalidNumber "18446744073709551615 seconds, 1s") := by
    have htext : "18446744073709551615 seconds" ++ Conjunction.comma.text ++ "1s" =
        "18446744073709551615 seconds, 1s" := by decide +kernel
    rw [← htext, hjoined _ _ _ _ .comma hages hsecond hevery]
    exact ofTotal_of_le (by decide +kernel)
  exact ⟨hp, hq, hparts, hread, hperm p q hp hq hparts, hages, hsecond, hevery, htooLong⟩

end Interval

end SensorTasks

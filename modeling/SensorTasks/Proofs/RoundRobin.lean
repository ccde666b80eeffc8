import Mathlib.Data.Int.CardIntervalMod
import SensorTasks.Bus.Basic

/-!
How the subscribers of a key share its messages. One counter says whose turn it is, and it moves on
with every message that somebody listens to, on whatever key. So the subscribers of a key take turns
as long as nobody listens to another key; if somebody does, the messages on the other key may use up
the turns, and one subscriber is handed everything. The counter has 64 bits: where it begins anew
the turns begin anew too, which does no harm only if the number of subscribers divides its range.
-/

namespace SensorTasks

/-! ### Turns -/

/-- How many of `count` turns, the first one at `start`, fall to the `i`-th of `n` if the counter
has a range of `range` numbers. -/
def turnsOf (range n start i count : Nat) : Nat :=
  Nat.count (fun m => (start + m) % range % n = i) count

theorem count_congr {p q : Nat → Prop} [DecidablePred p] [DecidablePred q] {b : Nat}
    (h : ∀ m < b, p m ↔ q m) : Nat.count p b = Nat.count q b :=
  Nat.le_antisymm (Nat.count_mono_left fun m hm => (h m hm).1)
    (Nat.count_mono_left fun m hm => (h m hm).2)

/-- The numbers below `b` that fall to the `i`-th of `n`. -/
theorem count_mod_eq {n i : Nat} (hi : i < n) (b : Nat) :
    Nat.count (fun m => m % n = i) b = b / n + if i < b % n then 1 else 0 := by
  have hcount := Nat.count_modEq_card b (Nat.zero_lt_of_lt hi) i
  simp only [Nat.ModEq, Nat.mod_eq_of_lt hi] at hcount
  exact hcount

section

variable {range n start i j count : Nat}

theorem turnsOf_succ (hstart : start < range) : turnsOf range n start i (count + 1) =
    (if start % n = i then 1 else 0) + turnsOf range n ((start + 1) % range) i count := by
  have hshift : turnsOf range n ((start + 1) % range) i count =
      Nat.count (fun m => (start + (m + 1)) % range % n = i) count := by
    refine count_congr fun m _ => ?_
    rw [Nat.mod_add_mod, Nat.add_right_comm, Nat.add_assoc]
  rw [hshift, turnsOf, Nat.count_succ', Nat.add_zero, Nat.mod_eq_of_lt hstart, Nat.add_comm]

/-- Turns that do not begin anew, or where that does not matter, are shared evenly. -/
theorem turnsOf_le (hi : i < n) (hj : j < n)
    (h : ∀ m < count, (start + m) % range % n = (start + m) % n) :
    turnsOf range n start i count ≤ turnsOf range n start j count + 1 := by
  have hturns {k : Nat} (hk : k < n) : Nat.count (fun m => m % n = k) (start + count) =
      Nat.count (fun m => m % n = k) start + turnsOf range n start k count := by
    rw [Nat.count_add, turnsOf]
    congr 1
    exact count_congr fun m hm => by rw [h m hm]
  have hi' := hturns hi
  have hj' := hturns hj
  rw [count_mod_eq hi, count_mod_eq hi] at hi'
  rw [count_mod_eq hj, count_mod_eq hj] at hj'
  split_ifs at hi' hj' <;> omega

/-- Wherever the counter begins, over its range everybody has the turns that the numbers of the
range give. -/
theorem turnsOf_range (hi : i < n) :
    turnsOf range n start i range = range / n + if i < range % n then 1 else 0 := by
  let p (m : Nat) : Prop := m % range % n = i
  have hsplit : Nat.count p (start + range) =
      Nat.count p start + turnsOf range n start i range := Nat.count_add p start range
  have hanew : Nat.count p (start + range) = Nat.count p range + Nat.count p start := by
    rw [Nat.add_comm, Nat.count_add]
    congr 1
    exact count_congr fun m _ => by simp only [p, Nat.add_mod_left]
  have hrange : Nat.count p range = Nat.count (fun m => m % n = i) range :=
    count_congr fun m hm => by simp only [p, Nat.mod_eq_of_lt hm]
  rw [count_mod_eq hi] at hrange
  omega

/-- Over twice its range the first one has two turns more than the last one, unless everybody has
the same number of turns. -/
theorem turnsOf_twice (hn : 2 ≤ n) (hdvd : ¬n ∣ range) :
    turnsOf range n start 0 (range + range) =
      turnsOf range n start (n - 1) (range + range) + 2 := by
  have htwice {k : Nat} (hk : k < n) : turnsOf range n start k (range + range) =
      2 * (range / n + if k < range % n then 1 else 0) := by
    have hsecond : turnsOf range n start k range =
        Nat.count (fun m => (start + (range + m)) % range % n = k) range := by
      refine count_congr fun m _ => ?_
      rw [Nat.add_left_comm, Nat.add_mod_left]
    calc turnsOf range n start k (range + range)
        = turnsOf range n start k range +
            Nat.count (fun m => (start + (range + m)) % range % n = k) range :=
          Nat.count_add _ range range
      _ = 2 * turnsOf range n start k range := by rw [← hsecond, Nat.two_mul]
      _ = 2 * (range / n + if k < range % n then 1 else 0) := by rw [turnsOf_range hk]
  have hrest : 0 < range % n := Nat.emod_pos_of_not_dvd hdvd
  have hless : range % n < n := Nat.mod_lt _ (by omega)
  rw [htwice (by omega), htwice (by omega), if_pos hrest, if_neg (by omega)]
  omega

end

/-! ### Publishing -/

theorem forall_mem_modify {α : Type} {p : α → Prop} {f : α → α} {l : List α} (i : Nat)
    (hf : ∀ a, p a → p (f a)) (h : ∀ a ∈ l, p a) : ∀ a ∈ l.modify i f, p a := by
  intro a ha
  obtain ⟨j, hj⟩ := List.mem_iff_getElem?.1 ha
  rw [List.getElem?_modify] at hj
  obtain ⟨b, hb, rfl⟩ := Option.map_eq_some_iff.1 hj
  split
  · exact hf b (h b (List.mem_of_getElem? hb))
  · exact h b (List.mem_of_getElem? hb)

namespace Subscriber

/-- How many messages are on their way to a subscriber. -/
def load (s : Subscriber) : Nat :=
  s.queue.length + s.waiting.length

@[simp] theorem load_offer (capacity : Nat) (d : Delivery) (s : Subscriber) :
    (s.offer capacity d).load = s.load + 1 := by
  unfold offer load
  split <;> simp <;> omega

@[simp] theorem isOpen_offer (capacity : Nat) (d : Delivery) (s : Subscriber) :
    (s.offer capacity d).isOpen = s.isOpen := by
  unfold offer
  split <;> rfl

end Subscriber

namespace Bus

/-- Of the live subscribers of its key the one whose turn it is takes a message, and nobody else is
touched. -/
theorem live_publish (b : Bus) (d : Delivery) (key : RoutingKey) :
    (b.publish d).live key =
      if key = d.key then
        (b.live key).modify (b.turn.toNat % (b.live key).length) (·.offer b.capacity d)
      else b.live key := by
  have hopen : ∀ s ∈ b.live d.key, s.isOpen = true := fun s hs => (List.mem_filter.1 hs).2
  by_cases hkey : key = d.key
  · subst hkey
    rw [if_pos rfl]
    unfold publish
    cases hlive : b.live d.key with
    | nil => simp [live, mapSubscribers]
    | cons s rest =>
      have hmodified : ∀ t ∈ (s :: rest).modify (b.turn.toNat % (s :: rest).length)
          (·.offer b.capacity d), t.isOpen = true :=
        forall_mem_modify _ (fun t ht => (t.isOpen_offer ..).trans ht) (hlive ▸ hopen)
      simpa [live, mapSubscribers] using List.filter_eq_self.2 hmodified
  · rw [if_neg hkey]
    unfold publish
    cases b.live d.key <;> simp [live, mapSubscribers, hkey]

theorem turn_publish (b : Bus) (d : Delivery) :
    (b.publish d).turn = if b.live d.key = [] then b.turn else b.turn + 1 := by
  unfold publish
  cases b.live d.key <;> simp [mapSubscribers]

/-- How many messages are on their way to each live subscriber of a key. -/
def loads (b : Bus) (key : RoutingKey) : List Nat :=
  (b.live key).map Subscriber.load

@[simp] theorem length_loads (b : Bus) (key : RoutingKey) :
    (b.loads key).length = (b.live key).length := List.length_map _

theorem loads_publish (b : Bus) (d : Delivery) (key : RoutingKey) :
    (b.publish d).loads key =
      if key = d.key then (b.loads key).modify (b.turn.toNat % (b.live key).length) (· + 1)
      else b.loads key := by
  unfold loads
  rw [live_publish]
  split
  · refine List.ext_getElem? fun i => ?_
    simp only [List.getElem?_map, List.getElem?_modify]
    cases (b.live key)[i]? with
    | none => rfl
    | some s =>
      simp only [Option.map_eq_map, Option.map_some]
      split <;> simp
  · rfl

/-- Publishes messages one after the other. -/
def publishAll (b : Bus) (ds : List Delivery) : Bus :=
  ds.foldl publish b

/-- How many of the messages each live subscriber of the key is handed. -/
def handed (b : Bus) (key : RoutingKey) (ds : List Delivery) : List Nat :=
  List.zipWith (· - ·) ((b.publishAll ds).loads key) (b.loads key)

/-- Nobody is handed more than one message more than another one. -/
def SharesEvenly (b : Bus) (key : RoutingKey) (ds : List Delivery) : Prop :=
  ∀ x ∈ b.handed key ds, ∀ y ∈ b.handed key ds, x ≤ y + 1

/-! ### Shares -/

/-- How many of the messages fall to the `i`-th live subscriber of the key. -/
def share (key : RoutingKey) (i : Nat) : Bus → List Delivery → Nat
  | _, [] => 0
  | b, d :: ds =>
    (if key = d.key ∧ b.turn.toNat % (b.live key).length = i then 1 else 0) +
      share key i (b.publish d) ds

@[simp] theorem length_live_publish (b : Bus) (d : Delivery) (key : RoutingKey) :
    ((b.publish d).live key).length = (b.live key).length := by
  rw [live_publish]
  split <;> simp

@[simp] theorem length_live_publishAll (b : Bus) (ds : List Delivery) (key : RoutingKey) :
    ((b.publishAll ds).live key).length = (b.live key).length := by
  induction ds generalizing b with
  | nil => rfl
  | cons d ds ih => exact (ih (b.publish d)).trans (length_live_publish b d key)

theorem live_publish_eq_nil (b : Bus) (d : Delivery) (key : RoutingKey) :
    (b.publish d).live key = [] ↔ b.live key = [] := by
  rw [← List.length_eq_zero_iff, length_live_publish, List.length_eq_zero_iff]

theorem getElem?_loads_publishAll (b : Bus) (ds : List Delivery) (key : RoutingKey) (i : Nat) :
    ((b.publishAll ds).loads key)[i]? = (b.loads key)[i]?.map (· + share key i b ds) := by
  induction ds generalizing b with
  | nil => simp [publishAll, share]
  | cons d ds ih =>
    have hstep : ((b.publish d).loads key)[i]? = (b.loads key)[i]?.map
        (· + if key = d.key ∧ b.turn.toNat % (b.live key).length = i then 1 else 0) := by
      rw [loads_publish]
      by_cases hkey : key = d.key
      · subst hkey
        rw [if_pos rfl, List.getElem?_modify]
        cases (b.loads d.key)[i]? with
        | none => rfl
        | some x =>
          simp only [Option.map_eq_map, Option.map_some, true_and]
          split <;> rfl
      · simp [hkey]
    have hrest := ih (b.publish d)
    rw [hstep, Option.map_map] at hrest
    refine hrest.trans (congrArg (Option.map · _) (funext fun x => ?_))
    simp [share, Nat.add_assoc]

theorem handed_eq (b : Bus) (key : RoutingKey) (ds : List Delivery) :
    b.handed key ds = (List.range (b.live key).length).map fun i => share key i b ds := by
  refine List.ext_getElem? fun i => ?_
  rw [handed, List.getElem?_zipWith, getElem?_loads_publishAll, List.getElem?_map]
  cases hx : (b.loads key)[i]? with
  | none =>
    have hi : (b.live key).length ≤ i := by simpa using hx
    simp [hi]
  | some x =>
    have hi : i < (b.live key).length := by
      simpa using (List.getElem?_eq_some_iff.1 hx).1
    simp [hi]

theorem sharesEvenly_iff (b : Bus) (key : RoutingKey) (ds : List Delivery) :
    b.SharesEvenly key ds ↔ ∀ i < (b.live key).length, ∀ j < (b.live key).length,
      share key i b ds ≤ share key j b ds + 1 := by
  simp [SharesEvenly, handed_eq]

theorem share_append (key : RoutingKey) (i : Nat) (b : Bus) (ds es : List Delivery) :
    share key i b (ds ++ es) = share key i b ds + share key i (b.publishAll ds) es := by
  induction ds generalizing b with
  | nil => simp [share, publishAll]
  | cons d ds ih =>
    have hall : b.publishAll (d :: ds) = (b.publish d).publishAll ds := rfl
    rw [List.cons_append, share, share, ih, hall, Nat.add_assoc]

/-! ### One key alone -/

/-- While nobody listens to another key, every message on the key is a turn. -/
theorem share_eq_turnsOf {b : Bus} {key : RoutingKey} {i : Nat} (hi : i < (b.live key).length)
    (halone : ∀ k, k ≠ key → b.live k = []) (ds : List Delivery) :
    share key i b ds = turnsOf (2 ^ 64) (b.live key).length b.turn.toNat i
      (ds.countP fun d => key = d.key) := by
  induction ds generalizing b with
  | nil => simp [share, turnsOf]
  | cons d ds ih =>
    have halone' : ∀ k, k ≠ key → (b.publish d).live k = [] := fun k hk =>
      (live_publish_eq_nil b d k).2 (halone k hk)
    have hrest := ih (by simpa using hi) halone'
    rw [length_live_publish] at hrest
    rw [share, hrest, turn_publish]
    by_cases hkey : key = d.key
    · have hlive : b.live d.key ≠ [] := fun h => by simp [hkey, h] at hi
      have hturn : (b.turn + 1).toNat = (b.turn.toNat + 1) % 2 ^ 64 := UInt64.toNat_add _ _
      rw [if_neg hlive, hturn, List.countP_cons_of_pos (by simpa using hkey),
        turnsOf_succ b.turn.toNat_lt]
      simp [hkey]
    · rw [if_pos (halone d.key (Ne.symm hkey)), List.countP_cons_of_neg (by simpa using hkey)]
      simp [hkey]

/-- Alone, the subscribers of a key share evenly as long as the counter does not begin anew, or if
their number divides its range. -/
theorem sharesEvenly_of_alone {b : Bus} {key : RoutingKey}
    (halone : ∀ k, k ≠ key → b.live k = []) (ds : List Delivery)
    (h : b.turn.toNat + ds.length ≤ 2 ^ 64 ∨ (b.live key).length ∣ 2 ^ 64) :
    b.SharesEvenly key ds := by
  refine (sharesEvenly_iff b key ds).2 fun i hi j hj => ?_
  rw [share_eq_turnsOf hi halone, share_eq_turnsOf hj halone]
  refine turnsOf_le hi hj fun m hm => ?_
  rcases h with h | h
  · have hcount : ds.countP (fun d => key = d.key) ≤ ds.length := List.countP_le_length
    have hlt : b.turn.toNat + m < 2 ^ 64 := by omega
    rw [Nat.mod_eq_of_lt hlt]
  · exact Nat.mod_mod_of_dvd _ h

/-- A message that says nothing. -/
def blank (key : RoutingKey) : Delivery :=
  ⟨.text "", "", "", key, .epoch⟩

/-- Alone, but with a number of subscribers that does not divide the range of the counter, a key is
shared unevenly if there are messages enough. -/
theorem exists_uneven_of_alone {b : Bus} {key : RoutingKey}
    (halone : ∀ k, k ≠ key → b.live k = []) (hlen : 2 ≤ (b.live key).length)
    (hdvd : ¬(b.live key).length ∣ 2 ^ 64) : ∃ ds, ¬b.SharesEvenly key ds := by
  refine ⟨List.replicate (2 ^ 64 + 2 ^ 64) (blank key), fun h => ?_⟩
  have hcount : (List.replicate (2 ^ 64 + 2 ^ 64) (blank key)).countP (fun d => key = d.key) =
      2 ^ 64 + 2 ^ 64 := by
    rw [List.countP_replicate, if_pos (by simp [blank])]
  have hfirst := (sharesEvenly_iff b key _).1 h 0 (by omega) ((b.live key).length - 1) (by omega)
  rw [share_eq_turnsOf (by omega) halone, share_eq_turnsOf (by omega) halone, hcount,
    turnsOf_twice hlen hdvd] at hfirst
  omega

/-! ### Several keys -/

/-- Messages on another key move the turns on, and nothing else. -/
theorem share_replicate {key k : RoutingKey} (hk : key ≠ k) (i : Nat) (b : Bus) (m : Nat) :
    share key i b (List.replicate m (blank k)) = 0 := by
  induction m generalizing b with
  | zero => rfl
  | succ m ih =>
    have hnot : ¬(key = (blank k).key ∧ b.turn.toNat % (b.live key).length = i) := fun h =>
      hk h.1
    rw [List.replicate_succ, share, if_neg hnot, ih]

theorem turn_replicate {k : RoutingKey} {b : Bus} (hlive : b.live k ≠ []) (m : Nat) :
    (b.publishAll (List.replicate m (blank k))).turn.toNat = (b.turn.toNat + m) % 2 ^ 64 := by
  induction m generalizing b with
  | zero => exact (Nat.mod_eq_of_lt b.turn.toNat_lt).symm
  | succ m ih =>
    have hlive' : (b.publish (blank k)).live k ≠ [] := by
      rwa [Ne, live_publish_eq_nil]
    have hturn : (b.publish (blank k)).turn.toNat = (b.turn.toNat + 1) % 2 ^ 64 := by
      rw [(turn_publish b (blank k)).trans (if_neg hlive)]
      exact UInt64.toNat_add _ _
    calc (b.publishAll (List.replicate (m + 1) (blank k))).turn.toNat
        = ((b.publish (blank k)).publishAll (List.replicate m (blank k))).turn.toNat := rfl
      _ = ((b.turn.toNat + 1) % 2 ^ 64 + m) % 2 ^ 64 := by
          rw [ih hlive', hturn]
      _ = (b.turn.toNat + (m + 1)) % 2 ^ 64 := by
          rw [Nat.mod_add_mod, Nat.add_right_comm, Nat.add_assoc]

/-- If somebody listens to another key, the messages there may bring the turn back to the same
subscriber. -/
theorem exists_uneven_of_other {b : Bus} {key k : RoutingKey} (hk : k ≠ key)
    (hlive : b.live k ≠ []) (hlen : 2 ≤ (b.live key).length) : ∃ ds, ¬b.SharesEvenly key ds := by
  -- between two messages on the key the counter goes round once
  refine ⟨blank key :: (List.replicate (2 ^ 64 - 1) (blank k) ++ [blank key]), fun h => ?_⟩
  have hlive' : (b.publish (blank key)).live k ≠ [] := by
    rwa [Ne, live_publish_eq_nil]
  have hnext : (b.publish (blank key)).turn.toNat = (b.turn.toNat + 1) % 2 ^ 64 := by
    have hkey : b.live key ≠ [] := fun h => by simp [h] at hlen
    rw [(turn_publish b (blank key)).trans (if_neg hkey)]
    exact UInt64.toNat_add _ _
  have hback : ((b.publish (blank key)).publishAll
      (List.replicate (2 ^ 64 - 1) (blank k))).turn.toNat = b.turn.toNat := by
    have hlt := b.turn.toNat_lt
    rw [turn_replicate hlive', hnext]
    omega
  have hshare (i : Nat) : share key i b
      (blank key :: (List.replicate (2 ^ 64 - 1) (blank k) ++ [blank key])) =
        if b.turn.toNat % (b.live key).length = i then 2 else 0 := by
    have hkey : key = (blank key).key := rfl
    rw [share, share_append, share_replicate (Ne.symm hk), share, share, hback]
    simp only [length_live_publishAll, length_live_publish, ← hkey, true_and]
    split <;> rfl
  let i := b.turn.toNat % (b.live key).length
  have hi : i < (b.live key).length := Nat.mod_lt _ (by omega)
  obtain ⟨j, hj, hij⟩ : ∃ j < (b.live key).length, i ≠ j :=
    if h0 : i = 0 then ⟨1, by omega, by omega⟩ else ⟨0, by omega, h0⟩
  have huneven := (sharesEvenly_iff b key _).1 h i hi j hj
  rw [hshare, hshare, if_pos rfl, if_neg hij] at huneven
  omega

/-- The messages on a key are shared evenly, whatever is published, exactly if there are no two
subscribers to share them, or if nobody listens to another key and the number of subscribers divides
the range of the counter. While the counter has not begun anew, it is enough that nobody listens to
another key. -/
theorem shares_evenly_iff (b : Bus) (key : RoutingKey) :
    ((∀ ds, b.SharesEvenly key ds) ↔ (b.live key).length ≤ 1 ∨
      (∀ k, k ≠ key → b.live k = []) ∧ (b.live key).length ∣ 2 ^ 64) ∧
    ((∀ k, k ≠ key → b.live k = []) → ∀ ds : List Delivery,
      b.turn.toNat + ds.length ≤ 2 ^ 64 → b.SharesEvenly key ds) := by
  refine ⟨⟨fun h => ?_, ?_⟩, fun halone ds hds => sharesEvenly_of_alone halone ds (Or.inl hds)⟩
  · by_contra hnot
    rw [not_or, Nat.not_le] at hnot
    obtain ⟨hlen, hnot⟩ := hnot
    have huneven : ∃ ds, ¬b.SharesEvenly key ds := by
      by_cases halone : ∀ k, k ≠ key → b.live k = []
      · exact exists_uneven_of_alone halone hlen fun hdvd => hnot ⟨halone, hdvd⟩
      · push Not at halone
        obtain ⟨k, hk, hlive⟩ := halone
        exact exists_uneven_of_other hk hlive hlen
    obtain ⟨ds, hds⟩ := huneven
    exact hds (h ds)
  · rintro (hone | ⟨halone, hdvd⟩) ds
    · refine (sharesEvenly_iff b key ds).2 fun i hi j hj => ?_
      obtain rfl : i = j := by omega
      exact Nat.le_succ _
    · exact sharesEvenly_of_alone halone ds (Or.inr hdvd)

/-! ### Two keys -/

namespace Sample

/-- A bus with two subscribers of one key. -/
def oneKey : Bus :=
  (((Bus.new 4).subscribe .taskMode).2.subscribe .taskMode).2

/-- The same bus with a subscriber of another key. -/
def twoKeys : Bus :=
  (oneKey.subscribe .userUser).2

/-- Messages on both keys in turn. -/
def alternating : List Delivery :=
  [blank .taskMode, blank .userUser, blank .taskMode, blank .userUser]

end Sample

/-- Two subscribers share their key evenly, until somebody listens to another key. -/
theorem shares_evenly_of_one_key : (∀ ds, Sample.oneKey.SharesEvenly .taskMode ds) ∧
    ¬∀ ds, Sample.twoKeys.SharesEvenly .taskMode ds := by
  refine ⟨(shares_evenly_iff Sample.oneKey .taskMode).1.2 (Or.inr ⟨?_, by decide⟩), fun h => ?_⟩
  · intro k hk
    cases k <;> first | rfl | exact absurd rfl hk
  · rcases (shares_evenly_iff Sample.twoKeys .taskMode).1.1 h with hone | ⟨halone, -⟩
    · exact absurd hone (by decide)
    · cases halone .userUser (by decide)

/-- If the messages on two keys alternate, one of the two subscribers is handed all that are on
their key. -/
theorem alternating_uneven : Sample.twoKeys.handed .taskMode Sample.alternating = [2, 0] ∧
    ¬Sample.twoKeys.SharesEvenly .taskMode Sample.alternating := by
  have hhanded : Sample.twoKeys.handed .taskMode Sample.alternating = [2, 0] := by decide +kernel
  refine ⟨hhanded, fun h => ?_⟩
  rw [SharesEvenly, hhanded] at h
  exact absurd (h 2 (by simp) 0 (by simp)) (by decide)

end Bus

end SensorTasks

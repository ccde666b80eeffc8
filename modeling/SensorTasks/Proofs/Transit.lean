import Mathlib.Algebra.Order.Group.Multiset
import Mathlib.Tactic.Abel
import SensorTasks.Proofs.Traffic

/-!
Where messages are on their way from a publisher to a job: in a queue, in a background send, in the
hands of a loop or with a job. A change of one subscriber or of one loop changes nothing but what
this one has, so that a message that leaves one place and enters another one is neither lost nor
there twice. The subscriptions to the keys with a handler stay meanwhile, with distinct numbers, and
no queue gets longer than it may be.
-/

namespace SensorTasks

open Message Inbox

/-! ### Subscriptions that stay -/

namespace Bus

/-- No number is used twice on a key, and none is used that is not given out. -/
structure Numbered (b : Bus) : Prop where
  nodup : ∀ key, (b.numbers key).Nodup
  lt : ∀ key, ∀ n ∈ b.numbers key, n < b.nextNumber

/-- The keys with a handler have the subscribers that they had to begin with, all of them open, and
no queue is longer than it may be. -/
structure Steady (b₀ b : Bus) : Prop where
  capacity : b.capacity = b₀.capacity
  numbered : b.Numbered
  numbers : ∀ key ∈ Handler.keys, b.numbers key = b₀.numbers key
  isOpen : ∀ key ∈ Handler.keys, ∀ s ∈ b.subscribers key, s.isOpen = true
  fits : ∀ key, ∀ s ∈ b.subscribers key, s.queue.length ≤ b.capacity

theorem Numbered.subscribe {b : Bus} (h : b.Numbered) (key : RoutingKey) :
    (b.subscribe key).2.Numbered := by
  have hnumbers : ∀ k, (b.subscribe key).2.numbers k =
      if k = key then b.numbers k ++ [b.nextNumber] else b.numbers k := fun k => by
    by_cases hk : k = key <;> simp [Bus.subscribe, numbers, mapSubscribers, hk, Subscriber.new]
  constructor
  · intro k
    rw [hnumbers]
    split
    · refine List.Nodup.append (h.nodup k) (List.nodup_singleton _) fun n hn hnew => ?_
      have hlt := h.lt k n hn
      have heq := List.mem_singleton.1 hnew
      omega
    · exact h.nodup k
  · intro k n hn
    have hnext : (b.subscribe key).2.nextNumber = b.nextNumber + 1 := rfl
    rw [hnumbers] at hn
    split at hn
    · rcases List.mem_append.1 hn with hn | hn
      · have hlt := h.lt k n hn
        omega
      · have heq := List.mem_singleton.1 hn
        omega
    · have hlt := h.lt k n hn
      omega

/-- A new subscriber is the only one that a subscription brings. -/
theorem forall_mem_subscribe {b : Bus} {key k : RoutingKey} {P : Subscriber → Prop}
    (h : ∀ s ∈ b.subscribers k, P s) (hnew : ∀ number, P (.new number)) :
    ∀ s ∈ (b.subscribe key).2.subscribers k, P s := by
  have hsubscribers : (b.subscribe key).2.subscribers k =
      if k = key then b.subscribers k ++ [.new b.nextNumber] else b.subscribers k := rfl
  intro s hs
  rw [hsubscribers] at hs
  split at hs
  · rcases List.mem_append.1 hs with hs | hs
    · exact h s hs
    · rw [List.mem_singleton.1 hs]
      exact hnew _
  · exact h s hs

variable {b₀ b : Bus} {key : RoutingKey} {s : Subscription} {u u' : Subscriber}

namespace Steady

theorem live_eq (h : Steady b₀ b) (hkey : key ∈ Handler.keys) : b.live key = b.subscribers key :=
  List.filter_eq_self.2 (h.isOpen key hkey)

theorem subscribers_pick (h : Steady b₀ b) (k : RoutingKey) (hkey : key ∈ Handler.keys) :
    (b.pick k).2.subscribers key = b.subscribers key := by
  rw [Bus.subscribers_pick, h.live_eq hkey, ite_self]

theorem pick (h : Steady b₀ b) (k : RoutingKey) : Steady b₀ (b.pick k).2 := by
  have hsub : ∀ key, ((b.pick k).2.subscribers key).Sublist (b.subscribers key) := fun key => by
    rw [Bus.subscribers_pick]
    split
    · exact List.filter_sublist
    · exact .refl _
  have hkept : ∀ key ∈ Handler.keys, (b.pick k).2.numbers key = b.numbers key := fun key hkey =>
    numbers_congr (h.subscribers_pick k hkey)
  constructor
  case capacity => exact capacity_pick.trans h.capacity
  case numbered =>
    constructor
    · exact fun key => (h.numbered.nodup key).sublist ((hsub key).map _)
    · intro key n hn
      rw [nextNumber_pick]
      exact h.numbered.lt key n (((hsub key).map _).subset hn)
  case numbers => exact fun key hkey => (hkept key hkey).trans (h.numbers key hkey)
  case isOpen => exact fun key hkey t ht => h.isOpen key hkey t ((hsub key).subset ht)
  case fits =>
    intro key t ht
    rw [capacity_pick]
    exact h.fits key t ((hsub key).subset ht)

/-- Changes of one subscriber that leave it its number and do not close it. -/
theorem map (h : Steady b₀ b) {f : Subscriber → Subscriber}
    (hnumber : ∀ t, t.number = s.number → (f t).number = t.number)
    (hopen : s.key ∈ Handler.keys → ∀ t ∈ b.subscribers s.key, t.number = s.number →
      (f t).isOpen = true)
    (hfits : ∀ t ∈ b.subscribers s.key, t.number = s.number → (f t).queue.length ≤ b.capacity) :
    Steady b₀ (b.mapSubscriber s f) := by
  have hmem {P : Subscriber → Prop} (key : RoutingKey) (hP : ∀ t ∈ b.subscribers key, P t)
      (hf : key = s.key → ∀ t ∈ b.subscribers s.key, t.number = s.number → P (f t)) :
      ∀ t ∈ (b.mapSubscriber s f).subscribers key, P t := by
    intro t ht
    rw [subscribers_mapSubscriber] at ht
    split at ht
    · rename_i hkey
      obtain ⟨t', ht', rfl⟩ := List.mem_map.1 ht
      split
      · exact hf hkey t' (hkey ▸ ht') ‹_›
      · exact hP t' ht'
    · exact hP t ht
  constructor
  case capacity => exact h.capacity
  case numbered =>
    constructor
    · intro key
      rw [numbers_mapSubscriber hnumber]
      exact h.numbered.nodup key
    · intro key
      rw [numbers_mapSubscriber hnumber]
      exact h.numbered.lt key
  case numbers =>
    intro key hkey
    rw [numbers_mapSubscriber hnumber, h.numbers key hkey]
  case isOpen =>
    exact fun key hkey => hmem key (h.isOpen key hkey) fun hk => hopen (hk ▸ hkey)
  case fits => exact fun key => hmem key (h.fits key) fun _ => hfits

theorem replace (h : Steady b₀ b) (hu : b.subscriber? s = some u) (hnumber : u'.number = u.number)
    (hopen : u'.isOpen = u.isOpen) (hfits : u'.queue.length ≤ b.capacity) :
    Steady b₀ (b.mapSubscriber s fun _ => u') := by
  obtain ⟨hmem, hus⟩ := mem_subscribers hu
  refine h.map (fun t ht => ?_) (fun hkey t _ _ => ?_) fun t _ _ => hfits
  · rw [hnumber, hus, ht]
  · rw [hopen]
    exact h.isOpen _ hkey u hmem

theorem receive (h : Steady b₀ b) {d : Delivery} {b' : Bus} (hd : b.receive s = some (d, b')) :
    Steady b₀ b' := by
  obtain ⟨u, rest, hu, hqueue, rfl⟩ := receive_eq_some hd
  obtain ⟨hmem, -⟩ := mem_subscribers hu
  have hlength : rest.length ≤ b.capacity := by
    have hfits := h.fits _ u hmem
    rw [hqueue, List.length_cons] at hfits
    omega
  exact h.map (fun _ _ => rfl) (fun hkey t ht _ => h.isOpen _ hkey t ht) fun _ _ _ => hlength

theorem close (h : Steady b₀ b) (hkey : s.key ∉ Handler.keys) : Steady b₀ (b.close s) :=
  h.map (fun _ _ => rfl) (fun hk => absurd hk hkey) fun _ _ _ => Nat.zero_le _

theorem subscribe (h : Steady b₀ b) (hkey : key ∉ Handler.keys) :
    Steady b₀ (b.subscribe key).2 := by
  have hkept : ∀ k ∈ Handler.keys, (b.subscribe key).2.subscribers k = b.subscribers k :=
    fun k hk => if_neg fun hk' : k = key => hkey (hk' ▸ hk)
  constructor
  case capacity => exact h.capacity
  case numbered => exact h.numbered.subscribe key
  case numbers => exact fun k hk => (numbers_congr (hkept k hk)).trans (h.numbers k hk)
  case isOpen => exact fun k hk => forall_mem_subscribe (h.isOpen k hk) fun _ => rfl
  case fits => exact fun k => forall_mem_subscribe (h.fits k) fun _ => Nat.zero_le _

end Steady

end Bus

/-! ### What is on its way -/

/-- Those of the messages that are on a key. -/
def onKey (key : RoutingKey) (ds : Multiset Delivery) : Multiset Delivery :=
  ds.filter (·.key = key)

@[simp] theorem onKey_cons_self (d : Delivery) (ds : Multiset Delivery) :
    onKey d.key (d ::ₘ ds) = d ::ₘ onKey d.key ds :=
  Multiset.filter_cons_of_pos ds rfl

theorem onKey_cons_of_ne {key : RoutingKey} {d : Delivery} (h : key ≠ d.key)
    (ds : Multiset Delivery) : onKey key (d ::ₘ ds) = onKey key ds := by
  unfold onKey
  exact Multiset.filter_cons_of_neg ds (Ne.symm h)

/-- What a subscriber has. -/
def Subscriber.onWay (s : Subscriber) : Multiset Delivery :=
  s.queue + s.waiting

namespace Subscriber

variable {capacity : Nat} {d : Delivery} {s s' : Subscriber}

theorem Takes.kept (h : Takes capacity d s s') : s'.number = s.number ∧ s'.isOpen = s.isOpen := by
  cases h <;> exact ⟨rfl, rfl⟩

theorem Takes.fits (h : Takes capacity d s s') (hs : s.queue.length ≤ capacity) :
    s'.queue.length ≤ capacity := by
  cases h with
  | queue _ room =>
    rw [List.length_append, List.length_singleton]
    omega
  | wait => exact hs
  | lose => exact hs

/-- An open subscriber has what it takes. -/
theorem Takes.onWay (h : Takes capacity d s s') (hs : s.isOpen = true) :
    s'.onWay = d ::ₘ s.onWay := by
  cases h with
  | lose hclosed =>
    rw [hs] at hclosed
    cases hclosed
  | _ =>
    simp only [Subscriber.onWay, ← Multiset.coe_add, ← Multiset.singleton_add,
      Multiset.coe_singleton]
    abel

theorem Arrives.kept (h : Arrives capacity s s') :
    s'.number = s.number ∧ s'.isOpen = s.isOpen := by
  cases h
  exact ⟨rfl, rfl⟩

theorem Arrives.fits (h : Arrives capacity s s') : s'.queue.length ≤ capacity := by
  obtain ⟨-, room⟩ := h
  rw [List.length_append, List.length_singleton]
  omega

theorem Arrives.onWay (h : Arrives capacity s s') : s'.onWay = s.onWay := by
  obtain ⟨hwaiting, -⟩ := h
  simp only [Subscriber.onWay, hwaiting, ← Multiset.coe_add, ← Multiset.cons_coe,
    ← Multiset.singleton_add, Multiset.coe_nil, add_zero]
  abel

end Subscriber

namespace Bus

/-- The messages in the queues of a key. -/
def queued (b : Bus) (key : RoutingKey) : List Delivery :=
  (b.subscribers key).flatMap (·.queue)

/-- The messages in the background sends of a key. -/
def waiting (b : Bus) (key : RoutingKey) : List Delivery :=
  (b.subscribers key).flatMap (·.waiting)

def onWay (b : Bus) (key : RoutingKey) : Multiset Delivery :=
  b.queued key + b.waiting key

variable {b b' : Bus} {key : RoutingKey} {s : Subscription} {u : Subscriber}

theorem onWay_congr (h : b'.subscribers key = b.subscribers key) : b'.onWay key = b.onWay key := by
  unfold onWay queued waiting
  rw [h]

/-- A change of one subscriber changes nothing but what this one has. -/
theorem onWay_mapSubscriber (hnodup : (b.numbers s.key).Nodup) (hu : b.subscriber? s = some u) :
    ∃ rest, b.onWay s.key = u.onWay + rest ∧
      ∀ f, (b.mapSubscriber s f).onWay s.key = (f u).onWay + rest := by
  obtain ⟨before, after, hold, hnew⟩ := exists_split hnodup hu
  refine ⟨(before.flatMap (·.queue) + after.flatMap (·.queue)) +
    (before.flatMap (·.waiting) + after.flatMap (·.waiting)), ?_, fun f => ?_⟩
  · simp only [onWay, queued, waiting, hold, Subscriber.onWay, List.flatMap_append,
      List.flatMap_cons, ← Multiset.coe_add]
    abel
  · simp only [onWay, queued, waiting, hnew, Subscriber.onWay, List.flatMap_append,
      List.flatMap_cons, ← Multiset.coe_add]
    abel

/-- A message that is received was on its way before, and nothing else was. -/
theorem onWay_receive (hnodup : (b.numbers s.key).Nodup) {d : Delivery}
    (h : b.receive s = some (d, b')) : b.onWay s.key = d ::ₘ b'.onWay s.key := by
  obtain ⟨u, queue, hu, hqueue, rfl⟩ := receive_eq_some h
  obtain ⟨rest, hold, hnew⟩ := onWay_mapSubscriber hnodup hu
  rw [hold, hnew]
  simp only [Subscriber.onWay, hqueue, ← Multiset.cons_coe, Multiset.cons_add]

theorem subscribers_receive {d : Delivery} (h : b.receive s = some (d, b')) (hkey : key ≠ s.key) :
    b'.subscribers key = b.subscribers key := by
  obtain ⟨u, queue, -, -, rfl⟩ := receive_eq_some h
  exact if_neg hkey

end Bus

namespace Inbox

theorem exists_split_of_getElem? {α : Type} {l : List α} {i : Nat} {a : α} (h : l[i]? = some a) :
    ∃ before after, l = before ++ a :: after ∧ l.eraseIdx i = before ++ after ∧
      ∀ a', l.set i a' = before ++ a' :: after := by
  obtain ⟨hi, rfl⟩ := List.getElem?_eq_some_iff.1 h
  refine ⟨l.take i, l.drop (i + 1), ?_, l.eraseIdx_eq_take_drop_succ i, fun a' => ?_⟩
  · rw [List.getElem_cons_drop, List.take_append_drop]
  · rw [List.set_eq_take_append_cons_drop, if_pos hi]

theorem forall_mem_set {α : Type} {p : α → Prop} {l : List α} {i : Nat} {a : α}
    (h : ∀ b ∈ l, p b) (ha : p a) : ∀ b ∈ l.set i a, p b := by
  intro b hb
  rcases List.mem_or_eq_of_mem_set hb with hb | rfl
  · exact h b hb
  · exact ha

namespace Loop

/-- What a loop has. -/
def onWay (l : Loop) : Multiset Delivery :=
  l.held.toList + l.jobs.map (·.delivery)

def ofKey (loops : List Loop) (key : RoutingKey) : List Loop :=
  loops.filter (·.subscription.key = key)

/-- The messages that the loops of a key hold. -/
def heldOn (loops : List Loop) (key : RoutingKey) : List Delivery :=
  (ofKey loops key).flatMap (·.held.toList)

/-- The messages of a key that are being handled. -/
def runningOn (loops : List Loop) (key : RoutingKey) : List Delivery :=
  (ofKey loops key).flatMap fun l => l.jobs.map (·.delivery)

def onWayOn (loops : List Loop) (key : RoutingKey) : Multiset Delivery :=
  heldOn loops key + runningOn loops key

variable {loops : List Loop} {key : RoutingKey} {i : Nat} {l l' : Loop}

/-- A change of one loop changes nothing but what this one has. -/
theorem onWayOn_set (hl : loops[i]? = some l) :
    ∃ rest, onWayOn loops l.subscription.key = l.onWay + rest ∧
      ∀ l', l'.subscription = l.subscription →
        onWayOn (loops.set i l') l.subscription.key = l'.onWay + rest := by
  obtain ⟨before, after, hold, -, hnew⟩ := exists_split_of_getElem? hl
  have hat (l' : Loop) (hl' : l'.subscription = l.subscription) :
      ofKey (before ++ l' :: after) l.subscription.key =
        ofKey before l.subscription.key ++ l' :: ofKey after l.subscription.key := by
    simp [ofKey, hl']
  refine ⟨(heldOn before l.subscription.key + heldOn after l.subscription.key) +
    (runningOn before l.subscription.key + runningOn after l.subscription.key), ?_,
    fun l' hl' => ?_⟩
  · simp only [onWayOn, heldOn, runningOn, hold, hat l rfl, onWay, List.flatMap_append,
      List.flatMap_cons, ← Multiset.coe_add]
    abel
  · simp only [onWayOn, heldOn, runningOn, hnew, hat l' hl', onWay, List.flatMap_append,
      List.flatMap_cons, ← Multiset.coe_add]
    abel

theorem onWayOn_set_of_ne (hl : loops[i]? = some l) (h : l.subscription.key ≠ key)
    (hl' : l'.subscription = l.subscription) :
    onWayOn (loops.set i l') key = onWayOn loops key := by
  obtain ⟨before, after, hold, -, hnew⟩ := exists_split_of_getElem? hl
  have hkey : ofKey (loops.set i l') key = ofKey loops key := by
    rw [hnew, hold]
    simp [ofKey, hl', h]
  unfold onWayOn heldOn runningOn
  rw [hkey]

/-- A loop in order: its key has a handler, not too many of its jobs run, and none of them publishes
or counts messages. -/
structure Orderly (prefetch : Nat) (l : Loop) : Prop where
  handled : l.subscription.key ∈ Handler.keys
  limited : l.jobs.length ≤ prefetch
  quiet : ∀ job ∈ l.jobs, job.rest.Uses (·.keepsTraffic = true) fun _ => True

end Loop

/-! ### Conservation -/

/-- The messages published on a key with a handler are those on their way and those handled. -/
def Conserved (b : Bus) (loops : List Loop) (published handled : Multiset Delivery) : Prop :=
  ∀ key ∈ Handler.keys,
    onKey key published = b.onWay key + Loop.onWayOn loops key + onKey key handled

namespace Conserved

variable {b b' : Bus} {loops loops' : List Loop} {published handled : Multiset Delivery}
  {d : Delivery} {i : Nat} {l l' : Loop}

theorem of_bus (h : Conserved b loops published handled)
    (hb : ∀ key ∈ Handler.keys, b'.onWay key = b.onWay key) :
    Conserved b' loops published handled := by
  intro key hk
  rw [hb key hk]
  exact h key hk

/-- A message is published: it is on its way from now on, if its key has a handler. -/
theorem publish (h : Conserved b loops published handled)
    (hd : d.key ∈ Handler.keys → b'.onWay d.key = d ::ₘ b.onWay d.key)
    (hother : ∀ key ∈ Handler.keys, key ≠ d.key → b'.onWay key = b.onWay key) :
    Conserved b' loops (d ::ₘ published) handled := by
  intro key hk
  by_cases hkey : key = d.key
  · subst hkey
    rw [onKey_cons_self, h _ hk, hd hk, Multiset.cons_add, Multiset.cons_add]
  · rw [onKey_cons_of_ne hkey, h key hk, hother key hk hkey]

/-- Messages move between the bus, one loop and those handled. -/
theorem exchange {handled' : Multiset Delivery} (h : Conserved b loops published handled)
    (hl : loops[i]? = some l) (hl' : l'.subscription = l.subscription)
    (hown : b.onWay l.subscription.key + l.onWay + onKey l.subscription.key handled =
      b'.onWay l.subscription.key + l'.onWay + onKey l.subscription.key handled')
    (hother : ∀ key, key ≠ l.subscription.key →
      b'.onWay key = b.onWay key ∧ onKey key handled' = onKey key handled) :
    Conserved b' (loops.set i l') published handled' := by
  intro key hk
  by_cases hkey : key = l.subscription.key
  · subst hkey
    obtain ⟨rest, hold, hnew⟩ := Loop.onWayOn_set hl
    calc onKey l.subscription.key published
        = b.onWay l.subscription.key + (l.onWay + rest) + onKey l.subscription.key handled := by
          rw [h _ hk, hold]
      _ = b.onWay l.subscription.key + l.onWay + onKey l.subscription.key handled + rest := by
          abel
      _ = b'.onWay l.subscription.key + l'.onWay + onKey l.subscription.key handled' + rest := by
          rw [hown]
      _ = b'.onWay l.subscription.key + (l'.onWay + rest) +
            onKey l.subscription.key handled' := by abel
      _ = _ := by rw [← hnew l' hl']
  · rw [h key hk, (hother key hkey).1, (hother key hkey).2,
      Loop.onWayOn_set_of_ne hl (Ne.symm hkey) hl']

/-- A message moves from the bus to a loop. -/
theorem receive (h : Conserved b loops published handled) (hl : loops[i]? = some l)
    (hl' : l'.subscription = l.subscription) (hd : l'.onWay = d ::ₘ l.onWay)
    (hb : b.onWay l.subscription.key = d ::ₘ b'.onWay l.subscription.key)
    (hother : ∀ key, key ≠ l.subscription.key → b'.onWay key = b.onWay key) :
    Conserved b' (loops.set i l') published handled := by
  refine h.exchange hl hl' ?_ fun key hkey => ⟨hother key hkey, rfl⟩
  rw [hb, hd, Multiset.cons_add, Multiset.add_cons]

/-- A loop goes on with what it has. -/
theorem goOn (h : Conserved b loops published handled) (hl : loops[i]? = some l)
    (hl' : l'.subscription = l.subscription) (hd : l'.onWay = l.onWay) :
    Conserved b (loops.set i l') published handled :=
  h.exchange hl hl' (by rw [hd]) fun _ _ => ⟨rfl, rfl⟩

/-- A message of a loop was handled. That it is on the key of the loop is part of what is
conserved. -/
theorem finish (h : Conserved b loops published handled) (hl : loops[i]? = some l)
    (hkeys : l.subscription.key ∈ Handler.keys) (hl' : l'.subscription = l.subscription)
    (hd : l.onWay = d ::ₘ l'.onWay) :
    Conserved b (loops.set i l') published (d ::ₘ handled) := by
  have hkey : d.key = l.subscription.key := by
    obtain ⟨rest, hold, -⟩ := Loop.onWayOn_set hl
    have hmem : d ∈ onKey l.subscription.key published := by
      rw [h _ hkeys, hold, hd]
      simp
    exact (Multiset.mem_filter.1 hmem).2
  refine h.exchange hl hl' ?_ fun key hne => ⟨rfl, onKey_cons_of_ne (hkey ▸ hne) handled⟩
  rw [← hkey, onKey_cons_self, hd]
  simp only [Multiset.cons_add, Multiset.add_cons]

end Conserved

end Inbox

end SensorTasks

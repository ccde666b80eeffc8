import Mathlib.Data.Multiset.AddSub
import Mathlib.Logic.Relation
import SensorTasks.Inbox.Loop
import SensorTasks.Proofs.TaskMessage

/-!
The traffic between those who publish messages and the loops that take them. A publisher picks a
subscriber and lets go of the bus before it hands its message over, so that anything may happen in
between; a message that finds a queue full moves into a background send, and the background sends of
a queue complete in any order. So the moves here are finer than those of the loops alone, and allow
more: a move of the loops is one or two of them.
-/

namespace SensorTasks

open Message Inbox

/-! ### One subscriber among others -/

namespace Bus

/-- The numbers of the subscribers of a key. -/
def numbers (b : Bus) (key : RoutingKey) : List Nat :=
  (b.subscribers key).map (·.number)

theorem numbers_congr {b b' : Bus} {key : RoutingKey}
    (h : b.subscribers key = b'.subscribers key) : b.numbers key = b'.numbers key := by
  rw [numbers, h, numbers]

variable {b : Bus} {key : RoutingKey} {s : Subscription} {u : Subscriber}

theorem subscribers_mapSubscriber (f : Subscriber → Subscriber) :
    (b.mapSubscriber s f).subscribers key =
      if key = s.key then (b.subscribers key).map fun t => if t.number = s.number then f t else t
      else b.subscribers key := rfl

theorem mem_subscribers (hu : b.subscriber? s = some u) :
    u ∈ b.subscribers s.key ∧ u.number = s.number :=
  ⟨List.mem_of_find?_eq_some hu, by simpa using List.find?_some hu⟩

theorem subscriber?_of_mem (h : s.number ∈ b.numbers s.key) : ∃ u, b.subscriber? s = some u := by
  obtain ⟨u, hu, hnumber⟩ := List.mem_map.1 h
  refine Option.isSome_iff_exists.1 (List.find?_isSome.2 ⟨u, hu, ?_⟩)
  simpa using hnumber

/-- If the numbers are distinct, only one subscriber is changed. -/
theorem map_split {before after : List Subscriber}
    (hnodup : ((before ++ u :: after).map (·.number)).Nodup) (f : Subscriber → Subscriber) :
    ((before ++ u :: after).map fun t => if t.number = u.number then f t else t) =
      before ++ f u :: after := by
  have hother : ∀ t ∈ before ++ after, t.number ≠ u.number := by
    rw [List.map_append, List.map_cons, List.nodup_middle, List.nodup_cons,
      ← List.map_append] at hnodup
    exact fun t ht h => hnodup.1 (List.mem_map.2 ⟨t, ht, h⟩)
  have hkept {l : List Subscriber} (hl : ∀ t ∈ l, t.number ≠ u.number) :
      (l.map fun t => if t.number = u.number then f t else t) = l :=
    (List.map_congr_left fun t ht => if_neg (hl t ht)).trans l.map_id'
  rw [List.map_append, List.map_cons, if_pos rfl,
    hkept fun t ht => hother t (List.mem_append_left _ ht),
    hkept fun t ht => hother t (List.mem_append_right _ ht)]

theorem exists_split (hnodup : (b.numbers s.key).Nodup) (hu : b.subscriber? s = some u) :
    ∃ before after, b.subscribers s.key = before ++ u :: after ∧
      ∀ f, (b.mapSubscriber s f).subscribers s.key = before ++ f u :: after := by
  obtain ⟨hmem, hnumber⟩ := mem_subscribers hu
  obtain ⟨before, after, hsplit⟩ := List.append_of_mem hmem
  rw [numbers, hsplit] at hnodup
  refine ⟨before, after, hsplit, fun f => ?_⟩
  rw [subscribers_mapSubscriber, if_pos rfl, hsplit, ← hnumber, map_split hnodup f]

/-- A change that keeps the numbers. -/
theorem numbers_mapSubscriber {f : Subscriber → Subscriber}
    (hf : ∀ t, t.number = s.number → (f t).number = t.number) :
    (b.mapSubscriber s f).numbers key = b.numbers key := by
  unfold numbers
  rw [subscribers_mapSubscriber]
  split
  · rw [List.map_map]
    refine List.map_congr_left fun t _ => ?_
    by_cases ht : t.number = s.number <;> simp [ht, hf]
  · rfl

theorem mapSubscriber_congr (hnodup : (b.numbers s.key).Nodup) (hu : b.subscriber? s = some u)
    {f g : Subscriber → Subscriber} (h : f u = g u) : b.mapSubscriber s f = b.mapSubscriber s g := by
  obtain ⟨before, after, -, hsplit⟩ := exists_split hnodup hu
  have hf := hsplit f
  rw [h, ← hsplit g] at hf
  have hsubscribers : (b.mapSubscriber s f).subscribers = (b.mapSubscriber s g).subscribers := by
    funext k
    by_cases hk : k = s.key
    · rw [hk, hf]
    · simp only [subscribers_mapSubscriber, if_neg hk]
  exact congrArg (fun subscribers => { b with subscribers := subscribers }) hsubscribers

theorem mapSubscriber_eq_self {f : Subscriber → Subscriber}
    (hf : ∀ t ∈ b.subscribers s.key, t.number = s.number → f t = t) : b.mapSubscriber s f = b := by
  have hsubscribers : (b.mapSubscriber s f).subscribers = b.subscribers := by
    funext k
    rw [subscribers_mapSubscriber]
    split
    · rename_i hk
      subst hk
      refine (List.map_congr_left fun t ht => ?_).trans (List.map_id' _)
      exact ite_eq_right_iff.2 (hf t ht)
    · rfl
  exact congrArg (fun subscribers => { b with subscribers := subscribers }) hsubscribers

theorem mapSubscriber_of_none (hu : b.subscriber? s = none) (f : Subscriber → Subscriber) :
    b.mapSubscriber s f = b := by
  have hnone : ∀ t ∈ b.subscribers s.key, t.number ≠ s.number := by
    simpa [subscriber?] using hu
  exact mapSubscriber_eq_self fun t ht hnumber => absurd hnumber (hnone t ht)

/-- A background send to a subscriber completes, or nothing happens. -/
theorem arrive_eq (hnodup : (b.numbers s.key).Nodup) (hu : b.subscriber? s = some u) :
    b.arrive s = b.mapSubscriber s fun _ => u.arrive b.capacity :=
  mapSubscriber_congr hnodup hu rfl

theorem receive_eq_some {d : Delivery} {b' : Bus} (h : b.receive s = some (d, b')) :
    ∃ u rest, b.subscriber? s = some u ∧ u.queue = d :: rest ∧
      b' = b.mapSubscriber s fun t => { t with queue := rest } := by
  unfold receive at h
  split at h
  · cases h
  · rename_i u hu
    split at h
    · cases h
    · rename_i d' rest hqueue
      cases h
      exact ⟨u, rest, hu, hqueue, rfl⟩

/-! ### Publishing in two steps -/

/-- The subscriber of a key whose turn it is. Those that are closed are forgotten. -/
def pick (b : Bus) (key : RoutingKey) : Option Subscription × Bus :=
  match b.live key with
  | [] => (none, b.mapSubscribers key fun _ => [])
  | s :: rest =>
    let chosen := (s :: rest)[b.turn.toNat % (s :: rest).length]?
    (chosen.map fun t => ⟨key, t.number⟩,
      { b.mapSubscribers key fun _ => s :: rest with turn := b.turn + 1 })

@[simp] theorem capacity_pick : (b.pick key).2.capacity = b.capacity := by
  unfold pick
  cases b.live key <;> rfl

@[simp] theorem nextNumber_pick : (b.pick key).2.nextNumber = b.nextNumber := by
  unfold pick
  cases b.live key <;> rfl

theorem subscribers_pick (k : RoutingKey) :
    (b.pick key).2.subscribers k = if k = key then b.live k else b.subscribers k := by
  unfold pick
  by_cases hk : k = key
  · subst hk
    cases b.live k <;> simp [mapSubscribers]
  · cases b.live key <;> simp [mapSubscribers, hk]

/-- Whoever is picked listens to the key. -/
theorem pick_eq_some (h : (b.pick key).1 = some s) :
    s.key = key ∧ s.number ∈ (b.live key).map (·.number) := by
  unfold pick at h
  cases hlive : b.live key with
  | nil =>
    rw [hlive] at h
    cases h
  | cons t rest =>
    rw [hlive] at h
    obtain ⟨u, hu, rfl⟩ := Option.map_eq_some_iff.1 h
    exact ⟨rfl, List.mem_map_of_mem (List.mem_of_getElem? hu)⟩

theorem pick_eq_none (h : (b.pick key).1 = none) : b.live key = [] := by
  unfold pick at h
  cases hlive : b.live key with
  | nil => rfl
  | cons t rest =>
    have hlt : b.turn.toNat % (t :: rest).length < (t :: rest).length :=
      Nat.mod_lt _ (Nat.succ_pos _)
    rw [hlive] at h
    dsimp only at h
    rw [List.getElem?_eq_getElem hlt] at h
    cases h

theorem modify_eq_map {l : List Subscriber} (hnodup : (l.map (·.number)).Nodup) {i : Nat}
    (hi : i < l.length) (f : Subscriber → Subscriber) :
    l.modify i f = l.map fun t => if t.number = l[i].number then f t else t := by
  have hsplit : l.take i ++ l[i] :: l.drop (i + 1) = l := by
    rw [List.getElem_cons_drop, List.take_append_drop]
  rw [← hsplit] at hnodup
  calc l.modify i f = l.take i ++ f l[i] :: l.drop (i + 1) := List.modify_eq_take_cons_drop hi
    _ = (l.take i ++ l[i] :: l.drop (i + 1)).map
          fun t => if t.number = l[i].number then f t else t := (map_split hnodup f).symm
    _ = l.map fun t => if t.number = l[i].number then f t else t := by rw [hsplit]

theorem publish_of_pick_eq_none {d : Delivery} (h : (b.pick d.key).1 = none) :
    b.publish d = (b.pick d.key).2 := by
  have hlive := pick_eq_none h
  unfold publish pick
  rw [hlive]

/-- To publish is to pick a subscriber and to hand over the message to it. -/
theorem publish_of_pick_eq_some {d : Delivery} (hnodup : (b.numbers d.key).Nodup)
    (h : (b.pick d.key).1 = some s) :
    b.publish d = (b.pick d.key).2.mapSubscriber s (·.offer b.capacity d) := by
  have hnodup' : ((b.live d.key).map (·.number)).Nodup :=
    hnodup.sublist (List.filter_sublist.map _)
  unfold publish
  unfold pick at h ⊢
  cases hlive : b.live d.key with
  | nil =>
    rw [hlive] at h
    cases h
  | cons t rest =>
    have hlt : b.turn.toNat % (t :: rest).length < (t :: rest).length :=
      Nat.mod_lt _ (Nat.succ_pos _)
    rw [hlive] at hnodup' h
    dsimp only at h ⊢
    rw [List.getElem?_eq_getElem hlt] at h
    obtain rfl := Option.some.inj h
    simp only [modify_eq_map hnodup' hlt, mapSubscriber, mapSubscribers, Bus.mk.injEq, true_and,
      and_true]
    funext k
    by_cases hk : k = d.key <;> simp [hk]

end Bus

/-! ### What a subscriber may do -/

namespace Subscriber

/-- A subscriber is handed a message: it goes into the queue if there is room, or into a background
send. Nothing reaches a closed subscriber. -/
inductive Takes (capacity : Nat) (d : Delivery) : Subscriber → Subscriber → Prop where
  | queue {s : Subscriber} (h : s.isOpen = true) (room : s.queue.length < capacity) :
    Takes capacity d s { s with queue := s.queue ++ [d] }
  | wait {s : Subscriber} (h : s.isOpen = true) :
    Takes capacity d s { s with waiting := s.waiting ++ [d] }
  | lose {s : Subscriber} (h : s.isOpen = false) : Takes capacity d s s

/-- One of the background sends completes. -/
inductive Arrives (capacity : Nat) : Subscriber → Subscriber → Prop where
  | mk {s : Subscriber} {before after : List Delivery} {d : Delivery}
      (h : s.waiting = before ++ d :: after) (room : s.queue.length < capacity) :
    Arrives capacity s { s with queue := s.queue ++ [d], waiting := before ++ after }

theorem takes_offer (capacity : Nat) (d : Delivery) {s : Subscriber} (h : s.isOpen = true) :
    Takes capacity d s (s.offer capacity d) := by
  unfold offer
  split
  · exact .queue h (by omega)
  · exact .wait h

theorem arrives_arrive (capacity : Nat) (s : Subscriber) :
    s.arrive capacity = s ∨ Arrives capacity s (s.arrive capacity) := by
  unfold arrive
  split
  · exact Or.inl rfl
  · rename_i d rest hwaiting
    split
    · rename_i room
      exact Or.inr (@Arrives.mk capacity s [] rest d hwaiting room)
    · exact Or.inl rfl

end Subscriber

/-! ### The commands of a job -/

namespace Command

/-- The command leaves the bus and the counters alone. -/
def keepsTraffic : Command → Bool
  | publish .. | count _ => false
  | _ => true

variable {c : Command}

theorem keepsTraffic_of_isLookup (h : c.isLookup = true) : c.keepsTraffic = true := by
  cases c <;> first | rfl | cases h

theorem keepsTraffic_of_takesOver (h : c.takesOver = true) : c.keepsTraffic = true := by
  cases c <;> first | rfl | cases h

theorem run_of_keepsTraffic (h : c.keepsTraffic = true) (w : World) :
    (c.run w).2.bus = w.bus ∧ (c.run w).2.metrics = w.metrics := by
  have hcommit {α : Type} (r : Except Ledger.LedgerError (α × Ledger)) :
      (w.commit r).2.bus = w.bus ∧ (w.commit r).2.metrics = w.metrics := by
    cases r <;> exact ⟨rfl, rfl⟩
  have hunit (r : Except Ledger.LedgerError Ledger) :
      (w.commitUnit r).2.bus = w.bus ∧ (w.commitUnit r).2.metrics = w.metrics := by
    cases r <;> exact ⟨rfl, rfl⟩
  cases c with
  | publish | count => cases h
  | updateTask | updateFile | addMembers => exact hcommit _
  | createTask | createSensor | createGroup => exact hunit _
  | _ => exact ⟨rfl, rfl⟩

end Command

namespace Inbox

theorem TaskMessage.handle_keepsTraffic (m : TaskMessage) :
    m.handle.Uses (·.keepsTraffic = true) fun _ => True := by
  cases m with
  | report m =>
    refine Action.Uses.bind (S := fun _ => True) ?_ fun _ _ => .pure trivial
    rw [Report.status_eq]
    refine .perform_bind rfl fun found => ?_
    exact Report.uses_applyTo (fun _ => Command.keepsTraffic_of_takesOver) (fun _ _ => rfl)
      (fun _ _ _ _ _ => rfl) fun t _ results _ => Report.uses_reconcile
        (fun _ => Command.keepsTraffic_of_isLookup) (fun _ => rfl) t results
  | failure f =>
    have hfailure : (Report.failure f).Uses (·.keepsTraffic = true) fun _ => True :=
      Report.uses_failure rfl fun _ => rfl
    exact hfailure.bind fun _ _ => .pure trivial
  | modes m =>
    have hmodes : (Report.modeChanged m).Uses (·.keepsTraffic = true) fun _ => True :=
      ⟨rfl, fun _ => trivial⟩
    exact hmodes.bind fun _ _ => .pure trivial

/-- Whatever a message brings, handling it neither publishes nor counts anything. -/
theorem process_keepsTraffic (r : Registry) (key : RoutingKey) (payload : Payload) :
    (process r key payload).Uses (·.keepsTraffic = true) fun _ => True := by
  cases hm : TaskMessage.received? r key payload with
  | none => exact TaskMessage.uses_process hm fun _ _ _ _ => rfl
  | some m => exact TaskMessage.uses_process_of_handle hm m.handle_keepsTraffic

/-! ### Moves -/

namespace Consumer

/-- The consumer with another bus. -/
def withBus (c : Consumer) (b : Bus) : Consumer :=
  { c with world := { c.world with bus := b } }

/-- The message whose job ends with its next move. -/
def ending (c : Consumer) (i j : Nat) : Option Delivery := do
  let l ← c.loops[i]?
  let job ← l.jobs[j]?
  match job.rest with
  | .done _ => some job.delivery
  | .call .. => none

/-- The number of messages counted, whether consumed or rejected. -/
def concluded (c : Consumer) : Nat :=
  c.world.metrics.messagesConsumed + c.world.metrics.messagesRejected

variable {c c' : Consumer} {i j : Nat}

theorem receive?_eq_some (h : c.receive? i = some c') :
    ∃ l d b, c.loops[i]? = some l ∧ l.held = none ∧
      c.world.bus.receive l.subscription = some (d, b) ∧
      c' = (c.withBus b).setLoop i { l with held := some d } := by
  unfold receive? at h
  split at h
  · cases h
  · rename_i l hl
    split at h
    · cases h
    · rename_i hheld
      split at h
      · cases h
      · rename_i d b hreceive
        exact ⟨l, d, b, hl, by simpa using hheld, hreceive, (Option.some.inj h).symm⟩

theorem dispatch?_eq_some (h : c.dispatch? i = some c') :
    ∃ l d, c.loops[i]? = some l ∧ l.held = some d ∧ l.jobs.length < c.prefetch ∧
      c' = c.setLoop i { l with held := none, jobs := l.jobs ++ [c.job d] } := by
  unfold dispatch? at h
  split at h
  · cases h
  · rename_i l hl
    split at h
    · cases h
    · rename_i d hheld
      split at h
      · rename_i hroom
        exact ⟨l, d, hl, hheld, hroom, (Option.some.inj h).symm⟩
      · cases h

/-- A job of a loop ends, or carries out a command and goes on. -/
theorem advance?_eq_some (h : c.advance? i j = some c') :
    ∃ l job, c.loops[i]? = some l ∧ l.jobs[j]? = some job ∧
      ((∃ outcome, c.ending i j = some job.delivery ∧
          c' = (c.setLoop i { l with jobs := l.jobs.eraseIdx j }).conclude
            job.delivery.key outcome) ∨
        ∃ command next, c.ending i j = none ∧ job.rest = .call command next ∧
          c' = { c with world := (command.run c.world).2 }.setLoop i
            { l with
              jobs := l.jobs.set j { job with rest := next (command.run c.world).1 } }) := by
  unfold advance? at h
  split at h
  · cases h
  · rename_i l hl
    split at h
    · cases h
    · rename_i job hjob
      refine ⟨l, job, hl, hjob, ?_⟩
      split at h
      · rename_i outcome hrest
        refine Or.inl ⟨outcome, ?_, (Option.some.inj h).symm⟩
        simp [ending, hl, hjob, hrest]
      · rename_i command next hrest
        refine Or.inr ⟨command, next, ?_, hrest, (Option.some.inj h).symm⟩
        simp [ending, hl, hjob, hrest]

@[simp] theorem concluded_conclude (key : RoutingKey) (outcome : Except ConsumeError Unit) :
    (c.conclude key outcome).concluded = c.concluded + 1 := by
  cases outcome <;> simp only [concluded, conclude, Metrics.count] <;> omega

theorem conclude_kept (c : Consumer) (key : RoutingKey) (outcome : Except ConsumeError Unit) :
    (c.conclude key outcome).world.bus = c.world.bus ∧
      (c.conclude key outcome).loops = c.loops ∧
      (c.conclude key outcome).prefetch = c.prefetch := by
  cases outcome <;> exact ⟨rfl, rfl, rfl⟩

end Consumer

/-- The loops of a consumer among those who publish. -/
structure Traffic where
  consumer : Consumer
  /-- The publishers that have picked a subscriber and still have their message. -/
  sending : Multiset (Subscription × Delivery)
  /-- What was published so far. -/
  published : Multiset Delivery
  /-- What was handled so far. -/
  handled : Multiset Delivery

namespace Traffic

/-- The traffic before anything is published. -/
def begin (c : Consumer) : Traffic := ⟨c, 0, 0, 0⟩

def bus (t : Traffic) : Bus := t.consumer.world.bus

def withBus (t : Traffic) (b : Bus) : Traffic :=
  { t with consumer := t.consumer.withBus b }

/-- Somebody publishes a message without a pause. -/
def publish (t : Traffic) (d : Delivery) : Traffic :=
  { t.withBus (t.bus.publish d) with published := d ::ₘ t.published }

/-- Something moves. A message counts as published when its publisher is done with it. Whoever
listens to a key with a handler goes on to listen; other subscriptions come and go. -/
inductive Step : Traffic → Traffic → Prop where
  /-- A publisher picks a subscriber. -/
  | pick {t : Traffic} {s : Subscription} (d : Delivery) (h : (t.bus.pick d.key).1 = some s) :
    Step t { t.withBus (t.bus.pick d.key).2 with sending := (s, d) ::ₘ t.sending }
  /-- A publisher finds nobody who listens. -/
  | drop {t : Traffic} (d : Delivery) (h : (t.bus.pick d.key).1 = none) :
    Step t { t.withBus (t.bus.pick d.key).2 with published := d ::ₘ t.published }
  /-- A publisher hands over its message. -/
  | send {t : Traffic} {s : Subscription} {d : Delivery} {rest : Multiset (Subscription × Delivery)}
      {u u' : Subscriber} (h : t.sending = (s, d) ::ₘ rest) (hu : t.bus.subscriber? s = some u)
      (takes : u.Takes t.bus.capacity d u') :
    Step t
      { t.withBus (t.bus.mapSubscriber s fun _ => u') with
        sending := rest
        published := d ::ₘ t.published }
  /-- The subscriber that a publisher has picked was forgotten meanwhile. -/
  | lose {t : Traffic} {s : Subscription} {d : Delivery} {rest : Multiset (Subscription × Delivery)}
      (h : t.sending = (s, d) ::ₘ rest) (hu : t.bus.subscriber? s = none) :
    Step t { t with sending := rest, published := d ::ₘ t.published }
  | arrive {t : Traffic} {s : Subscription} {u u' : Subscriber}
      (hu : t.bus.subscriber? s = some u) (arrives : u.Arrives t.bus.capacity u') :
    Step t (t.withBus (t.bus.mapSubscriber s fun _ => u'))
  | receive {t : Traffic} {i : Nat} {c : Consumer} (h : t.consumer.receive? i = some c) :
    Step t { t with consumer := c }
  | dispatch {t : Traffic} {i : Nat} {c : Consumer} (h : t.consumer.dispatch? i = some c) :
    Step t { t with consumer := c }
  /-- A job carries out its next command, or ends, and then its message was handled. -/
  | advance {t : Traffic} {i j : Nat} {c : Consumer} (h : t.consumer.advance? i j = some c) :
    Step t
      { t with
        consumer := c
        handled := ((t.consumer.ending i j).toList : Multiset Delivery) + t.handled }
  /-- Somebody else changes the world, but does not count messages. -/
  | outside {t : Traffic} {w : World} (hbus : w.bus = t.bus)
      (hcounts : w.metrics.messagesConsumed = t.consumer.world.metrics.messagesConsumed ∧
        w.metrics.messagesRejected = t.consumer.world.metrics.messagesRejected) :
    Step t { t with consumer := { t.consumer with world := w } }
  | subscribe {t : Traffic} {key : RoutingKey} (h : key ∉ Handler.keys) :
    Step t (t.withBus (t.bus.subscribe key).2)
  | take {t : Traffic} {s : Subscription} {d : Delivery} {b : Bus} (h : s.key ∉ Handler.keys)
      (hreceive : t.bus.receive s = some (d, b)) :
    Step t (t.withBus b)
  | close {t : Traffic} {s : Subscription} (h : s.key ∉ Handler.keys) :
    Step t (t.withBus (t.bus.close s))

/-- Any number of moves. -/
abbrev Run : Traffic → Traffic → Prop := Relation.ReflTransGen Step

end Traffic

end Inbox

end SensorTasks

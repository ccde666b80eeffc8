import SensorTasks.Proofs.Transit

/-!
No message is lost or handed over twice between those who publish and the jobs. On a key with a
handler, the messages published are at every moment those in the queues, in the background sends, in
the hands of the loops, with the jobs and those already handled. Every move takes a message from one
of these places and puts it into another one, or takes a new one from its publisher; the others keep
what they have. The same moves keep the queues within the capacity of the bus and the jobs of a loop
within its limit, and count every message once.
-/

namespace SensorTasks

open Message

namespace Inbox

/-! ### The invariant -/

/-- The job of a message neither publishes nor counts anything. -/
theorem Consumer.job_quiet (c : Consumer) (d : Delivery) :
    (c.job d).rest.Uses (·.keepsTraffic = true) fun _ => True :=
  Program.Uses.mono (process_keepsTraffic c.registry d.key d.payload) (fun _ h => h)
    fun _ _ => trivial

namespace Consumer

/-- Nothing is on its way on a key with a handler. -/
structure AtRest (c : Consumer) : Prop where
  numbered : c.world.bus.Numbered
  fresh : ∀ key ∈ Handler.keys, ∀ s ∈ c.world.bus.subscribers key,
    s.isOpen = true ∧ s.queue = [] ∧ s.waiting = []
  fits : ∀ key, ∀ s ∈ c.world.bus.subscribers key, s.queue.length ≤ c.world.bus.capacity
  loops : ∀ l ∈ c.loops, l.subscription.key ∈ Handler.keys ∧ l.held = none ∧ l.jobs = []

/-- Besides, somebody listens to every key with a handler. -/
structure Listening (c : Consumer) : Prop extends AtRest c where
  listened : ∀ key ∈ Handler.keys, c.world.bus.subscribers key ≠ []

theorem AtRest.conserved {c : Consumer} (h : c.AtRest) : Conserved c.world.bus c.loops 0 0 := by
  intro key hkey
  have hqueued : c.world.bus.queued key = [] :=
    List.flatMap_eq_nil_iff.2 fun s hs => (h.fresh key hkey s hs).2.1
  have hwaiting : c.world.bus.waiting key = [] :=
    List.flatMap_eq_nil_iff.2 fun s hs => (h.fresh key hkey s hs).2.2
  have hheld : Loop.heldOn c.loops key = [] := List.flatMap_eq_nil_iff.2 fun l hl => by
    rw [(h.loops l (List.mem_filter.1 hl).1).2.1]
    rfl
  have hrunning : Loop.runningOn c.loops key = [] := List.flatMap_eq_nil_iff.2 fun l hl => by
    rw [(h.loops l (List.mem_filter.1 hl).1).2.2]
    rfl
  rw [Bus.onWay, Loop.onWayOn, hqueued, hwaiting, hheld, hrunning]
  rfl

theorem subscribers_startLoop (c : Consumer) (key k : RoutingKey) :
    (c.startLoop key).world.bus.subscribers k =
      if k = key then c.world.bus.subscribers k ++ [.new c.world.bus.nextNumber]
      else c.world.bus.subscribers k := rfl

theorem AtRest.startLoop {c : Consumer} (h : c.AtRest) {key : RoutingKey}
    (hkey : key ∈ Handler.keys) : (c.startLoop key).AtRest := by
  constructor
  case numbered => exact h.numbered.subscribe key
  case fresh =>
    exact fun k hk => Bus.forall_mem_subscribe (h.fresh k hk) fun _ => ⟨rfl, rfl, rfl⟩
  case fits => exact fun k => Bus.forall_mem_subscribe (h.fits k) fun _ => Nat.zero_le _
  case loops =>
    intro l hl
    rcases List.mem_append.1 hl with hl | hl
    · exact h.loops l hl
    · rw [List.mem_singleton.1 hl]
      exact ⟨hkey, rfl, rfl⟩

theorem AtRest.foldl_startLoop {c : Consumer} (h : c.AtRest) {keys : List RoutingKey}
    (hkeys : ∀ key ∈ keys, key ∈ Handler.keys) :
    (keys.foldl Consumer.startLoop c).AtRest ∧ ∀ key,
      key ∈ keys ∨ c.world.bus.subscribers key ≠ [] →
        (keys.foldl Consumer.startLoop c).world.bus.subscribers key ≠ [] := by
  induction keys generalizing c with
  | nil => exact ⟨h, fun key hkey => hkey.resolve_left List.not_mem_nil⟩
  | cons k keys ih =>
    obtain ⟨hk, hkeys⟩ := List.forall_mem_cons.1 hkeys
    obtain ⟨hrest, hlistened⟩ := ih (h.startLoop hk) hkeys
    refine ⟨hrest, fun key hkey => hlistened key ?_⟩
    rw [subscribers_startLoop]
    by_cases heq : key = k
    · exact Or.inr (by simp [heq])
    · rw [if_neg heq]
      exact hkey.imp_left fun hmem => (List.mem_cons.1 hmem).resolve_left heq

theorem AtRest.listening_start {c : Consumer} (h : c.AtRest) : c.start.Listening := by
  obtain ⟨hrest, hlistened⟩ := h.foldl_startLoop fun _ hkey => hkey
  exact { hrest with listened := fun key hkey => hlistened key (Or.inl hkey) }

theorem atRest_idle (r : Registry) (prefetch capacity : Nat) (clock : Instant) :
    (idle r prefetch (World.new capacity clock)).AtRest where
  numbered := ⟨fun _ => List.nodup_nil, fun _ _ hn => absurd hn List.not_mem_nil⟩
  fresh := fun _ _ _ hs => absurd hs List.not_mem_nil
  fits := fun _ _ hs => absurd hs List.not_mem_nil
  loops := fun _ hl => absurd hl List.not_mem_nil

end Consumer

namespace Traffic

/-- What every move keeps. -/
structure Sound (c₀ : Consumer) (t : Traffic) : Prop where
  steady : Bus.Steady c₀.world.bus t.bus
  prefetch : t.consumer.prefetch = c₀.prefetch
  sending : ∀ p ∈ t.sending, p.1.key = p.2.key ∧
    (p.1.key ∈ Handler.keys → p.1.number ∈ c₀.world.bus.numbers p.1.key)
  loops : ∀ l ∈ t.consumer.loops, l.Orderly t.consumer.prefetch
  counted : t.consumer.concluded = c₀.concluded + t.handled.card
  conserved : Conserved t.bus t.consumer.loops t.published t.handled

theorem sound_begin {c : Consumer} (h : c.Listening) : Sound c (begin c) where
  steady :=
    { capacity := rfl
      numbered := h.numbered
      numbers := fun _ _ => rfl
      isOpen := fun key hkey s hs => (h.fresh key hkey s hs).1
      fits := h.fits }
  prefetch := rfl
  sending := fun p hp => absurd hp (Multiset.notMem_zero p)
  loops := fun l hl => by
    obtain ⟨hkey, -, hjobs⟩ := h.loops l hl
    refine ⟨hkey, ?_, ?_⟩ <;> rw [hjobs]
    · exact Nat.zero_le _
    · exact fun _ h => absurd h List.not_mem_nil
  counted := rfl
  conserved := h.conserved

namespace Sound

variable {c₀ : Consumer} {t : Traffic} {s : Subscription} {d : Delivery} {u u' : Subscriber}
  {rest : Multiset (Subscription × Delivery)} {i j : Nat} {c : Consumer}

/-- Changes of the bus that leave what is on its way where it is. -/
theorem withBus (h : Sound c₀ t) {b : Bus} (hb : Bus.Steady c₀.world.bus b)
    (hsame : ∀ key ∈ Handler.keys, b.onWay key = t.bus.onWay key) : Sound c₀ (t.withBus b) :=
  { h with steady := hb, conserved := h.conserved.of_bus hsame }

/-- A message that is published on a key without a handler is none of those conserved. -/
theorem publish_elsewhere (h : Sound c₀ t) (hd : d.key ∉ Handler.keys) :
    Sound c₀ { t with published := d ::ₘ t.published } :=
  { h with
    conserved := h.conserved.publish (fun hk => absurd hk hd) fun _ _ _ => rfl }

theorem numbers_eq (h : Sound c₀ t) {key : RoutingKey} (hkey : key ∈ Handler.keys) :
    t.bus.numbers key = c₀.world.bus.numbers key :=
  h.steady.numbers key hkey

theorem withPick (h : Sound c₀ t) (key : RoutingKey) : Sound c₀ (t.withBus (t.bus.pick key).2) :=
  h.withBus (h.steady.pick key) fun _ hk => Bus.onWay_congr (h.steady.subscribers_pick key hk)

theorem pick (h : Sound c₀ t) (hs : (t.bus.pick d.key).1 = some s) :
    Sound c₀ { t.withBus (t.bus.pick d.key).2 with sending := (s, d) ::ₘ t.sending } := by
  obtain ⟨hkey, hnumber⟩ := Bus.pick_eq_some hs
  refine { h.withPick d.key with sending := fun p hp => ?_ }
  rcases Multiset.mem_cons.1 hp with rfl | hp
  · refine ⟨hkey, fun hk => ?_⟩
    rw [hkey] at hk
    rw [h.steady.live_eq hk] at hnumber
    rw [hkey, ← h.numbers_eq hk]
    exact hnumber
  · exact h.sending p hp

/-- Somebody listens to a key with a handler. -/
theorem not_mem_keys_of_pick (hc : c₀.Listening) (h : Sound c₀ t)
    (hnone : (t.bus.pick d.key).1 = none) : d.key ∉ Handler.keys := by
  intro hk
  have hlive := Bus.pick_eq_none hnone
  rw [h.steady.live_eq hk] at hlive
  have hnumbers := h.numbers_eq hk
  rw [Bus.numbers, hlive, List.map_nil] at hnumbers
  exact hc.listened _ hk (List.map_eq_nil_iff.1 hnumbers.symm)

/-- Whoever was picked on a key with a handler is still there. -/
theorem not_mem_keys_of_lose (h : Sound c₀ t) (hp : (s, d) ∈ t.sending)
    (hu : t.bus.subscriber? s = none) : d.key ∉ Handler.keys := by
  obtain ⟨hkey, hnumber⟩ := h.sending _ hp
  intro hk
  rw [← hkey] at hk
  obtain ⟨u, hu'⟩ := Bus.subscriber?_of_mem ((h.numbers_eq hk).symm ▸ hnumber hk)
  rw [hu] at hu'
  cases hu'

/-- A publisher hands over its message, and the subscriber has it. -/
theorem send (h : Sound c₀ t) (hp : t.sending = (s, d) ::ₘ rest)
    (hu : t.bus.subscriber? s = some u) (takes : u.Takes t.bus.capacity d u') :
    Sound c₀ { t.withBus (t.bus.mapSubscriber s fun _ => u') with
      sending := rest
      published := d ::ₘ t.published } := by
  obtain ⟨hmem, -⟩ := Bus.mem_subscribers hu
  have hkey : s.key = d.key := (h.sending (s, d) (hp ▸ Multiset.mem_cons_self _ _)).1
  constructor
  case steady =>
    exact h.steady.replace hu takes.kept.1 takes.kept.2 (takes.fits (h.steady.fits _ u hmem))
  case prefetch => exact h.prefetch
  case sending => exact fun p hp' => h.sending p (hp ▸ Multiset.mem_cons_of_mem hp')
  case loops => exact h.loops
  case counted => exact h.counted
  case conserved =>
    refine h.conserved.publish (fun hk => ?_) fun key _ hne => ?_
    · rw [← hkey] at hk ⊢
      obtain ⟨others, hold, hnew⟩ := Bus.onWay_mapSubscriber (h.steady.numbered.nodup s.key) hu
      have hu' := takes.onWay (h.steady.isOpen _ hk u hmem)
      exact (hnew _).trans (by rw [hold, hu', Multiset.cons_add])
    · exact Bus.onWay_congr (if_neg fun heq => hne (heq.trans hkey))

theorem arrive (h : Sound c₀ t) (hu : t.bus.subscriber? s = some u)
    (arrives : u.Arrives t.bus.capacity u') :
    Sound c₀ (t.withBus (t.bus.mapSubscriber s fun _ => u')) := by
  refine h.withBus (h.steady.replace hu arrives.kept.1 arrives.kept.2 arrives.fits)
    fun key _ => ?_
  by_cases hkey : key = s.key
  · subst hkey
    obtain ⟨others, hold, hnew⟩ := Bus.onWay_mapSubscriber (h.steady.numbered.nodup s.key) hu
    rw [hnew, hold, arrives.onWay]
  · exact Bus.onWay_congr (if_neg hkey)

/-- A loop takes a message that it had not. -/
theorem receive (h : Sound c₀ t) (hc : t.consumer.receive? i = some c) :
    Sound c₀ { t with consumer := c } := by
  obtain ⟨l, d, b, hl, hheld, hreceive, rfl⟩ := Consumer.receive?_eq_some hc
  have hd : { l with held := some d }.onWay = d ::ₘ l.onWay := by
    simp only [Loop.onWay, hheld, Option.toList_some, Option.toList_none, Multiset.coe_nil,
      Multiset.coe_singleton, Multiset.singleton_add, zero_add]
  have hloop : { l with held := some d }.Orderly t.consumer.prefetch :=
    { h.loops l (List.mem_of_getElem? hl) with }
  constructor
  case steady => exact h.steady.receive hreceive
  case prefetch => exact h.prefetch
  case sending => exact h.sending
  case loops => exact forall_mem_set h.loops hloop
  case counted => exact h.counted
  case conserved =>
    exact h.conserved.receive hl rfl hd
      (Bus.onWay_receive (h.steady.numbered.nodup _) hreceive) fun key hkey =>
        Bus.onWay_congr (Bus.subscribers_receive hreceive hkey)

theorem dispatch (h : Sound c₀ t) (hc : t.consumer.dispatch? i = some c) :
    Sound c₀ { t with consumer := c } := by
  obtain ⟨l, d, hl, hheld, hroom, rfl⟩ := Consumer.dispatch?_eq_some hc
  have hold := h.loops l (List.mem_of_getElem? hl)
  have hd : { l with held := none, jobs := l.jobs ++ [t.consumer.job d] }.onWay = l.onWay := by
    simp only [Loop.onWay, hheld, Consumer.job, List.map_append, List.map_cons, List.map_nil,
      Option.toList_some, Option.toList_none, Multiset.coe_nil, ← Multiset.coe_add]
    abel
  have hloop : { l with held := none, jobs := l.jobs ++ [t.consumer.job d] }.Orderly
      t.consumer.prefetch := by
    refine ⟨hold.handled, ?_, fun job hjob => ?_⟩
    · rw [List.length_append, List.length_singleton]
      omega
    · rcases List.mem_append.1 hjob with hjob | hjob
      · exact hold.quiet job hjob
      · rw [List.mem_singleton.1 hjob]
        exact t.consumer.job_quiet d
  exact
    { h with
      loops := forall_mem_set h.loops hloop
      conserved := h.conserved.goOn hl rfl hd }

/-- A job ends, and its message is counted and was handled. -/
theorem finish (h : Sound c₀ t) {l : Loop} {job : Job} (hl : t.consumer.loops[i]? = some l)
    (hjob : l.jobs[j]? = some job) (outcome : Except ConsumeError Unit) :
    Sound c₀ { t with
      consumer := (t.consumer.setLoop i { l with jobs := l.jobs.eraseIdx j }).conclude
        job.delivery.key outcome
      handled := job.delivery ::ₘ t.handled } := by
  have hold := h.loops l (List.mem_of_getElem? hl)
  have hloop : { l with jobs := l.jobs.eraseIdx j }.Orderly t.consumer.prefetch := by
    refine ⟨hold.handled, ?_, fun job hjob => hold.quiet job (List.mem_of_mem_eraseIdx hjob)⟩
    exact (l.jobs.length_eraseIdx_le j).trans hold.limited
  have hd : l.onWay = job.delivery ::ₘ { l with jobs := l.jobs.eraseIdx j }.onWay := by
    obtain ⟨before, after, hjobs, herased, -⟩ := exists_split_of_getElem? hjob
    unfold Loop.onWay
    rw [herased, hjobs]
    simp only [List.map_append, List.map_cons, ← Multiset.coe_add, ← Multiset.cons_coe,
      ← Multiset.singleton_add]
    abel
  obtain ⟨hbus, hloops, hprefetch⟩ := Consumer.conclude_kept
    (t.consumer.setLoop i { l with jobs := l.jobs.eraseIdx j }) job.delivery.key outcome
  constructor
  case steady =>
    unfold bus
    rw [hbus]
    exact h.steady
  case prefetch => exact hprefetch.trans h.prefetch
  case sending => exact h.sending
  case loops =>
    rw [hloops, hprefetch]
    exact forall_mem_set h.loops hloop
  case counted =>
    rw [Consumer.concluded_conclude, Multiset.card_cons, ← Nat.add_assoc, ← h.counted]
    rfl
  case conserved =>
    unfold bus
    rw [hbus, hloops]
    exact h.conserved.finish hl hold.handled rfl hd

/-- A job carries out a command and keeps its message. -/
theorem carryOut (h : Sound c₀ t) {l : Loop} {job : Job} (hl : t.consumer.loops[i]? = some l)
    (hjob : l.jobs[j]? = some job) {command : Command}
    {next : command.Answer → Program (Except ConsumeError Unit)}
    (hrest : job.rest = .call command next) :
    Sound c₀ { t with
      consumer := { t.consumer with world := (command.run t.consumer.world).2 }.setLoop i
        { l with
          jobs := l.jobs.set j
            { job with rest := next (command.run t.consumer.world).1 } } } := by
  have hold := h.loops l (List.mem_of_getElem? hl)
  have hquiet := hold.quiet job (List.mem_of_getElem? hjob)
  rw [hrest] at hquiet
  obtain ⟨hbus, hmetrics⟩ := Command.run_of_keepsTraffic hquiet.1 t.consumer.world
  obtain ⟨job', hjob', hdelivery, hquiet'⟩ :
      ∃ job' : Job, job' = { job with rest := next (command.run t.consumer.world).1 } ∧
        job'.delivery = job.delivery ∧
        job'.rest.Uses (·.keepsTraffic = true) fun _ => True :=
    ⟨_, rfl, rfl, hquiet.2 _⟩
  rw [← hjob']
  have hloop : { l with jobs := l.jobs.set j job' }.Orderly t.consumer.prefetch := by
    refine ⟨hold.handled, ?_, forall_mem_set hold.quiet hquiet'⟩
    rw [List.length_set]
    exact hold.limited
  have hd : { l with jobs := l.jobs.set j job' }.onWay = l.onWay := by
    obtain ⟨before, after, hjobs, -, hset⟩ := exists_split_of_getElem? hjob
    unfold Loop.onWay
    rw [hset, hjobs, List.map_append, List.map_append, List.map_cons, List.map_cons, hdelivery]
  constructor
  case steady =>
    show Bus.Steady c₀.world.bus (command.run t.consumer.world).2.bus
    rw [hbus]
    exact h.steady
  case prefetch => exact h.prefetch
  case sending => exact h.sending
  case loops => exact forall_mem_set h.loops hloop
  case counted =>
    have hcounted := h.counted
    unfold Consumer.concluded at hcounted ⊢
    rw [← hcounted, ← hmetrics]
    rfl
  case conserved =>
    show Conserved (command.run t.consumer.world).2.bus _ _ _
    rw [hbus]
    exact h.conserved.goOn hl rfl hd

theorem advance (h : Sound c₀ t) (hc : t.consumer.advance? i j = some c) :
    Sound c₀ { t with
      consumer := c
      handled := ((t.consumer.ending i j).toList : Multiset Delivery) + t.handled } := by
  obtain ⟨l, job, hl, hjob, ⟨outcome, hending, rfl⟩ | ⟨command, next, hending, hrest, rfl⟩⟩ :=
    Consumer.advance?_eq_some hc
  · rw [hending]
    exact h.finish hl hjob outcome
  · rw [hending, Option.toList_none, Multiset.coe_nil, zero_add]
    exact h.carryOut hl hjob hrest

theorem outside (h : Sound c₀ t) {w : World} (hbus : w.bus = t.bus)
    (hcounts : w.metrics.messagesConsumed = t.consumer.world.metrics.messagesConsumed ∧
      w.metrics.messagesRejected = t.consumer.world.metrics.messagesRejected) :
    Sound c₀ { t with consumer := { t.consumer with world := w } } := by
  constructor
  case steady =>
    show Bus.Steady c₀.world.bus w.bus
    rw [hbus]
    exact h.steady
  case prefetch => exact h.prefetch
  case sending => exact h.sending
  case loops => exact h.loops
  case counted =>
    have hcounted := h.counted
    unfold Consumer.concluded at hcounted ⊢
    rw [← hcounted, ← hcounts.1, ← hcounts.2]
  case conserved =>
    show Conserved w.bus _ _ _
    rw [hbus]
    exact h.conserved

/-- What happens on a key without a handler changes nothing on the others. -/
theorem elsewhere (h : Sound c₀ t) {key : RoutingKey} (hkey : key ∉ Handler.keys) {b : Bus}
    (hb : Bus.Steady c₀.world.bus b)
    (hsame : ∀ k, k ≠ key → b.subscribers k = t.bus.subscribers k) : Sound c₀ (t.withBus b) :=
  h.withBus hb fun k hk => Bus.onWay_congr (hsame k fun heq => hkey (heq ▸ hk))

theorem step (hc : c₀.Listening) (h : Sound c₀ t) {t' : Traffic} (hstep : Step t t') :
    Sound c₀ t' := by
  cases hstep with
  | pick d hs => exact h.pick hs
  | drop d hnone => exact (h.withPick d.key).publish_elsewhere (h.not_mem_keys_of_pick hc hnone)
  | send hp hu takes => exact h.send hp hu takes
  | @lose s d rest hp hu =>
    have hd := h.not_mem_keys_of_lose (hp ▸ Multiset.mem_cons_self _ _) hu
    exact { h.publish_elsewhere hd with
      sending := fun p hp' => h.sending p (hp ▸ Multiset.mem_cons_of_mem hp') }
  | arrive hu arrives => exact h.arrive hu arrives
  | receive hc => exact h.receive hc
  | dispatch hc => exact h.dispatch hc
  | advance hc => exact h.advance hc
  | outside hbus hcounts => exact h.outside hbus hcounts
  | subscribe hkey => exact h.elsewhere hkey (h.steady.subscribe hkey) fun _ hk => if_neg hk
  | take hkey hreceive =>
    exact h.elsewhere hkey (h.steady.receive hreceive) fun _ hk =>
      Bus.subscribers_receive hreceive hk
  | close hkey => exact h.elsewhere hkey (h.steady.close hkey) fun _ hk => if_neg hk

theorem run (hc : c₀.Listening) (h : Sound c₀ t) {t' : Traffic} (hrun : Run t t') :
    Sound c₀ t' := by
  induction hrun with
  | refl => exact h
  | tail _ hstep ih => exact ih.step hc hstep

end Sound

/-! ### The moves of the loops -/

/-- Publishing without a pause is two moves, or one if nobody listens. -/
theorem Sound.run_publish {c₀ : Consumer} {t : Traffic} (h : Sound c₀ t) (d : Delivery) :
    Run t (t.publish d) := by
  unfold Traffic.publish
  cases hs : (t.bus.pick d.key).1 with
  | none =>
    rw [Bus.publish_of_pick_eq_none hs]
    exact .single (.drop d hs)
  | some s =>
    obtain ⟨hkey, hnumber⟩ := Bus.pick_eq_some hs
    have hlive : (t.bus.pick d.key).2.subscribers s.key = t.bus.live d.key := by
      rw [Bus.subscribers_pick, if_pos hkey, hkey]
    obtain ⟨u, hu⟩ : ∃ u, (t.bus.pick d.key).2.subscriber? s = some u := by
      refine Bus.subscriber?_of_mem ?_
      rw [Bus.numbers, hlive]
      exact hnumber
    have hmem := (Bus.mem_subscribers hu).1
    rw [hlive] at hmem
    have hopen : u.isOpen = true := (List.mem_filter.1 hmem).2
    have hnodup := (h.steady.pick d.key).numbered.nodup s.key
    rw [Bus.publish_of_pick_eq_some (h.steady.numbered.nodup d.key) hs, ← Bus.capacity_pick,
      Bus.mapSubscriber_congr hnodup hu (g := fun _ => u.offer (t.bus.pick d.key).2.capacity d) rfl]
    exact (Relation.ReflTransGen.single (.pick d hs)).tail
      (.send (t := { t.withBus (t.bus.pick d.key).2 with sending := (s, d) ::ₘ t.sending })
        rfl hu (u.takes_offer _ d hopen))

/-- A background send completes, or there is none that can. -/
theorem Sound.run_arrive {c₀ : Consumer} {t : Traffic} (h : Sound c₀ t) (s : Subscription) :
    Run t (t.withBus (t.bus.arrive s)) := by
  have hstays {b : Bus} (hb : b = t.bus) : Run t (t.withBus b) := by
    rw [hb]
    exact .refl
  cases hu : t.bus.subscriber? s with
  | none => exact hstays (Bus.mapSubscriber_of_none hu _)
  | some u =>
    have hnodup := h.steady.numbered.nodup s.key
    rw [Bus.arrive_eq hnodup hu]
    rcases u.arrives_arrive t.bus.capacity with hsame | harrives
    · have hkept := Bus.mapSubscriber_congr hnodup hu (f := fun _ => u) (g := fun t => t) rfl
      rw [hsame]
      exact hstays (hkept.trans (Bus.mapSubscriber_eq_self fun _ _ _ => rfl))
    · exact .single (.arrive hu harrives)

/-- Whatever moves among the loops, it is a run here. -/
theorem Sound.exists_run {c₀ c : Consumer} {t : Traffic} (h : Sound c₀ t)
    (hstep : Consumer.Step t.consumer c) : ∃ t', t'.consumer = c ∧ Run t t' := by
  cases hstep with
  | receive hc => exact ⟨_, rfl, .single (.receive hc)⟩
  | dispatch hc => exact ⟨_, rfl, .single (.dispatch hc)⟩
  | advance hc => exact ⟨_, rfl, .single (.advance hc)⟩
  | publish d => exact ⟨_, rfl, h.run_publish d⟩
  | arrive hc =>
    unfold Consumer.arrive? at hc
    split at hc
    · cases hc
    · rename_i l hl
      obtain rfl := Option.some.inj hc
      exact ⟨_, rfl, h.run_arrive l.subscription⟩

/-! ### Conservation along every run -/

/-- However publishers, background sends, loops and jobs take turns, the messages published on a key
with a handler are those in its queues, in its background sends, held by its loops, being handled
and handled; no queue is longer than the capacity, no loop has more jobs than it may have, and the
counters tell how many messages were handled.

The moves split `Bus.publish` into picking a subscriber and handing over, so that others may act in
between. Publishing without a pause is a run of theirs (`Sound.run_publish`), and so is whatever
the loops do (`Sound.exists_run`). -/
theorem messages_conserved {c : Consumer} (hc : c.Listening) {t : Traffic}
    (hrun : Run (begin c) t) :
    (∀ key ∈ Handler.keys, onKey key t.published =
      t.bus.queued key + t.bus.waiting key + Loop.heldOn t.consumer.loops key +
        Loop.runningOn t.consumer.loops key + onKey key t.handled) ∧
      (∀ key, ∀ s ∈ t.bus.subscribers key, s.queue.length ≤ c.world.bus.capacity) ∧
      (∀ l ∈ t.consumer.loops, l.jobs.length ≤ c.prefetch) ∧
      t.consumer.concluded = c.concluded + t.handled.card := by
  have h := (sound_begin hc).run hc hrun
  refine ⟨fun key hkey => ?_, fun key s hs => ?_, fun l hl => ?_, h.counted⟩
  · rw [h.conserved key hkey, Bus.onWay, Loop.onWayOn]
    abel
  · rw [← h.steady.capacity]
    exact h.steady.fits key s hs
  · rw [← h.prefetch]
    exact (h.loops l hl).limited

/-- A consumer with queues for one message and loops that run one job at a time. -/
def narrow : Consumer :=
  (Consumer.idle .standard 1 (World.new 1 .epoch)).start

/-- A message that says nothing but its id. -/
def named (id : String) : Delivery := ⟨.text "", id, "", .taskStatus, .epoch⟩

/-- Five messages, each in another place: one was handled, one is being handled, one is held, one is
in the queue, and one is in a background send. -/
theorem five_messages_conserved : narrow.Listening ∧ ∃ t, Run (begin narrow) t ∧
    t.handled.map (·.id) = {"first"} ∧
    (Loop.runningOn t.consumer.loops .taskStatus).map (·.id) = ["second"] ∧
    (Loop.heldOn t.consumer.loops .taskStatus).map (·.id) = ["third"] ∧
    (t.bus.queued .taskStatus).map (·.id) = ["fourth"] ∧
    (t.bus.waiting .taskStatus).map (·.id) = ["fifth"] ∧
    onKey .taskStatus t.published =
      t.bus.queued .taskStatus + t.bus.waiting .taskStatus +
        Loop.heldOn t.consumer.loops .taskStatus + Loop.runningOn t.consumer.loops .taskStatus +
        onKey .taskStatus t.handled ∧
    (∀ key, ∀ s ∈ t.bus.subscribers key, s.queue.length ≤ 1) ∧
    (∀ l ∈ t.consumer.loops, l.jobs.length ≤ 1) ∧
    t.consumer.concluded = 1 := by
  have hc : narrow.Listening := (Consumer.atRest_idle .standard 1 1 .epoch).listening_start
  have hpublish {t : Traffic} (hrun : Run (begin narrow) t) (id : String) :
      Run (begin narrow) (t.publish (named id)) :=
    hrun.trans (((sound_begin hc).run hc hrun).run_publish (named id))
  have hfirst := ((hpublish .refl "first").tail (.receive (i := 0) rfl)).tail
    (.dispatch (i := 0) rfl)
  have hhandled := hfirst.tail (.advance (i := 0) (j := 0) rfl)
  have hsecond := ((hpublish hhandled "second").tail (.receive (i := 0) rfl)).tail
    (.dispatch (i := 0) rfl)
  have hthird := (hpublish hsecond "third").tail (.receive (i := 0) rfl)
  have hrun := hpublish (hpublish hthird "fourth") "fifth"
  obtain ⟨hconserved, hfits, hlimited, hcounted⟩ := messages_conserved hc hrun
  exact ⟨hc, _, hrun, rfl, rfl, rfl, rfl, rfl, hconserved .taskStatus (by decide), hfits, hlimited,
    hcounted⟩

end Traffic

end Inbox

end SensorTasks

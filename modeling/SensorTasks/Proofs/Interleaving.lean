import Mathlib.Logic.Relation
import SensorTasks.Program.Basic

/-!
Programs that take turns. A thread is a program together with what it has done so far, and threads
act on one world in any order. What a program does in such company is said with a rely: a property
that all worlds have, and a relation between a world and the later ones. A program obeys rules if
it keeps to them in every world that others may leave to it; threads that obey rules by themselves
obey them together, as soon as each command that the rules allow keeps the rely.
-/

namespace SensorTasks

/-- A command that was carried out, and its answer. -/
structure Event where
  command : Command
  answer : command.Answer

/-- A program on its way: what it has done, and what is left of it. -/
structure Thread (α : Type) where
  past : List Event
  rest : Program α

/-- What a program may count on while others act. -/
structure Rely where
  /-- What holds of every world. -/
  holds : World → Prop
  /-- The second world may come after the first one. -/
  later : World → World → Prop
  refl : ∀ w, later w w
  trans : ∀ {u v w}, later u v → later v w → later u w

/-- Nothing is known of the world. -/
def Rely.nothing : Rely where
  holds _ := True
  later _ _ := True
  refl _ := trivial
  trans _ _ := trivial

/-- What a program that has done `past` may do next in a world. -/
abbrev Rules := List Event → World → Command → Prop

/-- What is wanted of a result when a program that has done `past` comes to it. -/
abbrev Goal (α : Type) := List Event → World → α → Prop

namespace Program

variable {α β : Type} {R : Rely} {allowed : Rules} {goal : Goal α}

/-- Starting after `past` in the world `w`, the program only does what is allowed and reaches its
goal, whatever others do between its commands. -/
def Obeys (R : Rely) (allowed : Rules) (goal : Goal α) : Program α → List Event → World → Prop
  | done a, past, w => ∀ v, R.holds v → R.later w v → goal past v a
  | call c next, past, w => ∀ v, R.holds v → R.later w v →
    allowed past v c ∧
      (R.holds (c.run v).2 → R.later v (c.run v).2 →
        (next (c.run v).1).Obeys R allowed goal (past ++ [⟨c, (c.run v).1⟩]) (c.run v).2)

theorem Obeys.later {p : Program α} {past : List Event} {w v : World}
    (h : p.Obeys R allowed goal past w) (hv : R.later w v) : p.Obeys R allowed goal past v := by
  cases p with
  | done a => exact fun u hu huv => h u hu (R.trans hv huv)
  | call c next => exact fun u hu huv => h u hu (R.trans hv huv)

theorem Obeys.of_later {p : Program α} {past : List Event} {w : World}
    (h : ∀ v, R.holds v → R.later w v → p.Obeys R allowed goal past v) :
    p.Obeys R allowed goal past w := by
  cases p with
  | done a => exact fun v hv hwv => h v hv hwv v hv (R.refl v)
  | call c next => exact fun v hv hwv => h v hv hwv v hv (R.refl v)

/-- Rules may be relaxed and goals lowered. -/
theorem Obeys.mono {allowed' : Rules} {goal' : Goal α} {p : Program α} {past : List Event}
    {w : World} (h : p.Obeys R allowed goal past w)
    (ha : ∀ past v c, R.holds v → allowed past v c → allowed' past v c)
    (hg : ∀ past v a, R.holds v → goal past v a → goal' past v a) :
    p.Obeys R allowed' goal' past w := by
  induction p generalizing past w with
  | done a => exact fun v hv hwv => hg past v a hv (h v hv hwv)
  | call c next ih =>
    intro v hv hwv
    obtain ⟨hc, hn⟩ := h v hv hwv
    exact ⟨ha past v c hv hc, fun hr hl => ih _ (hn hr hl)⟩

/-- What keeps to two sets of rules keeps to both at once. -/
theorem Obeys.and {allowed' : Rules} {goal' : Goal α} {p : Program α} {past : List Event}
    {w : World} (h : p.Obeys R allowed goal past w) (h' : p.Obeys R allowed' goal' past w) :
    p.Obeys R (fun past v c => allowed past v c ∧ allowed' past v c)
      (fun past v a => goal past v a ∧ goal' past v a) past w := by
  induction p generalizing past w with
  | done a => exact fun v hv hwv => ⟨h v hv hwv, h' v hv hwv⟩
  | call c next ih =>
    intro v hv hwv
    obtain ⟨hc, hn⟩ := h v hv hwv
    obtain ⟨hc', hn'⟩ := h' v hv hwv
    exact ⟨⟨hc, hc'⟩, fun hr hl => ih _ (hn hr hl) (hn' hr hl)⟩

/-- A program comes to its result in a world after the one in which it started. -/
theorem Obeys.since {p : Program α} {past : List Event} {u w : World} (huw : R.later u w)
    (h : p.Obeys R allowed goal past w) :
    p.Obeys R allowed (fun past v a => R.later u v ∧ goal past v a) past w := by
  induction p generalizing past w with
  | done a => exact fun v hv hwv => ⟨R.trans huw hwv, h v hv hwv⟩
  | call c next ih =>
    intro v hv hwv
    obtain ⟨hc, hn⟩ := h v hv hwv
    exact ⟨hc, fun hr hl => ih _ (R.trans (R.trans huw hwv) hl) (hn hr hl)⟩

/-- One program after another: the goal of the first is that the second obeys. -/
theorem Obeys.bind {p : Program α} {f : α → Program β} {goal : Goal β} {past : List Event}
    {w : World}
    (h : p.Obeys R allowed (fun past v a => (f a).Obeys R allowed goal past v) past w) :
    (p >>= f).Obeys R allowed goal past w := by
  induction p generalizing past w with
  | done a => exact Obeys.of_later h
  | call c next ih =>
    intro v hv hwv
    obtain ⟨hc, hn⟩ := h v hv hwv
    exact ⟨hc, fun hr hl => ih _ (hn hr hl)⟩

theorem bind_assoc {γ : Type} (p : Program α) (f : α → Program β) (g : β → Program γ) :
    (p >>= f) >>= g = p >>= fun a => f a >>= g := by
  induction p with
  | done a => rfl
  | call c next ih => exact congrArg (call c) (funext ih)

theorem bind_done (p : Program α) : p >>= done = p := by
  induction p with
  | done a => rfl
  | call c next ih => exact congrArg (call c) (funext ih)

instance : LawfulMonad Program :=
  LawfulMonad.mk' Program bind_done (fun _ _ => rfl) bind_assoc

end Program

/-! ### Actions -/

namespace Action

variable {ε ε' α β : Type} {R : Rely} {allowed : Rules}

/-- The goal of an action, by what it ends with. -/
def endsIn (good : Goal α) (bad : Goal ε) : Goal (Except ε α)
  | past, v, .ok a => good past v a
  | past, v, .error e => bad past v e

@[simp] theorem run_pure (a : α) : (pure a : Action ε α).run = .done (.ok a) := rfl

@[simp] theorem run_perform_bind (c : Command) (f : c.Answer → Action ε α) :
    (perform c >>= f).run = .call c fun answer => (f answer).run := rfl

/-- The program of an action followed by another one that needs its value. -/
theorem run_bind (a : Action ε α) (f : α → Action ε β) :
    (a >>= f).run = a.run >>= fun
      | .ok x => (f x).run
      | .error e => .done (.error e) := by
  show (ExceptT.run a).bind _ = (ExceptT.run a).bind _
  congr 1

theorem run_mapError (f : ε → ε') (a : Action ε α) :
    (a.mapError f).run = a.run >>= fun
      | .ok x => .done (.ok x)
      | .error e => .done (.error (f e)) := by
  show (ExceptT.run a).bind _ = (ExceptT.run a).bind _
  congr 1
  funext r
  cases r <;> rfl

theorem mapError_pure (f : ε → ε') (a : α) : (pure a : Action ε α).mapError f = pure a := rfl

theorem mapError_perform (f : ε → ε') (c : Command) :
    (perform c : Action ε c.Answer).mapError f = perform c := rfl

theorem mapError_bind (f : ε → ε') (a : Action ε α) (g : α → Action ε β) :
    (a >>= g).mapError f = a.mapError f >>= fun x => (g x).mapError f := by
  apply ExceptT.ext
  rw [run_mapError, run_bind, run_bind, run_mapError, Program.bind_assoc, Program.bind_assoc]
  congr 1
  funext r
  cases r with
  | ok x => exact (run_mapError f (g x)).symm
  | error e => rfl

/-- One action after another: the first one is good if it leaves the second one in a place from
where it obeys. -/
theorem obeys_bind {a : Action ε α} {f : α → Action ε β} {good : Goal β} {bad : Goal ε}
    {past : List Event} {w : World}
    (h : a.run.Obeys R allowed
      (endsIn (fun past v x => (f x).run.Obeys R allowed (endsIn good bad) past v)
        (fun past v e => ∀ u, R.holds u → R.later v u → bad past u e)) past w) :
    (a >>= f).run.Obeys R allowed (endsIn good bad) past w := by
  rw [run_bind]
  refine Program.Obeys.bind (h.mono (fun _ _ _ _ h => h) fun past v r _ hr => ?_)
  cases r with
  | ok x => exact hr
  | error e => exact hr

theorem obeys_mapError {f : ε → ε'} {a : Action ε α} {good : Goal α} {bad : Goal ε'}
    {past : List Event} {w : World}
    (h : a.run.Obeys R allowed
      (endsIn (fun past v x => ∀ u, R.holds u → R.later v u → good past u x)
        (fun past v e => ∀ u, R.holds u → R.later v u → bad past u (f e))) past w) :
    (a.mapError f).run.Obeys R allowed (endsIn good bad) past w := by
  rw [run_mapError]
  refine Program.Obeys.bind (h.mono (fun _ _ _ _ h => h) fun past v r _ hr => ?_)
  cases r with
  | ok x => exact hr
  | error e => exact hr

/-- The action keeps to the rules and does not fail, and what it comes to is as wanted. -/
def Ensures (R : Rely) (allowed : Rules) (a : Action ε α) (post : Goal α) (past : List Event)
    (w : World) : Prop :=
  a.run.Obeys R allowed (endsIn post fun _ _ _ => False) past w

namespace Ensures

variable {a : Action ε α} {post : Goal α} {past : List Event} {w : World}

theorem pure {x : α} (h : ∀ v, R.holds v → R.later w v → post past v x) :
    Ensures R allowed (Pure.pure x : Action ε α) post past w :=
  h

theorem perform {c : Command} {f : c.Answer → Action ε α}
    (h : ∀ v, R.holds v → R.later w v → allowed past v c ∧
      (R.holds (c.run v).2 → R.later v (c.run v).2 →
        Ensures R allowed (f (c.run v).1) post (past ++ [⟨c, (c.run v).1⟩]) (c.run v).2)) :
    Ensures R allowed (Action.perform c >>= f) post past w :=
  h

theorem bind {f : α → Action ε β} {post' : Goal β} (h : Ensures R allowed a post past w)
    (hf : ∀ x past v, R.holds v → R.later w v → post past v x →
      Ensures R allowed (f x) post' past v) :
    Ensures R allowed (a >>= f) post' past w := by
  refine obeys_bind ((Program.Obeys.since (R.refl w) h).mono (fun _ _ _ _ h => h)
    fun past v res hv hres => ?_)
  cases res with
  | ok x => exact hf x past v hv hres.1 hres.2
  | error e => exact hres.2.elim

theorem imp {post' : Goal α} (h : Ensures R allowed a post past w)
    (himp : ∀ past v x, R.later w v → post past v x → post' past v x) :
    Ensures R allowed a post' past w := by
  refine (Program.Obeys.since (R.refl w) h).mono (fun _ _ _ _ h => h) fun past v res _ hres => ?_
  cases res with
  | ok x => exact himp past v x hres.1 hres.2
  | error e => exact hres.2

/-- Errors that do not come do not matter. -/
theorem mapError {f : ε → ε'} (h : Ensures R allowed a post past w)
    (hpost : ∀ past v u x, R.holds u → R.later v u → post past v x → post past u x) :
    Ensures R allowed (a.mapError f) post past w := by
  refine obeys_mapError (h.mono (fun _ _ _ _ h => h) fun past v res _ hres => ?_)
  cases res with
  | ok x => exact fun u hu hvu => hpost past v u x hu hvu hres
  | error e => exact hres.elim

end Ensures

end Action

/-! ### Threads -/

namespace Thread

variable {α : Type}

/-- A thread that has done nothing yet. -/
def start (p : Program α) : Thread α := ⟨[], p⟩

/-- The thread after its next command. -/
def after (past : List Event) (c : Command) (next : c.Answer → Program α) (w : World) : Thread α :=
  ⟨past ++ [⟨c, (c.run w).1⟩], next (c.run w).1⟩

/-- One of the threads carries out its next command. -/
inductive Step : List (Thread α) × World → List (Thread α) × World → Prop where
  | mk {ts : List (Thread α)} {w : World} {i : Nat} {past : List Event} {c : Command}
      {next : c.Answer → Program α} (h : ts[i]? = some ⟨past, .call c next⟩) :
    Step (ts, w) (ts.set i (after past c next w), (c.run w).2)

/-- Any number of steps. -/
def Steps : List (Thread α) × World → List (Thread α) × World → Prop :=
  Relation.ReflTransGen Step

/-- What a thread has come to, if it is at its end. -/
def result? (t : Thread α) : Option α :=
  match t.rest with
  | .done a => some a
  | .call _ _ => none

/-- Every thread has come to its end. -/
def AllDone (ts : List (Thread α)) : Prop := ∀ t ∈ ts, ∃ a, t.rest = .done a

/-- After one thread is replaced, a thread is the new one or one of the others. -/
theorem of_set {ts : List (Thread α)} {i k : Nat} {t u : Thread α}
    (h : (ts.set i t)[k]? = some u) : k = i ∧ u = t ∨ k ≠ i ∧ ts[k]? = some u := by
  rw [List.getElem?_set] at h
  split at h
  · rename_i hik
    obtain ⟨-, rfl⟩ : i < ts.length ∧ t = u := by simpa using h
    exact Or.inl ⟨hik.symm, rfl⟩
  · rename_i hik
    exact Or.inr ⟨Ne.symm hik, h⟩

/-- What a thread has done after a step, it has done before or just now. -/
theorem mem_past_of_step {ts : List (Thread α)} {w : World} {i k : Nat} {past : List Event}
    {c : Command} {next : c.Answer → Program α} {t : Thread α} {e : Event}
    (hi : ts[i]? = some ⟨past, .call c next⟩) (hk : (ts.set i (after past c next w))[k]? = some t)
    (he : e ∈ t.past) :
    (∃ u, ts[k]? = some u ∧ e ∈ u.past) ∨ k = i ∧ e = ⟨c, (c.run w).1⟩ := by
  rcases of_set hk with ⟨rfl, rfl⟩ | ⟨-, hk⟩
  · rcases List.mem_append.1 he with he | he
    · exact Or.inl ⟨_, hi, he⟩
    · exact Or.inr ⟨rfl, List.mem_singleton.1 he⟩
  · exact Or.inl ⟨t, hk, he⟩

/-- What a thread has done before a step, it has done. -/
theorem exists_of_step {ts : List (Thread α)} {i k : Nat} {past : List Event} {c : Command}
    {next : c.Answer → Program α} {t : Thread α} (hi : ts[i]? = some ⟨past, .call c next⟩)
    (hk : ts[k]? = some t) (w : World) :
    ∃ u, (ts.set i (after past c next w))[k]? = some u ∧ ∀ e ∈ t.past, e ∈ u.past := by
  by_cases hki : i = k
  · subst hki
    obtain rfl : (⟨past, .call c next⟩ : Thread α) = t := Option.some.inj (hi.symm.trans hk)
    exact ⟨after past c next w, List.getElem?_set_self (List.getElem?_eq_some_iff.1 hi).1,
      fun e he => List.mem_append_left _ he⟩
  · exact ⟨t, (List.getElem?_set_ne hki).trans hk, fun e he => he⟩

theorem Steps.length {s s' : List (Thread α) × World} (run : Steps s s') :
    s'.1.length = s.1.length := by
  induction run with
  | refl => rfl
  | tail _ h ih =>
    cases h
    simpa using ih

section Start

variable {ι : Type} {xs : List ι} {f : ι → Program α} {ts : List (Thread α)} {w v : World} {i : Nat}

/-- A thread of those that start is the one of its program. -/
theorem of_start {t : Thread α} (h : (xs.map fun x => start (f x))[i]? = some t) :
    ∃ x, xs[i]? = some x ∧ start (f x) = t := by
  simpa using h

/-- Each thread has a program that it has started with. -/
theorem Steps.exists_origin (run : Steps (xs.map fun x => start (f x), w) (ts, v)) {t : Thread α}
    (ht : ts[i]? = some t) : ∃ x, xs[i]? = some x := by
  have hlt := (List.getElem?_eq_some_iff.1 ht).1
  have hlen := Steps.length run
  simp only [List.length_map] at hlen
  exact ⟨_, List.getElem?_eq_getElem (hlen ▸ hlt)⟩

/-- Each program has a thread that has started with it. -/
theorem Steps.exists_thread (run : Steps (xs.map fun x => start (f x), w) (ts, v)) {x : ι}
    (hx : xs[i]? = some x) : ∃ t : Thread α, ts[i]? = some t := by
  have hlt := (List.getElem?_eq_some_iff.1 hx).1
  have hlen := Steps.length run
  simp only [List.length_map] at hlen
  exact ⟨_, List.getElem?_eq_getElem (hlen ▸ hlt)⟩

end Start

/-- The steps of threads are those of their programs. -/
theorem Steps.programs {s s' : List (Thread α) × World} (run : Steps s s') :
    Program.Steps (s.1.map rest, s.2) (s'.1.map rest, s'.2) := by
  induction run with
  | refl => exact .refl _
  | tail _ h ih =>
    obtain @⟨ts, w, i, past, c, next, hi⟩ := h
    refine .tail ih ?_
    obtain ⟨hlt, he⟩ := List.getElem?_eq_some_iff.1 hi
    have hsplit : ts.map rest =
        (ts.take i).map rest ++ .call c next :: (ts.drop (i + 1)).map rest := by
      have h := congrArg (List.map rest) (List.take_append_drop i ts)
      rw [List.drop_eq_getElem_cons hlt, he] at h
      simpa using h.symm
    have hset : (ts.set i (after past c next w)).map rest =
        (ts.take i).map rest ++ next (c.run w).1 :: (ts.drop (i + 1)).map rest := by
      rw [List.set_eq_take_append_cons_drop, if_pos hlt]
      simp [after]
    simp only [hsplit, hset]
    exact .mk rfl

/-- Programs that take turns are threads whose pasts nobody looks at. -/
theorem exists_of_programs {s s' : List (Program α) × World} (run : Program.Steps s s') :
    ∃ ts, Steps (s.1.map start, s.2) (ts, s'.2) ∧ ts.map rest = s'.1 := by
  induction run with
  | refl => exact ⟨_, .refl, by simp [Function.comp_def, start]⟩
  | tail _ h ih =>
    obtain ⟨ts, hrun, hts⟩ := ih
    obtain @⟨before, rest, p, p', w₁, w₂, hp⟩ := h
    cases p with
    | done a => simp [Program.advance?] at hp
    | call c next =>
      simp only [Program.advance?, Option.some.injEq, Prod.mk.injEq] at hp
      obtain ⟨rfl, rfl⟩ := hp
      obtain ⟨ts₁, ts₂, rfl, h₁, h₂⟩ := List.map_eq_append_iff.1 hts
      obtain ⟨⟨past, q⟩, ts₃, rfl, h₃, h₄⟩ := List.map_eq_cons_iff.1 h₂
      simp only at h₃
      subst h₃
      have hi : (ts₁ ++ ⟨past, .call c next⟩ :: ts₃)[ts₁.length]? =
          some ⟨past, .call c next⟩ := by simp
      exact ⟨_, hrun.tail (.mk hi), by simp [h₁, h₄, after]⟩

/-! ### Running to the end -/

/-- A thread may run to its end while the others wait. -/
theorem Steps.finish {ts : List (Thread α)} {w : World} {i : Nat} {past : List Event}
    {p : Program α} (h : ts[i]? = some ⟨past, p⟩) :
    ∃ past', Steps (ts, w) (ts.set i ⟨past', .done (p.run w).1⟩, (p.run w).2) := by
  induction p generalizing ts w past with
  | done a =>
    refine ⟨past, ?_⟩
    obtain ⟨hlt, he⟩ := List.getElem?_eq_some_iff.1 h
    rw [Program.run_done, ← he, List.set_getElem_self]
    exact .refl
  | call c next ih =>
    obtain ⟨hlt, -⟩ := List.getElem?_eq_some_iff.1 h
    have hi : (ts.set i (after past c next w))[i]? = some (after past c next w) := by
      simp [hlt]
    obtain ⟨past', hrun⟩ := ih _ (w := (c.run w).2) hi
    rw [List.set_set] at hrun
    exact ⟨past', .head (.mk h) hrun⟩

/-- Whatever threads have done, they can all come to their ends. -/
theorem Steps.exists_allDone (ts : List (Thread α)) (w : World) :
    ∃ s, Steps (ts, w) s ∧ AllDone s.1 := by
  have hsome : ∀ n ≤ ts.length, ∃ s, Steps (ts, w) s ∧
      ∀ i < n, ∀ t : Thread α, s.1[i]? = some t → ∃ a, t.rest = .done a := by
    intro n
    induction n with
    | zero => exact fun _ => ⟨_, .refl, fun i hi => by omega⟩
    | succ n ih =>
      intro hn
      obtain ⟨⟨us, v⟩, hrun, hdone⟩ := ih (by omega)
      have hlt : n < us.length := by
        have := Steps.length hrun
        simp only at this
        omega
      obtain ⟨past', hend⟩ := Steps.finish (w := v) (List.getElem?_eq_getElem hlt)
      refine ⟨_, hrun.trans hend, fun i hi t ht => ?_⟩
      rcases of_set ht with ⟨-, rfl⟩ | ⟨hin, ht⟩
      · exact ⟨_, rfl⟩
      · exact hdone i (by omega) t ht
  obtain ⟨s, hrun, hdone⟩ := hsome ts.length (Nat.le_refl _)
  refine ⟨s, hrun, fun t ht => ?_⟩
  obtain ⟨i, hi⟩ := List.mem_iff_getElem?.1 ht
  have hlt := (List.getElem?_eq_some_iff.1 hi).1
  rw [Steps.length hrun] at hlt
  exact hdone i hlt t hi

theorem allDone_iff {ts : List (Thread α)} :
    AllDone ts ↔ ts.all (fun t => t.result?.isSome) = true := by
  rw [List.all_eq_true]
  refine forall_congr' fun t => forall_congr' fun _ => ?_
  obtain ⟨past, p⟩ := t
  cases p <;> simp [result?]

/-- One thread has its turn; if it is at its end, nothing happens. -/
def turn (s : List (Thread α) × World) (i : Nat) : List (Thread α) × World :=
  match s.1[i]? with
  | some ⟨past, .call c next⟩ => (s.1.set i (after past c next s.2), (c.run s.2).2)
  | _ => s

/-- The threads have their turns in the given order. -/
def turns (s : List (Thread α) × World) (order : List Nat) : List (Thread α) × World :=
  order.foldl turn s

theorem Steps.turn (s : List (Thread α) × World) (i : Nat) : Steps s (Thread.turn s i) := by
  obtain ⟨ts, w⟩ := s
  unfold Thread.turn
  split
  · rename_i h
    exact .single (.mk h)
  · exact .refl

theorem Steps.turns (s : List (Thread α) × World) (order : List Nat) :
    Steps s (Thread.turns s order) := by
  induction order generalizing s with
  | nil => exact .refl
  | cons i order ih => exact (Steps.turn s i).trans (ih (Thread.turn s i))

/-! ### Threads that obey rules -/

variable {R : Rely} {allowed : Nat → Rules} {goal : Nat → Goal α}

/-- All that was done was allowed when it was done, in a world before `w`. -/
def Recorded (R : Rely) (allowed : Rules) (past : List Event) (w : World) : Prop :=
  ∀ before e after, past = before ++ e :: after →
    ∃ v, R.holds v ∧ allowed before v e.command ∧ e.answer = (e.command.run v).1 ∧
      R.holds (e.command.run v).2 ∧ R.later (e.command.run v).2 w

/-- All threads have kept to their rules and will do so. -/
structure Lawful (R : Rely) (allowed : Nat → Rules) (goal : Nat → Goal α)
    (s : List (Thread α) × World) : Prop where
  holds : R.holds s.2
  obeys : ∀ i (t : Thread α), s.1[i]? = some t → t.rest.Obeys R (allowed i) (goal i) t.past s.2
  recorded : ∀ i (t : Thread α), s.1[i]? = some t → Recorded R (allowed i) t.past s.2

theorem Recorded.later {allowed : Rules} {past : List Event} {w v : World}
    (h : Recorded R allowed past w) (hv : R.later w v) : Recorded R allowed past v := by
  intro before e after he
  obtain ⟨u, hu, ha, hanswer, hu', hl⟩ := h before e after he
  exact ⟨u, hu, ha, hanswer, hu', R.trans hl hv⟩

theorem Recorded.append {allowed : Rules} {past : List Event} {w : World} {c : Command}
    (h : Recorded R allowed past w) (hw : R.holds w) (ha : allowed past w c)
    (hh : R.holds (c.run w).2) (hl : R.later w (c.run w).2) :
    Recorded R allowed (past ++ [⟨c, (c.run w).1⟩]) (c.run w).2 := by
  intro before e rest he
  rcases List.eq_nil_or_concat rest with rfl | ⟨rest, last, rfl⟩
  · obtain ⟨rfl, h'⟩ := List.append_inj' he rfl
    obtain rfl : _ = e := by simpa using h'
    exact ⟨w, hw, ha, rfl, hh, R.refl _⟩
  · have he' : past ++ [⟨c, (c.run w).1⟩] = (before ++ e :: rest) ++ [last] := by
      rw [he]
      simp
    obtain ⟨rfl, -⟩ := List.append_inj' he' rfl
    exact h.later hl before e rest rfl

/-- Threads that obey rules by themselves obey them together, if what is allowed keeps the rely. -/
theorem Steps.lawful {J : List (Thread α) × World → Prop}
    (kept : ∀ ts w i past c next, ts[i]? = some ⟨past, .call c next⟩ →
      Lawful R allowed goal (ts, w) → J (ts, w) → allowed i past w c →
      R.holds (c.run w).2 ∧ R.later w (c.run w).2 ∧
        J (ts.set i (after past c next w), (c.run w).2))
    {s s' : List (Thread α) × World} (run : Steps s s') (h : Lawful R allowed goal s) (hJ : J s) :
    Lawful R allowed goal s' ∧ J s' ∧ R.later s.2 s'.2 := by
  induction run with
  | refl => exact ⟨h, hJ, R.refl _⟩
  | tail _ hstep ih =>
    obtain ⟨h, hJ, hlater⟩ := ih
    obtain @⟨ts, w, i, past, c, next, hi⟩ := hstep
    obtain ⟨hc, hnext⟩ := h.obeys i _ hi w h.holds (R.refl w)
    obtain ⟨hh, hl, hJ'⟩ := kept ts w i past c next hi h hJ hc
    refine ⟨⟨hh, fun j t ht => ?_, fun j t ht => ?_⟩, hJ', R.trans hlater hl⟩
    · rcases of_set ht with ⟨rfl, rfl⟩ | ⟨-, ht⟩
      · exact hnext hh hl
      · exact (h.obeys j t ht).later hl
    · rcases of_set ht with ⟨rfl, rfl⟩ | ⟨-, ht⟩
      · exact (h.recorded _ _ hi).append h.holds hc hh hl
      · exact (h.recorded j t ht).later hl

/-- Threads that have done nothing are lawful if their programs obey. -/
theorem Lawful.start {ι : Type} {xs : List ι} {f : ι → Program α} {w : World} (hw : R.holds w)
    (h : ∀ i x, xs[i]? = some x → (f x).Obeys R (allowed i) (goal i) [] w) :
    Lawful R allowed goal (xs.map fun x => Thread.start (f x), w) where
  holds := hw
  obeys i t ht := by
    obtain ⟨x, hx, rfl⟩ := of_start ht
    exact h i x hx
  recorded i t ht before e after he := by
    obtain ⟨x, -, rfl⟩ := of_start ht
    simp [Thread.start] at he

/-- A thread at its end has reached its goal. -/
theorem Lawful.reached {s : List (Thread α) × World} {i : Nat} {past : List Event} {a : α}
    (h : Lawful R allowed goal s) (hi : s.1[i]? = some ⟨past, .done a⟩) : goal i past s.2 a :=
  h.obeys i _ hi s.2 h.holds (R.refl _)

/-- If a program takes something away from the world, one of its commands does, and the thread may
stop right before that one. -/
theorem Steps.exists_breaking {allowed : Rules} {goal : Goal α} {P : World → Prop}
    {K : List Event → World → Prop}
    (kept : ∀ past v c, R.holds v → K past v → allowed past v c →
      R.holds (c.run v).2 ∧ R.later v (c.run v).2 ∧
        K (past ++ [⟨c, (c.run v).1⟩]) (c.run v).2)
    {p : Program α} {ts : List (Thread α)} {w : World} {i : Nat} {past : List Event}
    (h : p.Obeys R allowed goal past w) (hw : R.holds w) (hK : K past w) (hP : P w)
    (hend : ¬P (p.run w).2) (hi : ts[i]? = some ⟨past, p⟩) :
    ∃ past' c next u, Steps (ts, w) (ts.set i ⟨past', .call c next⟩, u) ∧ R.holds u ∧ K past' u ∧
      allowed past' u c ∧ P u ∧ ¬P (c.run u).2 := by
  induction p generalizing ts w past with
  | done a => exact absurd hP hend
  | call c next ih =>
    obtain ⟨ha, hnext⟩ := h w hw (R.refl w)
    obtain ⟨hw', hl, hK'⟩ := kept past w c hw hK ha
    obtain ⟨hlt, he⟩ := List.getElem?_eq_some_iff.1 hi
    by_cases hP' : P (c.run w).2
    · have hi' : (ts.set i (after past c next w))[i]? = some (after past c next w) := by
        simp [hlt]
      obtain ⟨past', c', next', u, hrun, hu⟩ := ih _ (hnext hw' hl) hw' hK' hP' hend hi'
      rw [List.set_set] at hrun
      exact ⟨past', c', next', u, .head (.mk hi) hrun, hu⟩
    · refine ⟨past, c, next, w, ?_, hw, hK, ha, hP, hP'⟩
      rw [← he, List.set_getElem_self]
      exact .refl

end Thread

end SensorTasks

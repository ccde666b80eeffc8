import SensorTasks.Lifecycle.Visibility
import SensorTasks.Proofs.Arriving
import SensorTasks.Proofs.Interleaving
import SensorTasks.Proofs.Reachable

/-!
Requests to change the visibility of one file that are made at the same time. A request looks
whether the file is marked as changing, and marks it by a later command, which does not look again.
So the requests that get through are those that found the file unmarked: once it is marked all
others are refused, but two that look before either has marked it both get through.
-/

namespace SensorTasks

open Message Ledger

/-! ### Sending requests -/

/-- The command puts a request for a change of visibility on the bus. -/
def Command.requestsVisibility : Command → Bool
  | .publish _ .fileStatusVisibilityState _ => true
  | _ => false

namespace Visibility

/-- What a call asks for. -/
structure Call where
  published : Bool
  platforms : Option (List Platform)

/-- The end of a call: the request is sent, and counted. -/
def announce (exchange : String) (c : Call) (f : File) : Program (Except FileError File) :=
  .call (.publish exchange .fileStatusVisibilityState
    (.document (request f c.published c.platforms).toJson)) fun _ =>
      .call (.count .messagesPublished) fun _ => .done (.ok f)

/-- What a call does once it has found the file unmarked. -/
def mark (exchange : String) (id : FileId) (c : Call) : Program (Except FileError File) :=
  .call (.updateFile id beginChange) fun
    | .ok f => announce exchange c f
    | .error e => .done (.error (.ledger e))

/-- A call on the file, through an outbox with all schemas. -/
def Call.program (exchange : String) (id : FileId) (c : Call) : Program (Except FileError File) :=
  (requestChange ⟨.standard, exchange⟩ id c.published c.platforms).run

theorem send_request (exchange : String) (m : VisibilityRequest) :
    (Outbox.mk .standard exchange).send .fileStatusVisibilityState m.toJson =
      publish exchange .fileStatusVisibilityState m.toJson := by
  unfold Outbox.send Outbox.sendTo
  have hcontains : Registry.standard.contains .fileStatusVisibilityState = true := rfl
  simp only [hcontains, if_true, m.validate_toJson]

theorem Call.program_eq (exchange : String) (id : FileId) (c : Call) :
    c.program exchange id = .call (.findFile id) fun
      | none => .done (.error (.notFound id))
      | some f =>
        if f.visibility.stateChanging then .done (.error (.stateChanging id))
        else mark exchange id c := by
  unfold Call.program requestChange find
  rw [bind_assoc, Action.run_perform_bind]
  refine congrArg _ (funext fun found => ?_)
  cases found with
  | none => rfl
  | some f =>
    rw [Action.orFail, pure_bind]
    dsimp only
    split
    · rfl
    · refine congrArg (Program.call (.updateFile id beginChange)) (funext fun answer => ?_)
      cases answer with
      | error e => rfl
      | ok f =>
        show (ExceptT.lift (Outbox.send _ _ _).run >>= _ : Action FileError File).run = _
        rw [send_request]
        rfl

/-! ### The course of a call -/

/-- A call that takes turns with others. -/
abbrev Caller := Thread (Except FileError File)

/-- The call has found the file unmarked. -/
def Passed (id : FileId) (t : Caller) : Prop :=
  ∃ g, Event.mk (.findFile id) (some g) ∈ t.past ∧ g.visibility.stateChanging = false

/-- The call has sent a request. -/
def Published (t : Caller) : Prop := ∃ e ∈ t.past, e.command.requestsVisibility = true

instance (t : Caller) : Decidable (Published t) :=
  inferInstanceAs (Decidable (∃ e ∈ t.past, e.command.requestsVisibility = true))

/-- How far a call on a stored file has come. -/
inductive Stage (exchange : String) (id : FileId) (c : Call) : Caller → Prop where
  | fresh : Stage exchange id c (Thread.start (c.program exchange id))
  | refused {g : File} (h : g.visibility.stateChanging = true) :
    Stage exchange id c ⟨[⟨.findFile id, some g⟩], .done (.error (.stateChanging id))⟩
  | checked {g : File} (h : g.visibility.stateChanging = false) :
    Stage exchange id c ⟨[⟨.findFile id, some g⟩], mark exchange id c⟩
  | marked {g f : File} (h : g.visibility.stateChanging = false) :
    Stage exchange id c
      ⟨[⟨.findFile id, some g⟩, ⟨.updateFile id beginChange, .ok f⟩], announce exchange c f⟩
  | sent {g f : File} {payload : Payload} (h : g.visibility.stateChanging = false) :
    Stage exchange id c
      ⟨[⟨.findFile id, some g⟩, ⟨.updateFile id beginChange, .ok f⟩,
        ⟨.publish exchange .fileStatusVisibilityState payload, ()⟩],
        .call (.count .messagesPublished) fun _ => .done (.ok f)⟩
  | passed {g f : File} {payload : Payload} (h : g.visibility.stateChanging = false) :
    Stage exchange id c
      ⟨[⟨.findFile id, some g⟩, ⟨.updateFile id beginChange, .ok f⟩,
        ⟨.publish exchange .fileStatusVisibilityState payload, ()⟩,
        ⟨.count .messagesPublished, ()⟩], .done (.ok f)⟩

/-- The file is stored and marked as changing. -/
def Marked (id : FileId) (w : World) : Prop :=
  ∃ g, w.ledger.file? id = some g ∧ g.visibility.stateChanging = true

variable {exchange : String} {id : FileId} {calls : List Call} {ts us : List Caller}
  {u v w : World} {i : Nat} {c : Call} {t : Caller}

/-- Only who has found the file unmarked sends a request, and the others are refused. -/
theorem Stage.outcome (h : Stage exchange id c t) {r : Except FileError File}
    (hr : t.rest = .done r) :
    Passed id t ∧ Published t ∧ (∃ f, r = .ok f) ∨
      ¬Passed id t ∧ ¬Published t ∧ r = .error (.stateChanging id) := by
  cases h with
  | refused hg =>
    refine Or.inr ⟨?_, by simp [Published, Command.requestsVisibility], (Program.done.inj hr).symm⟩
    rintro ⟨g, hmem, hg'⟩
    obtain rfl : g = _ := by simpa using hmem
    rw [hg] at hg'
    cases hg'
  | passed hg =>
    exact Or.inl ⟨⟨_, List.mem_cons_self, hg⟩, by simp [Published, Command.requestsVisibility],
      _, (Program.done.inj hr).symm⟩
  | fresh =>
    rw [Thread.start, Call.program_eq] at hr
    cases hr
  | _ => cases hr

/-- Who has sent a request has found the file unmarked. -/
theorem Stage.passed_of_published (h : Stage exchange id c t) (ht : Published t) : Passed id t := by
  cases h with
  | fresh => simp [Published, Thread.start] at ht
  | refused _ => simp [Published, Command.requestsVisibility] at ht
  | _ => exact ⟨_, List.mem_cons_self, ‹_›⟩

/-- The file is stored under its id, and every call is at one of its stages. -/
structure Course (exchange : String) (id : FileId) (calls : List Call)
    (s : List Caller × World) : Prop where
  file : ∃ g, s.2.ledger.file? id = some g ∧ g.id = id
  stage : ∀ (i : Nat) (t : Caller) c, s.1[i]? = some t → calls[i]? = some c →
    Stage exchange id c t

/-- What the next command of a call does to the call and to the file: it passes if it finds the file
unmarked, and a mark stays. -/
theorem Course.next (h : Course exchange id calls (ts, v)) {past : List Event} {k : Command}
    {next : k.Answer → Program (Except FileError File)}
    (hi : ts[i]? = some ⟨past, .call k next⟩) (hc : calls[i]? = some c) :
    Stage exchange id c (Thread.after past k next v) ∧
      (∃ g, (k.run v).2.ledger.file? id = some g ∧ g.id = id) ∧
      (Marked id v → Marked id (k.run v).2 ∧
        (Passed id (Thread.after past k next v) → Passed id ⟨past, .call k next⟩)) := by
  obtain ⟨g, hg, hid⟩ := h.file
  have hstage := h.stage i _ c hi hc
  generalize ht : (⟨past, .call k next⟩ : Caller) = t at hstage
  cases hstage with
  | fresh =>
    rw [Thread.start, Call.program_eq] at ht
    cases ht
    have hanswer : ((Command.findFile id).run v).1 = some g := hg
    simp only [Thread.after, hanswer, List.nil_append]
    cases hmark : g.visibility.stateChanging with
    | true =>
      refine ⟨.refused hmark, ⟨g, hg, hid⟩, fun hm => ⟨hm, ?_⟩⟩
      rintro ⟨g', hmem, hg'⟩
      obtain rfl : g' = g := by simpa using hmem
      rw [hmark] at hg'
      cases hg'
    | false =>
      refine ⟨.checked hmark, ⟨g, hg, hid⟩, ?_⟩
      rintro ⟨g', hg', hmark'⟩
      obtain rfl := Option.some.inj (hg.symm.trans hg')
      rw [hmark] at hmark'
      cases hmark'
  | @checked g' hmark =>
    cases ht
    have hfile : (v.ledger.putFile (beginChange.apply v.clock g)).file? id =
        some (beginChange.apply v.clock g) :=
      (Ledger.file?_putFile _ _ _).trans (if_pos hid.symm)
    simp only [Thread.after, Command.run_updateFile hg]
    exact ⟨.marked hmark, ⟨_, hfile, hid⟩, fun _ =>
      ⟨⟨_, hfile, rfl⟩, fun _ => ⟨g', List.mem_cons_self, hmark⟩⟩⟩
  | @marked g' _ hmark =>
    cases ht
    exact ⟨.sent hmark, ⟨g, hg, hid⟩, fun hm => ⟨hm, fun _ => ⟨g', List.mem_cons_self, hmark⟩⟩⟩
  | @sent g' _ _ hmark =>
    cases ht
    exact ⟨.passed hmark, ⟨g, hg, hid⟩, fun hm => ⟨hm, fun _ => ⟨g', List.mem_cons_self, hmark⟩⟩⟩
  | refused _ => cases ht
  | passed _ => cases ht

/-- The call with this number has not found the file unmarked. -/
def NotPassed (id : FileId) (i : Nat) (ts : List Caller) : Prop :=
  ∀ t, ts[i]? = some t → ¬Passed id t

/-- Every step leaves the calls at their stages, and leaves a mark. If the file is marked already,
no call passes by a step. -/
theorem Course.step {past : List Event} {k : Command}
    {next : k.Answer → Program (Except FileError File)} (h : Course exchange id calls (ts, v))
    (hlen : ts.length = calls.length) (hi : ts[i]? = some ⟨past, .call k next⟩) :
    Course exchange id calls (ts.set i (Thread.after past k next v), (k.run v).2) ∧
      (Marked id v → Marked id (k.run v).2 ∧
        ∀ j, NotPassed id j ts → NotPassed id j (ts.set i (Thread.after past k next v))) := by
  have hlt := (List.getElem?_eq_some_iff.1 hi).1
  have hc := List.getElem?_eq_getElem (hlen ▸ hlt)
  obtain ⟨hstage, hfile, hmarked⟩ := h.next hi hc
  refine ⟨⟨hfile, fun j t c hj hc' => ?_⟩, fun hm => ⟨(hmarked hm).1, fun j hnot t hj => ?_⟩⟩
  · rcases Thread.of_set hj with ⟨rfl, rfl⟩ | ⟨-, hj⟩
    · exact Option.some.inj (hc.symm.trans hc') ▸ hstage
    · exact h.stage j t c hj hc'
  · rcases Thread.of_set hj with ⟨rfl, rfl⟩ | ⟨-, hj⟩
    · exact fun hp => hnot _ hi ((hmarked hm).2 hp)
    · exact hnot t hj

/-- The calls on the file begin. -/
def start (exchange : String) (id : FileId) (calls : List Call) : List Caller :=
  calls.map fun c => Thread.start (c.program exchange id)

theorem length_start : (start exchange id calls).length = calls.length := List.length_map _

theorem Course.start {f : File} (hw : w.Consistent) (hf : w.ledger.file? id = some f) :
    Course exchange id calls (Visibility.start exchange id calls, w) := by
  refine ⟨⟨f, hf, hw.indexed.file_id hf⟩, fun i t c hi hc => ?_⟩
  obtain ⟨c', hc', rfl⟩ := Thread.of_start hi
  obtain rfl := Option.some.inj (hc.symm.trans hc')
  exact .fresh

theorem Course.steps {s s' : List Caller × World} (h : Course exchange id calls s)
    (hlen : s.1.length = calls.length) (run : Thread.Steps s s') :
    Course exchange id calls s' := by
  induction run with
  | refl => exact h
  | tail run hstep ih =>
    have hlen' := (Thread.Steps.length run).trans hlen
    cases hstep with
    | mk hi => exact (ih.step hlen' hi).1

/-- Once the file is marked, no other call finds it unmarked. -/
theorem Course.notPassed {s s' : List Caller × World} (h : Course exchange id calls s)
    (hlen : s.1.length = calls.length) (run : Thread.Steps s s') (hm : Marked id s.2)
    (hnot : NotPassed id i s.1) : NotPassed id i s'.1 := by
  have hkept : Marked id s'.2 ∧ NotPassed id i s'.1 := by
    induction run with
    | refl => exact ⟨hm, hnot⟩
    | tail run hstep ih =>
      have hlen' := (Thread.Steps.length run).trans hlen
      have hcourse := h.steps hlen run
      cases hstep with
      | mk hi =>
        obtain ⟨-, hmarked⟩ := hcourse.step hlen' hi
        exact ⟨(hmarked ih.1).1, (hmarked ih.1).2 i ih.2⟩
  exact hkept.2

/-! ### Calls that overlap -/

/-- At most one of the calls has sent a request, and those that have come back without doing so were
refused. -/
structure OneInFlight (id : FileId) (ts : List Caller) : Prop where
  one : ∀ (i j : Nat) (t u : Caller), ts[i]? = some t → ts[j]? = some u → Published t →
    Published u → i = j
  refused : ∀ t ∈ ts, ∀ r, t.rest = .done r → ¬Published t → r = .error (.stateChanging id)

/-- Who has found the file unmarked sends a request, if the others let it. -/
theorem exists_ok_mark {g : File} (hg : v.ledger.file? id = some g) (exchange : String)
    (c : Call) : ∃ f, ((mark exchange id c).run v).1 = .ok f := by
  refine ⟨beginChange.apply v.clock g, ?_⟩
  rw [mark, Program.run_call, Command.run_updateFile hg]
  rfl

/-- A call at its end that was not refused has sent a request. -/
theorem Course.published {s : List Caller × World} (h : Course exchange id calls s)
    (hlen : s.1.length = calls.length) {past : List Event} {f : File}
    (hi : s.1[i]? = some ⟨past, .done (.ok f)⟩) : Published (⟨past, .done (.ok f)⟩ : Caller) := by
  have hlt := (List.getElem?_eq_some_iff.1 hi).1
  rcases (h.stage i _ _ hi (List.getElem?_eq_getElem (hlen ▸ hlt))).outcome rfl with
    ⟨-, hp, -⟩ | ⟨-, -, he⟩
  · exact hp
  · cases he

/-- Of two calls on an unmarked file, one may look at the file before the other one is carried out,
and then both send a request. -/
theorem exists_two_in_flight {f : File} (hw : w.Consistent) (hf : w.ledger.file? id = some f)
    (hunmarked : f.visibility.stateChanging = false) (exchange : String)
    (hcalls : 2 ≤ calls.length) :
    ∃ ts v, Thread.Steps (start exchange id calls, w) (ts, v) ∧ ¬OneInFlight id ts := by
  match calls, hcalls with
  | c :: c' :: rest, _ =>
    let ts := start exchange id (c :: c' :: rest)
    let checked : Caller := ⟨[⟨.findFile id, some f⟩], mark exchange id c⟩
    have hfind : ((Command.findFile id).run w).1 = some f := hf
    have hread : Thread.Step (ts, w) (ts.set 0 checked, w) := by
      have hi : ts[0]? = some (Thread.start (c.program exchange id)) := rfl
      rw [Thread.start, Call.program_eq] at hi
      have hstep := Thread.Step.mk (w := w) hi
      simp only [Thread.after, hfind, hunmarked, List.nil_append] at hstep
      exact hstep
    have hok' : ∃ g, ((c'.program exchange id).run w).1 = .ok g := by
      obtain ⟨g, hg⟩ := exists_ok_mark hf exchange c'
      refine ⟨g, ?_⟩
      rw [Call.program_eq, Program.run_call, hfind]
      simp only [hunmarked]
      exact hg
    obtain ⟨g', hg'⟩ := hok'
    have hwaiting : (ts.set 0 checked)[1]? = some (Thread.start (c'.program exchange id)) := rfl
    obtain ⟨past', hrun'⟩ := Thread.Steps.finish (w := w) hwaiting
    rw [hg'] at hrun'
    have hstart : Course exchange id (c :: c' :: rest) (ts, w) := .start hw hf
    obtain ⟨f', hf', -⟩ := (hstart.steps length_start (.head hread hrun')).file
    obtain ⟨g, hg⟩ := exists_ok_mark hf' exchange c
    have hstopped : ((ts.set 0 checked).set 1 ⟨past', .done (.ok g')⟩)[0]? = some checked := rfl
    obtain ⟨past, hrun⟩ := Thread.Steps.finish (w := ((c'.program exchange id).run w).2) hstopped
    rw [hg] at hrun
    have hall := (Relation.ReflTransGen.head hread hrun').trans hrun
    have hcourse := hstart.steps length_start hall
    have hlen := (Thread.Steps.length hall).trans length_start
    have hfirst : Published (⟨past, .done (.ok g)⟩ : Caller) :=
      hcourse.published hlen (i := 0) rfl
    have hsecond : Published (⟨past', .done (.ok g')⟩ : Caller) :=
      hcourse.published hlen (i := 1) rfl
    exact ⟨_, _, hall, fun h => absurd (h.one 0 1 _ _ rfl rfl hfirst hsecond) (by decide)⟩

/-- Calls on a stored file that take turns, in any order of their commands. Each that comes back has
found the file unmarked, sent a request and succeeded, or else has sent nothing and was refused; and
once the file is marked, no further one finds it unmarked. There is never more than one request on
its way just if the file was marked from the beginning or there are no two calls. -/
theorem one_in_flight_iff {f : File} (hw : w.Consistent) (hf : w.ledger.file? id = some f)
    (exchange : String) (calls : List Call) :
    (∀ ts v, Thread.Steps (start exchange id calls, w) (ts, v) →
      (∀ t ∈ ts, ∀ r, t.rest = .done r →
        Passed id t ∧ Published t ∧ (∃ g, r = .ok g) ∨
          ¬Passed id t ∧ ¬Published t ∧ r = .error (.stateChanging id)) ∧
      (Marked id v → ∀ us u, Thread.Steps (ts, v) (us, u) →
        ∀ i, NotPassed id i ts → NotPassed id i us)) ∧
    ((∀ ts v, Thread.Steps (start exchange id calls, w) (ts, v) → OneInFlight id ts) ↔
      f.visibility.stateChanging = true ∨ calls.length ≤ 1) := by
  have hstart : Course exchange id calls (start exchange id calls, w) := .start hw hf
  have houtcome : ∀ {ts v}, Thread.Steps (start exchange id calls, w) (ts, v) →
      ∀ t ∈ ts, ∀ r, t.rest = .done r → Passed id t ∧ Published t ∧ (∃ g, r = .ok g) ∨
        ¬Passed id t ∧ ¬Published t ∧ r = .error (.stateChanging id) := by
    intro ts v run t ht r hr
    obtain ⟨i, hi⟩ := List.mem_iff_getElem?.1 ht
    obtain ⟨c, hc⟩ := run.exists_origin hi
    exact ((hstart.steps length_start run).stage i t c hi hc).outcome hr
  refine ⟨fun ts v run => ⟨houtcome run, fun hm us u run' i hnot => ?_⟩, fun h => ?_, ?_⟩
  · have hlen := (Thread.Steps.length run).trans length_start
    exact (hstart.steps length_start run).notPassed hlen run' hm hnot
  · -- two calls on an unmarked file may overlap
    by_contra hnot
    rw [not_or, Bool.not_eq_true, Nat.not_le] at hnot
    obtain ⟨ts, v, run, htwo⟩ := exists_two_in_flight hw hf hnot.1 exchange hnot.2
    exact htwo (h ts v run)
  · intro hone ts v run
    have hrefused : ∀ t ∈ ts, ∀ r, t.rest = .done r → ¬Published t →
        r = .error (.stateChanging id) := by
      intro t ht r hr hp
      rcases houtcome run t ht r hr with ⟨-, hp', -⟩ | ⟨-, -, he⟩
      · exact absurd hp' hp
      · exact he
    refine ⟨fun i j t u hi hj ht hu => ?_, hrefused⟩
    obtain ⟨c, hc⟩ := run.exists_origin hi
    rcases hone with hm | hcalls
    · have hfresh : NotPassed id i (start exchange id calls) := fun t ht => by
        obtain ⟨c, -, rfl⟩ := Thread.of_start ht
        rintro ⟨g, hmem, -⟩
        cases hmem
      have hp := ((hstart.steps length_start run).stage i t c hi hc).passed_of_published ht
      exact absurd hp (hstart.notPassed length_start run ⟨f, hf, hm⟩ hfresh t hi)
    · obtain ⟨c', hc'⟩ := run.exists_origin hj
      have hi' := (List.getElem?_eq_some_iff.1 hc).1
      have hj' := (List.getElem?_eq_some_iff.1 hc').1
      omega

/-! ### A file on its way -/

namespace Sample

/-- A world with one file, which nobody has asked to publish. -/
def world : World :=
  ((Command.createFile ⟨"a.csv", ⟨"files", "a.csv"⟩, ⟨[], none, none, none, none, []⟩, none, none,
    none, .empty⟩).run (.new 8 .epoch)).2

def file : FileId := FreshId.text 1

theorem world_consistent : world.Consistent :=
  (World.Consistent.new 8 .epoch).run (c := .createFile _) trivial

/-- That the file is published, or that it is hidden. -/
def publish : Call := ⟨true, none⟩

def hide : Call := ⟨false, some []⟩

end Sample

/-- A single call sends one request at most, but two calls may send one each. -/
theorem one_in_flight_of_single :
    ∃ f, Sample.world.Consistent ∧ Sample.world.ledger.file? Sample.file = some f ∧
      (∀ ts v, Thread.Steps (start "General" Sample.file [Sample.publish], Sample.world) (ts, v) →
        OneInFlight Sample.file ts) ∧
      ¬∀ ts v, Thread.Steps (start "General" Sample.file [Sample.publish, Sample.hide],
        Sample.world) (ts, v) → OneInFlight Sample.file ts := by
  refine ⟨_, Sample.world_consistent, rfl, ?_, fun h => ?_⟩
  · exact (one_in_flight_iff Sample.world_consistent rfl "General" _).2.2 (Or.inr (by decide))
  · have hone := (one_in_flight_iff Sample.world_consistent rfl "General" _).2.1 h
    exact absurd hone (by decide +kernel)

/-- If two calls take turns, both find the file unmarked and send requests that contradict each
other. -/
theorem two_in_flight :
    let s := Thread.turns (start "General" Sample.file [Sample.publish, Sample.hide], Sample.world)
      (List.replicate 5 [0, 1]).flatten
    Thread.AllDone s.1 ∧ (∀ t ∈ s.1, Published t) ∧ ¬OneInFlight Sample.file s.1 := by
  intro s
  have hall : ∀ t ∈ s.1, Published t := by decide +kernel
  refine ⟨Thread.allDone_iff.2 (by decide +kernel), hall, fun h => ?_⟩
  have hlen : s.1.length = 2 := by decide +kernel
  have hfirst : 0 < s.1.length := by omega
  have hsecond : 1 < s.1.length := by omega
  have hsame : 0 = 1 := h.one 0 1 _ _ (List.getElem?_eq_getElem hfirst)
    (List.getElem?_eq_getElem hsecond) (hall _ (List.getElem_mem hfirst))
    (hall _ (List.getElem_mem hsecond))
  cases hsame

end Visibility

end SensorTasks

import SensorTasks.Http.Service
import SensorTasks.Inbox.Dispatch
import SensorTasks.Proofs.Announcement

/-!
What programs can touch. A program uses commands of a kind if it carries out no others, whatever it
is answered. Taking over objects touches neither tasks nor files, the content of a report touches no
task, and files are created for the results of a fetch only. The services that do not create tasks
bring no new documents at all.
-/

namespace SensorTasks

open Message Inbox

/-! ### Kinds of commands -/

namespace Command

/-- The command looks something up or takes over a managed object. -/
def takesOver : Command → Bool
  | createSensor _ | createGroup _ | addMembers .. => true
  | c => c.isLookup

/-- The command looks something up, tells others something, or changes or removes files. -/
def serves : Command → Bool
  | count _ | publish .. | updateFile .. | exposeFiles .. | deleteFile _ => true
  | c => c.isLookup

def createsFile : Command → Bool
  | createFile _ => true
  | _ => false

variable {c : Command}

theorem keepsTasks_of_takesOver (h : c.takesOver = true) : c.keepsTasks = true := by
  cases c <;> first | rfl | cases h

theorem createsFile_of_takesOver (h : c.takesOver = true) : c.createsFile = false := by
  cases c <;> first | rfl | cases h

theorem serves_of_isLookup (h : c.isLookup = true) : c.serves = true := by
  cases c <;> first | rfl | cases h

theorem keepsTasks_of_serves (h : c.serves = true) : c.keepsTasks = true := by
  cases c <;> first | rfl | cases h

theorem newId?_of_serves (h : c.serves = true) : c.newId? = none := by
  cases c <;> first | rfl | cases h

theorem createsFile_of_serves (h : c.serves = true) : c.createsFile = false := by
  cases c <;> first | rfl | cases h

end Command

/-! ### Programs -/

namespace Program

variable {α β : Type} {P T : Command → Prop} {Q S : α → Prop}

/-- Whatever it is answered, the program only uses commands with `P` and comes to something with
`Q`. -/
def Uses (P : Command → Prop) (Q : α → Prop) : Program α → Prop
  | done a => Q a
  | call c next => P c ∧ ∀ answer, (next answer).Uses P Q

@[simp] theorem uses_done (a : α) : (done a).Uses P Q ↔ Q a := Iff.rfl

theorem uses_bind {p : Program α} {f : α → Program β} {Q : β → Prop} :
    (p >>= f).Uses P Q ↔ p.Uses P fun a => (f a).Uses P Q := by
  induction p with
  | done a => rfl
  | call c next ih => exact and_congr_right fun _ => forall_congr' ih

theorem Uses.mono {p : Program α} (h : p.Uses P Q) (hP : ∀ c, P c → T c)
    (hQ : ∀ a, Q a → S a) : p.Uses T S := by
  induction p with
  | done a => exact hQ a h
  | call c next ih => exact ⟨hP c h.1, fun answer => ih answer (h.2 answer)⟩

theorem Reads.uses {p : Program α} (h : p.Reads Q) : p.Uses (·.isLookup = true) Q := by
  induction p with
  | done a => exact h
  | call c next ih => exact ⟨h.1, fun answer => ih answer (h.2 answer)⟩

/-- A program keeps to rules that allow the commands that it uses after an event that has
happened. -/
theorem Uses.obeys_after {p : Program α} (h : p.Uses P Q) {R : Rely} {allowed : Rules} {e : Event}
    (ha : ∀ past w c, e ∈ past → P c → allowed past w c) {past : List Event} (he : e ∈ past)
    (w : World) : p.Obeys R allowed (fun _ _ a => Q a) past w := by
  induction p generalizing past w with
  | done a => exact fun _ _ _ => h
  | call c next ih =>
    exact fun v _ _ => ⟨ha past v c he h.1, fun _ _ =>
      ih _ (h.2 _) (List.mem_append_left _ he) _⟩

/-- A program that runs alone keeps what the commands that it uses keep. -/
theorem Uses.run {p : Program α} (h : p.Uses P Q) {K : World → Prop}
    (hK : ∀ c w, P c → K w → K (c.run w).2) {w : World} (hw : K w) :
    K (p.run w).2 ∧ Q (p.run w).1 := by
  induction p generalizing w with
  | done a => exact ⟨hw, h⟩
  | call c next ih => exact ih _ (h.2 _) (hK c w h.1 hw)

/-- A program that runs alone leaves the tasks as they are if its commands do. -/
theorem Uses.tasks_run {p : Program α} (h : p.Uses (·.keepsTasks = true) Q) (w : World) :
    (p.run w).2.ledger.tasks = w.ledger.tasks :=
  (h.run (K := fun v => v.ledger.tasks = w.ledger.tasks)
    (fun _ v hc hv => (Command.tasks_of_keepsTasks hc v).trans hv) rfl).1

theorem Uses.obeys {p : Program α} (h : p.Uses P Q) {R : Rely} {allowed : Rules}
    (ha : ∀ past w c, P c → allowed past w c) (past : List Event) (w : World) :
    p.Obeys R allowed (fun _ _ a => Q a) past w := by
  induction p generalizing past w with
  | done a => exact fun _ _ _ => h
  | call c next ih => exact fun v _ _ => ⟨ha past v c h.1, fun _ _ => ih _ (h.2 _) _ _⟩

/-- A program keeps to the rules with the commands that it uses. -/
theorem Obeys.and_uses {p : Program α} {R : Rely} {allowed : Rules} {goal : Goal α}
    {past : List Event} {w : World} (h : p.Obeys R allowed goal past w) (hu : p.Uses P Q) :
    p.Obeys R (fun past v c => allowed past v c ∧ P c) goal past w := by
  induction p generalizing past w with
  | done a => exact h
  | call c next ih =>
    intro v hv hwv
    obtain ⟨hc, hn⟩ := h v hv hwv
    exact ⟨⟨hc, hu.1⟩, fun hr hl => ih _ (hn hr hl) (hu.2 _)⟩

end Program

namespace Action

variable {ε ε' α β : Type} {P T : Command → Prop} {Q S : α → Prop}

/-- Whatever it is answered, the action only uses commands with `P`, and its value, if it ends with
one, has `Q`. -/
def Uses (P : Command → Prop) (Q : α → Prop) (a : Action ε α) : Prop :=
  a.run.Uses P fun
    | .ok x => Q x
    | .error _ => True

namespace Uses

theorem pure {x : α} (h : Q x) : (Pure.pure x : Action ε α).Uses P Q := h

theorem throw (e : ε) : (MonadExcept.throw e : Action ε α).Uses P Q := trivial

theorem orFail (e : ε) {o : Option α} (h : ∀ x, o = some x → Q x) :
    (Action.orFail e o).Uses P Q := by
  cases o with
  | none => exact throw e
  | some x => exact pure (h x rfl)

theorem ofExcept {r : Except ε α} (h : ∀ x, r = .ok x → Q x) : (Action.ofExcept r).Uses P Q := by
  cases r with
  | ok x => exact pure (h x rfl)
  | error e => exact throw e

theorem perform_bind {c : Command} {f : c.Answer → Action ε α} (hc : P c)
    (hf : ∀ answer, (f answer).Uses P Q) : (Action.perform c >>= f).Uses P Q :=
  ⟨hc, hf⟩

theorem mono {a : Action ε α} (h : a.Uses P Q) (hP : ∀ c, P c → T c)
    (hQ : ∀ x, Q x → S x) : a.Uses T S :=
  Program.Uses.mono h hP fun r hr =>
    match r, hr with
    | .ok x, hx => hQ x hx
    | .error _, _ => trivial

theorem bind {a : Action ε α} {f : α → Action ε β} {Q : β → Prop} (h : a.Uses P S)
    (hf : ∀ x, S x → (f x).Uses P Q) : (a >>= f).Uses P Q := by
  unfold Uses
  rw [run_bind]
  refine Program.uses_bind.2 (Program.Uses.mono h (fun _ h => h) fun r hr => ?_)
  cases r with
  | ok x => exact hf x hr
  | error e => trivial

theorem mapError {a : Action ε α} (h : a.Uses P Q) (f : ε → ε') : (a.mapError f).Uses P Q := by
  unfold Uses
  rw [run_mapError]
  refine Program.uses_bind.2 (Program.Uses.mono h (fun _ h => h) fun r hr => ?_)
  cases r with
  | ok x => exact hr
  | error e => trivial

theorem lift {p : Program α} (h : p.Uses P Q) :
    Action.Uses P Q (ExceptT.lift p : Action ε α) :=
  Program.uses_bind.2 h

end Uses

theorem Reads.uses {a : Action ε α} (h : a.Reads Q) : a.Uses (·.isLookup = true) Q :=
  (Program.Reads.uses h).mono (fun _ h => h) fun r hr =>
    match r, hr with
    | .ok _, hx => hx
    | .error _, _ => trivial

end Action

theorem Action.uses_updateTask {P : Command → Prop} {id : TaskId} {p : TaskPatch}
    (h : P (.updateTask id p)) : (Action.updateTask id p).Uses P fun _ => True :=
  ⟨h, fun answer => by cases answer <;> trivial⟩

theorem Action.uses_updateFile {P : Command → Prop} {id : FileId} {p : FilePatch}
    (h : P (.updateFile id p)) : (Action.updateFile id p).Uses P fun _ => True :=
  ⟨h, fun answer => by cases answer <;> trivial⟩

/-! ### Taking over objects -/

namespace Inbox.Synchronization

theorem uses_syncSensor (sum : Summary) (s : SensorObject) :
    (syncSensor sum s).Uses (·.takesOver = true) fun _ => True := by
  unfold syncSensor
  cases s.valueFragmentType with
  | none => exact .pure trivial
  | some fragmentType =>
    refine .perform_bind rfl fun known => ?_
    cases known with
    | some sensor => exact .pure trivial
    | none =>
      refine .perform_bind rfl fun n => .perform_bind rfl fun created => ?_
      cases created with
      | ok u => exact .pure trivial
      | error e =>
        cases e with
        | duplicateKey collection key => exact .perform_bind rfl fun other => .pure trivial
        | _ => exact .throw _

theorem uses_syncSensors (sum : Summary) (sensors : List SensorObject) :
    (syncSensors sum sensors).Uses (·.takesOver = true) fun _ => True := by
  induction sensors generalizing sum with
  | nil => exact .pure trivial
  | cons s rest ih =>
    exact (uses_syncSensor sum s).bind fun r _ => (ih r.2).bind fun _ _ => .pure trivial

theorem uses_addMembers (id : GroupId) (sensors : List SensorId) (groups : List GroupId) :
    ((Action.addMembers id sensors groups).mapError HandlerError.ledger).Uses (·.takesOver = true)
      fun _ => True := by
  have h : (Action.addMembers id sensors groups).Uses (·.takesOver = true) fun _ => True :=
    ⟨rfl, fun answer => by cases answer <;> trivial⟩
  exact h.mapError _

theorem uses_settleGroup (sum : Summary) (object name : String) (sensors : List SensorId)
    (groups : List GroupId) :
    (settleGroup sum object name sensors groups).Uses (·.takesOver = true) fun _ => True := by
  unfold settleGroup
  refine .perform_bind rfl fun known => ?_
  cases known with
  | some group => exact (uses_addMembers _ _ _).bind fun _ _ => .pure trivial
  | none =>
    refine .perform_bind rfl fun n => .perform_bind rfl fun created => ?_
    cases created with
    | ok u => exact .pure trivial
    | error e =>
      cases e with
      | duplicateKey collection key =>
        refine .perform_bind rfl fun other => ?_
        refine (Action.Uses.orFail (Q := fun _ => True) _ fun _ _ => trivial).bind fun g _ => ?_
        exact (uses_addMembers _ _ _).bind fun _ _ => .pure trivial
      | _ => exact .throw _

mutual

theorem uses_syncGroup : (sum : Summary) → (g : GroupObject) →
    (syncGroup sum g).Uses (·.takesOver = true) fun _ => True
  | sum, .mk object name sensors groups => by
    unfold syncGroup
    refine (uses_syncSensors sum sensors).bind fun r _ => ?_
    exact (uses_syncGroups r.2 groups).bind fun r' _ => uses_settleGroup _ _ _ _ _

theorem uses_syncGroups : (sum : Summary) → (gs : List GroupObject) →
    (syncGroups sum gs).Uses (·.takesOver = true) fun _ => True
  | sum, [] => .pure trivial
  | sum, g :: rest => by
    unfold syncGroups
    refine (uses_syncGroup sum g).bind fun r _ => ?_
    exact (uses_syncGroups r.2 rest).bind fun _ _ => .pure trivial

end

theorem uses_sync (objects : List ManagedObject) :
    (sync objects).Uses (·.takesOver = true) fun _ => True := by
  unfold sync
  generalize Summary.zero = sum
  induction objects generalizing sum with
  | nil => exact .pure trivial
  | cons o rest ih =>
    refine Action.Uses.bind (S := fun _ => True) ?_ fun sum _ => ih sum
    cases o with
    | sensor s => exact (uses_syncSensor sum s).bind fun _ _ => .pure trivial
    | group g => exact (uses_syncGroup sum g).bind fun _ _ => .pure trivial

end Inbox.Synchronization

/-! ### Reports -/

namespace Inbox.Report

variable {P : Command → Prop}

section Results

variable (lookup : ∀ c : Command, c.isLookup = true → P c) (creates : ∀ new, P (.createFile new))
include lookup creates

theorem uses_resolveAll (t : Task) (results : List FetchResult) :
    (resolveAll t results).Uses P fun _ => True := by
  induction results with
  | nil => exact .pure trivial
  | cons r results ih =>
    refine Action.Uses.bind (S := fun _ => True) ?_ fun a _ => ih.bind fun _ _ => .pure trivial
    refine .perform_bind (lookup _ rfl) fun sensor => ?_
    cases sensor with
    | none => exact .pure trivial
    | some s =>
      refine Action.Uses.bind (S := fun _ => True) ?_ fun f _ => .pure trivial
      refine .perform_bind (lookup _ rfl) fun known => ?_
      cases known with
      | some f => exact .pure trivial
      | none => exact ⟨creates _, fun _ => trivial⟩

/-- Results are reconciled by looking things up and creating files. -/
theorem uses_reconcile (t : Task) (results : List FetchResult) :
    (reconcile t results).Uses P fun _ => True :=
  (uses_resolveAll lookup creates t results).bind fun _ _ =>
    .perform_bind (lookup _ rfl) fun _ => .pure trivial

end Results

theorem uses_decode {α : Type} (d : Json.Decoder α) (key : RoutingKey) (j : Json) :
    (decode d key j).Uses P fun a => d.fromValue j = .ok a := by
  unfold decode
  cases d.fromValue j with
  | ok a => exact .pure rfl
  | error e => exact .throw _

/-- The files of an upload are exposed to its platform. -/
theorem uses_exposeUploaded {t : Task}
    (h : ∀ w, t.upload? = some w → P (.exposeFiles (w.files.map (·.fileId)) w.platform)) :
    (exposeUploaded t).Uses P fun _ => True := by
  unfold exposeUploaded
  cases ht : t.upload? with
  | none => exact .pure trivial
  | some w => exact .perform_bind (h w ht) fun _ => .pure trivial

/-- Nothing but entries is added to the patch of a report. -/
abbrev keepsPatch (p : TaskPatch) (o : Option TaskPatch) : Prop :=
  ∀ p', o = some p' → p' = { p with fetchEntries := p'.fetchEntries }

/-- The content of a report is taken into account by taking over objects, by exposing files or by
reconciling results. -/
theorem uses_applyContent (takes : ∀ c : Command, c.takesOver = true → P c) (t : Task)
    {p : TaskPatch} (c : Content)
    (exposes : c = .uploaded → ∀ w, t.upload? = some w →
      P (.exposeFiles (w.files.map (·.fileId)) w.platform))
    (reconciles : ∀ j rs, c = .results j → (reconcile t rs).Uses P fun _ => True) :
    (applyContent t p c).Uses P (keepsPatch p) := by
  have hkept : keepsPatch p (some p) := fun p' hp => by rw [← Option.some.inj hp]
  cases c with
  | results j =>
    refine (uses_decode _ _ j).bind fun results _ => ?_
    split
    · exact .pure hkept
    · refine (reconciles j results rfl).bind fun entries _ => .pure fun p' hp => ?_
      rw [← Option.some.inj hp]
  | uploaded =>
    exact (uses_exposeUploaded (exposes rfl)).bind fun _ _ => .pure hkept
  | objects j =>
    refine (uses_decode _ _ j).bind fun objects _ => ?_
    exact ((Synchronization.uses_sync objects).mono takes fun _ h => h).bind fun _ _ => .pure hkept
  | objectAmount j => exact (uses_decode _ _ j).bind fun _ _ => .pure hkept
  | nothing => exact .pure hkept
  | unknown => exact .pure fun p' hp => by cases hp

/-- No task is changed for the content of a report. -/
theorem keepsTasks_applyContent (t : Task) {p : TaskPatch} (c : Content) :
    (applyContent t p c).Uses (·.keepsTasks = true) (keepsPatch p) :=
  uses_applyContent (fun _ => Command.keepsTasks_of_takesOver) t c (fun _ _ _ => rfl)
    fun _ rs _ => uses_reconcile (fun _ => Command.keepsTasks_of_isLookup) (fun _ => rfl) t rs

/-- What a report does once its task was looked up. -/
def applyTo (m : StatusReport Json) : Option Task → Action HandlerError (Option Task)
  | none => return none
  | some t =>
    if t.type ≠ m.taskType then return none
    else do
      let now ← Action.perform .now
      let patch ← applyContent t (basePatch m now) (content m)
      match patch with
      | none => return none
      | some p => some <$> (Action.updateTask t.id p).mapError .ledger

theorem status_eq (m : StatusReport Json) :
    status m = Action.perform (.findTask m.taskId) >>= applyTo m := by
  unfold status
  refine congrArg (Action.perform (.findTask m.taskId) >>= ·) (funext fun found => ?_)
  cases found <;> rfl

/-- A report takes the time, takes its content into account and patches the task that it found. -/
theorem uses_applyTo {m : StatusReport Json} {found : Option Task}
    (takes : ∀ c : Command, c.takesOver = true → P c) (update : ∀ id p, P (.updateTask id p))
    (exposes : ∀ t, found = some t → content m = .uploaded → ∀ w, t.upload? = some w →
      P (.exposeFiles (w.files.map (·.fileId)) w.platform))
    (reconciles : ∀ t j rs, content m = .results j → (reconcile t rs).Uses P fun _ => True) :
    (applyTo m found).Uses P fun _ => True := by
  unfold applyTo
  cases found with
  | none => exact .pure trivial
  | some t =>
    dsimp only
    split
    · exact .pure trivial
    · refine .perform_bind (takes _ rfl) fun now => ?_
      refine (uses_applyContent takes t (content m) (exposes t rfl)
        (reconciles t)).bind fun patch _ => ?_
      cases patch with
      | none => exact .pure trivial
      | some p =>
        have hupdate : (Action.updateTask t.id p).Uses P fun _ => True :=
          Action.uses_updateTask (update _ _)
        show Action.Uses P (fun _ => True) (some <$> (Action.updateTask t.id p).mapError _)
        rw [map_eq_pure_bind]
        exact Action.Uses.bind (hupdate.mapError _) fun _ _ => .pure trivial

theorem uses_unlessMissing {α : Type} {a : Action Ledger.LedgerError α}
    (h : a.Uses P fun _ => True) : (unlessMissing a).Uses P fun _ => True := by
  unfold unlessMissing
  refine Action.Uses.bind (S := fun _ => True) (.lift (Program.Uses.mono h (fun _ h => h)
    fun _ _ => trivial)) fun outcome _ => ?_
  split
  · exact .pure trivial
  · exact .pure trivial
  · exact .throw _

/-- A failure takes the time and patches the task that it names. -/
theorem uses_failure {f : Failure} (now : P .now)
    (update : ∀ now, P (.updateTask f.taskId (failurePatch f now))) :
    (failure f).Uses P fun _ => True :=
  .perform_bind now fun now => uses_unlessMissing (Action.uses_updateTask (update now))

/-- A result of a change of visibility patches the file that it names. -/
theorem uses_visibility {m : VisibilityResult}
    (h : ∀ p, visibilityPatch? m = some p → P (.updateFile m.fileId p)) :
    (visibility m).Uses P fun _ => True := by
  unfold visibility
  cases hp : visibilityPatch? m with
  | none => exact .pure trivial
  | some p => exact uses_unlessMissing (Action.uses_updateFile (h p hp))

end Inbox.Report

/-! ### Services -/

/-- The commands are among those that services use which create no tasks: they look things up, tell
others something, mark a file as changing or take the mark away, or remove files. -/
structure Serving (P : Command → Prop) : Prop where
  lookup : ∀ c : Command, c.isLookup = true → P c
  count : ∀ counter, P (.count counter)
  publish : ∀ exchange key payload, P (.publish exchange key payload)
  beginChange : ∀ id, P (.updateFile id Visibility.beginChange)
  endChange : ∀ id, P (.updateFile id Visibility.endChange)
  deleteFile : ∀ id, P (.deleteFile id)

theorem Serving.serves : Serving (·.serves = true) where
  lookup _ := Command.serves_of_isLookup
  count _ := rfl
  publish _ _ _ := rfl
  beginChange _ := rfl
  endChange _ := rfl
  deleteFile _ := rfl

theorem Serving.imp {P T : Command → Prop} (h : Serving P) (hPT : ∀ c, P c → T c) : Serving T where
  lookup c hc := hPT _ (h.lookup c hc)
  count counter := hPT _ (h.count counter)
  publish exchange key payload := hPT _ (h.publish exchange key payload)
  beginChange id := hPT _ (h.beginChange id)
  endChange id := hPT _ (h.endChange id)
  deleteFile id := hPT _ (h.deleteFile id)

section Services

variable {P : Command → Prop} (hP : Serving P)
include hP

theorem Message.Outbox.uses_send (o : Outbox) (key : RoutingKey) (j : Json) :
    (o.send key j).Uses P fun _ => True := by
  unfold Outbox.send Outbox.sendTo publish
  split
  · split
    · exact .throw _
    · exact .perform_bind (hP.publish _ _ _) fun _ => ⟨hP.count _, fun _ => trivial⟩
  · exact .throw _

theorem User.uses_announce (o : Outbox) (u : User) : (u.announce o).Uses P fun _ => True :=
  o.uses_send hP _ _

end Services

namespace Creation

theorem uses_newEntries (wanted : List (SensorId × String)) :
    (newEntries wanted).Uses (·.isLookup = true) fun _ => True :=
  .perform_bind rfl fun _ => .pure trivial

theorem uses_fetchWork (r : FetchRequest) :
    (fetchWork r).Uses (·.isLookup = true) fun _ => True := by
  unfold fetchWork
  split
  · exact .throw _
  · split
    · refine .perform_bind rfl fun found => ?_
      refine (Action.Uses.orFail (Q := fun _ => True) _ fun _ _ => trivial).bind fun group _ => ?_
      exact (uses_newEntries _).bind fun _ _ => .pure trivial
    · refine .perform_bind rfl fun found => ?_
      split
      · exact .throw _
      · exact (uses_newEntries _).bind fun _ _ => .pure trivial

theorem uses_work (work : RequestedWork) :
    (Creation.work work).Uses (·.isLookup = true) fun _ => True := by
  cases work with
  | fetch r => exact uses_fetchWork r
  | upload r => exact (reads_uploadWork r).uses.mono (fun _ h => h) fun _ _ => trivial
  | sync => exact .pure trivial

/-- Building a task changes nothing. -/
theorem uses_build (user : UserId) (r : TaskRequest) :
    (build user r).Uses (·.isLookup = true) fun _ => True := by
  unfold build
  refine (reads_checkRecurrence r).uses.bind fun _ _ => ?_
  refine (reads_firstRun r).uses.bind fun firstRunAt _ => ?_
  refine (reads_resolveName r firstRunAt).uses.bind fun name _ => ?_
  refine (uses_work r.work).bind fun work _ => ?_
  exact .perform_bind rfl fun now => .perform_bind rfl fun n => .pure trivial

section Storing

variable {P : Command → Prop} (hstore : ∀ t, P (.createTask t))
include hstore

theorem uses_store (t : Task) : (store t).Uses P fun _ => True := by
  have h : (Action.createTask t).Uses P fun _ => True :=
    ⟨hstore t, fun answer => by cases answer <;> trivial⟩
  exact h.mapError _

theorem uses_create (hP : Serving P) (user : UserId) (r : TaskRequest) :
    (create user r).Uses P fun _ => True :=
  ((uses_build user r).mono hP.lookup fun _ h => h).bind fun t _ =>
    (uses_store hstore t).bind fun _ _ => .pure trivial

end Storing

end Creation

section Services

variable {P : Command → Prop} (hP : Serving P)
include hP

namespace Scheduling

theorem uses_createAndSchedule (hstore : ∀ t, P (.createTask t)) (o : Outbox) (user : UserId)
    (r : TaskRequest) : (createAndSchedule o user r).Uses P fun _ => True := by
  unfold createAndSchedule
  refine ((reads_checkName r).uses.mono hP.lookup fun _ h => h).bind fun _ _ => ?_
  refine ((Creation.uses_build user r).mono hP.lookup fun _ h => h).bind fun t _ => ?_
  refine (((reads_message t).uses.mono hP.lookup fun _ h => h).mapError _).bind fun m _ => ?_
  dsimp only
  split
  · exact .throw _
  · refine (Creation.uses_store hstore t).bind fun _ _ => .perform_bind (hP.count _) fun _ => ?_
    exact .perform_bind (hP.publish _ _ _) fun _ => .perform_bind (hP.count _) fun _ =>
      .pure trivial

theorem uses_find (id : TaskId) : (find id).Uses P fun _ => True :=
  .perform_bind (hP.lookup _ rfl) fun _ => .orFail _ fun _ _ => trivial

theorem uses_requestMode (o : Outbox) (ids : List TaskId) (mode : TaskMode) :
    (requestMode o ids mode).Uses P fun _ => True := by
  unfold requestMode
  split
  · exact .throw _
  · refine .perform_bind (hP.lookup _ rfl) fun found => ?_
    split
    · exact .throw _
    · exact (o.uses_send hP _ _).mapError _

end Scheduling

namespace Visibility

theorem uses_find (id : FileId) : (find id).Uses P fun _ => True :=
  .perform_bind (hP.lookup _ rfl) fun _ => .orFail _ fun _ _ => trivial

theorem uses_requestChange (o : Outbox) (id : FileId) (published : Bool)
    (platforms : Option (List Platform)) :
    (requestChange o id published platforms).Uses P fun _ => True := by
  refine (uses_find hP id).bind fun f _ => ?_
  split
  · exact .throw _
  · refine ((Action.uses_updateFile (hP.beginChange id)).mapError _).bind fun f _ => ?_
    have hsend := Program.Uses.mono (o.uses_send hP .fileStatusVisibilityState
      (request f published platforms).toJson) (fun _ h => h) (S := fun _ => True)
      fun _ _ => trivial
    refine (Action.Uses.lift hsend).bind fun sent _ => ?_
    split
    · exact ((Action.uses_updateFile (hP.endChange id)).mapError _).bind fun _ _ => .throw _
    · exact .pure trivial

end Visibility

namespace Deletion

theorem uses_removeAll {ε : Type} (files : List File) :
    (removeAll files : Action ε Nat).Uses P fun _ => True := by
  induction files with
  | nil => exact .pure trivial
  | cons f files ih =>
    exact .perform_bind (hP.deleteFile _) fun _ => ih.bind fun _ _ => .pure trivial

theorem uses_deleteFiles (o : Outbox) (ids : List FileId) :
    (deleteFiles o ids).Uses P fun _ => True := by
  unfold deleteFiles
  split
  · exact .throw _
  · refine .perform_bind (hP.lookup _ rfl) fun files => ?_
    split
    · exact .pure trivial
    · exact ((o.uses_send hP _ _).mapError _).bind fun _ _ => uses_removeAll hP _

end Deletion

/-! ### Requests -/

namespace Http.Service

omit hP in
theorem uses_withId (id : List Char) {f : String → Action ApiError Response}
    (hf : ∀ id, (f id).Uses P fun _ => True) : (withId id f).Uses P fun _ => True := by
  unfold withId
  split
  · exact hf _
  · exact .pure trivial

/-- Only requests for new tasks make documents. -/
theorem uses_perform (s : Service) (r : Request) {endpoint : Endpoint}
    (h : endpoint ≠ .createTask) : (s.perform r endpoint).Uses P fun _ => True := by
  have hbody : ∀ {α : Type} (d : Json.Decoder α), (Action.ofExcept
      (r.decodeBody s.maxBodyBytes d)).Uses P fun _ => True :=
    fun _ => .ofExcept fun _ _ => trivial
  cases endpoint with
  | createTask => exact absurd rfl h
  | searchTasks =>
    refine (Action.Uses.orFail (Q := fun _ => True) _ fun _ _ => trivial).bind fun q _ => ?_
    exact .perform_bind (hP.lookup _ rfl) fun _ => .pure trivial
  | setMode =>
    exact (hbody _).bind fun m _ =>
      ((Scheduling.uses_requestMode hP _ _ _).mapError _).bind fun _ _ => .pure trivial
  | getTask id =>
    exact uses_withId id fun id =>
      ((Scheduling.uses_find hP id).mapError _).bind fun _ _ => .pure trivial
  | deleteFiles =>
    exact (hbody _).bind fun ids _ =>
      ((Deletion.uses_deleteFiles hP _ _).mapError _).bind fun _ _ => .pure trivial
  | changeVisibility id =>
    exact uses_withId id fun id => (hbody _).bind fun b _ =>
      ((Visibility.uses_requestChange hP _ _ _ _).mapError _).bind fun _ _ => .pure trivial
  | announceUser =>
    exact (hbody _).bind fun u _ =>
      ((User.uses_announce hP _ u).mapError _).bind fun _ _ => .pure trivial
  | health =>
    exact .perform_bind (hP.lookup _ rfl) fun _ => .perform_bind (hP.lookup _ rfl) fun _ =>
      .perform_bind (hP.lookup _ rfl) fun _ => .pure trivial

theorem uses_respond (hstore : ∀ t, P (.createTask t)) (s : Service) (r : Request) :
    (s.respond r).Uses P fun _ => True := by
  have hperform : ∀ endpoint, (s.perform r endpoint).Uses P fun _ => True := by
    intro endpoint
    rcases eq_or_ne endpoint .createTask with rfl | h
    · refine (Action.Uses.orFail (Q := fun _ => True) _ fun _ _ => trivial).bind fun user _ => ?_
      refine (Action.Uses.ofExcept (Q := fun _ => True) fun _ _ => trivial).bind fun _ _ => ?_
      exact ((Scheduling.uses_createAndSchedule hP hstore _ _ _).mapError _).bind fun _ _ =>
        .pure trivial
    · exact s.uses_perform hP r h
  unfold respond
  split
  · trivial
  · split
    · trivial
    · refine Program.uses_bind.2 (Program.uses_bind.2 ?_)
      refine Program.Uses.mono (hperform _) (fun _ h => h) fun res _ => ?_
      cases res <;> trivial

end Http.Service

end Services

end SensorTasks

import SensorTasks.Proofs.FileIndex
import SensorTasks.Proofs.Identity

/-!
Everything that a stored task names has been given out: its own id, the ids of its entries and the
files that it uploads. The entries of a new task have ids that were reserved for them, those that a
report adds have ids that were reserved for it, and an upload lists files that were found when it
was built. So this stays true whatever the application is asked to do, also while others use the
ledger with ids that they were given.
-/

namespace SensorTasks

open Message Inbox Ledger.Key

/-! ### Tasks -/

/-- What the task names has been given out, and its id can stand in a key. -/
structure Task.Grounded (w : World) (t : Task) : Prop where
  plain : Plain t.id
  dataId : ∀ e ∈ t.entries, w.Old e.dataId
  upload : ∀ u, t.upload? = some u → ∀ f ∈ u.files, w.Old f.fileId

/-- The command brings no task that names something that is still to be given out. -/
def Command.Grounded (w : World) : Command → Prop
  | createTask t => t.Grounded w
  | updateTask _ p => ∀ data, p.fetchEntries = some data → ∀ e ∈ data, w.Old e.dataId
  | _ => True

structure World.Grounded (w : World) : Prop where
  consistent : w.Consistent
  task : ∀ {id t}, w.ledger.task? id = some t → t.Grounded w

theorem Task.Grounded.mono {v w : World} {t : Task} (h : t.Grounded w)
    (hn : w.nextNumber ≤ v.nextNumber) : t.Grounded v :=
  ⟨h.plain, fun e he => (h.dataId e he).mono hn, fun u hu f hf => (h.upload u hu f hf).mono hn⟩

/-- A patch may bring other entries, and leaves the files of an upload. -/
theorem Task.Grounded.apply {w : World} {t : Task} (h : t.Grounded w) {p : TaskPatch}
    (hp : ∀ data, p.fetchEntries = some data → ∀ e ∈ data, w.Old e.dataId) (now : Instant) :
    (p.apply now t).Grounded w where
  plain := h.plain
  dataId e he := by
    rcases TaskPatch.mem_apply_entries he with he | ⟨data, hdata, he⟩
    · exact h.dataId e he
    · exact hp data hdata e he
  upload u hu := h.upload u ((Task.SameIdentity.apply p now t).upload.symm.trans hu)

namespace World

variable {v w : World}

theorem Grounded.new (capacity : Nat) (clock : Instant) : (World.new capacity clock).Grounded :=
  ⟨.new capacity clock, fun h => by cases h⟩

theorem Grounded.outside (h : w.Grounded) (hl : v.ledger = w.ledger)
    (hn : w.nextNumber ≤ v.nextNumber) : v.Grounded :=
  ⟨h.consistent.outside hl hn, fun ht => (h.task (hl ▸ ht)).mono hn⟩

theorem Grounded.run (h : w.Grounded) {c : Command} (hfresh : c.Fresh w) (hc : c.Grounded w) :
    (c.run w).2.Grounded := by
  refine ⟨h.consistent.run hfresh, fun {id t} ht => Task.Grounded.mono ?_ (c.le_nextNumber w)⟩
  cases taskAfter_run h.consistent c id with
  | same heq => exact h.task (heq.symm.trans ht)
  | @created t' hcreate hid heq =>
    obtain rfl : t' = t := Option.some.inj (heq.symm.trans ht)
    subst hcreate
    exact hc
  | @patched t' p ht' hp heq =>
    obtain rfl : p.apply w.clock t' = t := Option.some.inj (heq.symm.trans ht)
    refine (h.task ht').apply (fun data hdata => ?_) w.clock
    rcases hp with rfl | hp
    · exact hc data hdata
    · rw [hp] at hdata
      cases hdata

/-- The worlds that commands lead to which bring no ids but such as were given out, while others may
use the bus, give out ids, count messages and let time go by. -/
inductive Grown : World → Prop where
  | new (capacity : Nat) (clock : Instant) : Grown (.new capacity clock)
  | command {w : World} (h : Grown w) {c : Command} (hfresh : c.Fresh w) (hc : c.Grounded w) :
    Grown (c.run w).2
  | outside {w v : World} (h : Grown w) (hl : v.ledger = w.ledger)
    (hn : w.nextNumber ≤ v.nextNumber) : Grown v

theorem Grown.grounded (h : w.Grown) : w.Grounded := by
  induction h with
  | new capacity clock => exact .new capacity clock
  | command _ hfresh hc ih => exact ih.run hfresh hc
  | outside _ hl hn ih => exact ih.outside hl hn

end World

/-! ### Files that are found -/

/-- A file of the id was found by who has done `past`. -/
def Found (past : List Event) (id : FileId) : Prop :=
  ∃ listed f, Event.mk (.findFile listed) (some f) ∈ past ∧ f.id = id

/-- A task that uploads files is created by who has found them. -/
def createsFound : Rules := fun past _ c =>
  ∀ t, c = .createTask t → ∀ u, t.upload? = some u → ∀ f ∈ u.files, Found past f.fileId

theorem LooksOnly.found {past past' : List Event} (h : LooksOnly past past') {id : FileId}
    (hid : Found past id) : Found past' id := by
  obtain ⟨more, rfl, -⟩ := h
  obtain ⟨listed, f, he, hf⟩ := hid
  exact ⟨listed, f, List.mem_append_left more he, hf⟩

theorem createsFound_of_ne {past : List Event} {w : World} {c : Command}
    (h : ∀ t, c ≠ .createTask t) : createsFound past w c :=
  fun t ht => absurd ht (h t)

theorem createsFound_of_isLookup (past : List Event) (w : World) (c : Command)
    (h : c.isLookup = true) : createsFound past w c :=
  createsFound_of_ne fun t ht => by
    subst ht
    cases h

/-- Files that were found have ids that were given out. -/
theorem old_of_found {R : Rely} (hR : R.Orderly) {allowed : Rules} {past : List Event} {w : World}
    (h : Thread.Recorded R allowed past w) {id : FileId} (hid : Found past id) : w.Old id := by
  obtain ⟨listed, f, he, rfl⟩ := hid
  obtain ⟨before, after, rfl⟩ := List.append_of_mem he
  obtain ⟨v, hv, -, hanswer, -, hlater⟩ := h before _ after rfl
  have hf : v.ledger.file? listed = some f := hanswer.symm
  exact ((hR.consistent hv).old.files _ f hf).mono (hR.number hlater)

/-- The worlds are grounded, and no number is given out twice. -/
def Rely.grounding : Rely := { Rely.consistency with holds := World.Grounded }

theorem Rely.grounding_orderly : Rely.grounding.Orderly := ⟨fun h => h.consistent, fun h => h⟩

/-- What a program may do in consistent worlds, it may do in those that are grounded too. -/
theorem Program.Obeys.grounding {α : Type} {p : Program α} {allowed : Rules} {goal : Goal α}
    {past : List Event} {w : World} (h : p.Obeys .consistency allowed goal past w) :
    p.Obeys .grounding allowed goal past w := by
  induction p generalizing past w with
  | done a => exact fun v hv hwv => h v (World.Grounded.consistent hv) hwv
  | call c next ih =>
    intro v hv hwv
    obtain ⟨hc, hn⟩ := h v (World.Grounded.consistent hv) hwv
    exact ⟨hc, fun hr hlater => ih _ (hn (World.Grounded.consistent hr) hlater)⟩

/-- The program creates tasks with files that it has found, whatever others do in between. -/
abbrev Program.Finds {α : Type} (p : Program α) (past : List Event) (w : World) : Prop :=
  p.Obeys .grounding createsFound (fun _ _ _ => True) past w

theorem Action.finds_bind {ε α β : Type} {a : Action ε α} {f : α → Action ε β} {good : Goal α}
    {bad : Goal ε} {past : List Event} {w : World}
    (h : a.run.Obeys .grounding createsFound (endsIn good bad) past w)
    (hf : ∀ x past v, good past v x → (f x).run.Finds past v) : (a >>= f).run.Finds past w := by
  rw [run_bind]
  refine Program.Obeys.bind (Program.Obeys.mono h (fun _ _ _ _ h => h) fun past' v r _ hr => ?_)
  cases r with
  | ok x => exact hf x past' v hr
  | error e => exact fun _ _ _ => trivial

theorem Program.Finds.endsIn {ε α : Type} {a : Action ε α} {past : List Event} {w : World}
    (h : a.run.Finds past w) :
    a.run.Obeys .grounding createsFound (Action.endsIn (fun _ _ _ => True) fun _ _ _ => True)
      past w :=
  h.mono (fun _ _ _ _ h => h) fun _ _ r _ _ => by cases r <;> trivial

theorem Action.finds_mapError {ε ε' α : Type} {a : Action ε α} {past : List Event} {w : World}
    (h : a.run.Finds past w) (f : ε → ε') : (a.mapError f).run.Finds past w := by
  rw [run_mapError]
  refine Program.Obeys.bind (Program.Obeys.mono h (fun _ _ _ _ h => h) fun past' v r _ _ => ?_)
  cases r <;> exact fun _ _ _ => trivial

namespace Creation

variable {R : Rely} {allowed : Rules}

theorem fileId_uploadFile {f : File} {sensors : List Sensor} {u : UploadFile}
    (h : uploadFile f sensors = .ok u) : u.fileId = f.id := by
  unfold uploadFile at h
  split at h
  · cases h
  · split at h
    · cases h
    · split at h <;> cases h
      rfl

/-- The file that an upload takes was found. -/
theorem finds_uploadFile (ha : AllowsLookups allowed) (id : FileId) (past : List Event)
    (w : World) :
    (findUploadFile id).run.Obeys R allowed (Action.endsIn
      (fun past' _ u => LooksOnly past past' ∧ Found past' u.fileId) fun _ _ _ => True) past w := by
  intro v _ _
  refine ⟨ha _ _ _ rfl, fun _ _ => ?_⟩
  have h₁ : LooksOnly past (past ++ [⟨.findFile id, v.ledger.file? id⟩]) := .single rfl _
  simp only [Command.run]
  cases hf : v.ledger.file? id with
  | none => exact fun _ _ _ => trivial
  | some f =>
    rw [hf] at h₁
    have hfound : Found (past ++ [⟨.findFile id, some f⟩]) f.id := ⟨id, f, by simp, rfl⟩
    have hsensors : (sensorsOf f).Reads fun _ => True := by
      unfold sensorsOf
      split
      · exact Action.reads_pure trivial
      · exact ⟨rfl, fun _ => trivial⟩
    refine hsensors.obeys_bind ha (fun sensors p u _ h₂ _ => ?_) fun _ _ _ _ _ => trivial
    cases hu : uploadFile f sensors with
    | error e => exact fun _ _ _ => trivial
    | ok u =>
      refine fun _ _ _ => ⟨h₁.trans h₂, ?_⟩
      rw [fileId_uploadFile hu]
      exact h₂.found hfound

theorem finds_uploadFiles (ha : AllowsLookups allowed) (ids : List FileId) (past : List Event)
    (w : World) :
    (findUploadFiles ids).run.Obeys R allowed (Action.endsIn
      (fun past' _ us => LooksOnly past past' ∧ ∀ u ∈ us, Found past' u.fileId)
      fun _ _ _ => True) past w := by
  induction ids generalizing past w with
  | nil => exact fun _ _ _ => ⟨.refl past, by simp⟩
  | cons id ids ih =>
    unfold findUploadFiles
    refine Action.obeys_bind ((finds_uploadFile ha id past w).mono (fun _ _ _ _ h => h)
      fun p v res _ hres => ?_)
    cases res with
    | error e => exact fun _ _ _ => trivial
    | ok u =>
      obtain ⟨h₁, hu⟩ := hres
      refine Action.obeys_bind ((ih p v).mono (fun _ _ _ _ h => h) fun p' v' res _ hres => ?_)
      cases res with
      | error e => exact fun _ _ _ => trivial
      | ok us =>
        obtain ⟨h₂, hus⟩ := hres
        refine fun _ _ _ => ⟨h₁.trans h₂, fun a ha => ?_⟩
        rcases List.mem_cons.1 ha with rfl | ha
        · exact h₂.found hu
        · exact hus a ha

theorem reads_fetchWork_type (r : FetchRequest) :
    (fetchWork r).Reads fun w => w.type = .dataFetch := by
  unfold fetchWork
  split
  · exact Action.reads_throw _
  · split
    · refine Action.reads_perform_bind rfl fun found => ?_
      refine (Action.reads_orFail (Q := fun _ => True) fun _ _ => trivial).bind fun g _ => ?_
      exact Action.reads_perform_bind rfl fun _ => Action.reads_pure rfl
    · refine Action.reads_perform_bind rfl fun found => ?_
      split
      · exact Action.reads_throw _
      · exact Action.reads_perform_bind rfl fun _ => Action.reads_pure rfl

/-- The files of new work were found. -/
theorem finds_work (ha : AllowsLookups allowed) (r : RequestedWork) (past : List Event)
    (w : World) :
    (work r).run.Obeys R allowed (Action.endsIn
      (fun past' _ w => ∀ u, w = .upload u → ∀ f ∈ u.files, Found past' f.fileId)
      fun _ _ _ => True) past w := by
  cases r with
  | fetch r =>
    refine ((reads_fetchWork_type r).obeys ha past w).mono (fun _ _ _ _ h => h)
      fun p v res _ hres => ?_
    cases res with
    | error e => trivial
    | ok work =>
      rintro u rfl
      cases hres.1
  | upload r =>
    simp only [work, uploadWork]
    split
    · exact fun _ _ _ => trivial
    · split
      · exact fun _ _ _ => trivial
      · refine Action.obeys_bind ((finds_uploadFiles ha r.fileIds past w).mono (fun _ _ _ _ h => h)
          fun p v res _ hres => ?_)
        cases res with
        | error e => exact fun _ _ _ => trivial
        | ok files =>
          intro _ _ _ u hu
          obtain rfl := Work.upload.inj hu
          exact hres.2
  | sync => exact fun _ _ _ u hu => (by cases hu)

/-- The files of a task that is built were found. -/
theorem finds_build (ha : AllowsLookups allowed) (user : UserId) (r : TaskRequest)
    (past : List Event) (w : World) :
    (build user r).run.Obeys R allowed (Action.endsIn
      (fun past' _ t => ∀ u, t.upload? = some u → ∀ f ∈ u.files, Found past' f.fileId)
      fun _ _ _ => True) past w := by
  unfold build
  refine (reads_checkRecurrence r).obeys_bind ha (fun _ p₁ v₁ _ _ _ => ?_) fun _ _ _ _ _ => trivial
  refine (reads_firstRun r).obeys_bind ha (fun firstRunAt p₂ v₂ _ _ _ => ?_)
    fun _ _ _ _ _ => trivial
  refine (reads_resolveName r firstRunAt).obeys_bind ha (fun name p₃ v₃ _ _ _ => ?_)
    fun _ _ _ _ _ => trivial
  refine Action.obeys_bind ((finds_work ha r.work p₃ v₃).mono (fun _ _ _ _ h => h)
    fun p₄ v₄ res _ hres => ?_)
  cases res with
  | error e => exact fun _ _ _ => trivial
  | ok work =>
    intro u _ _
    refine ⟨ha _ _ _ rfl, fun _ _ x _ _ => ⟨ha _ _ _ rfl, fun _ _ y _ _ => ?_⟩⟩
    have h₅ : LooksOnly p₄ (p₄ ++ [⟨.now, u.clock⟩] ++ [⟨.reserve 1, x.nextNumber⟩]) :=
      (LooksOnly.single rfl _).trans (LooksOnly.single rfl _)
    intro upload hupload f hf
    cases work with
    | upload w =>
      obtain rfl : w = upload := Option.some.inj hupload
      exact h₅.found (hres w rfl f hf)
    | fetch w => cases hupload
    | sync => cases hupload

theorem finds_store {t : Task} {past : List Event} {w : World}
    (h : ∀ u, t.upload? = some u → ∀ f ∈ u.files, Found past f.fileId) :
    (store t).run.Finds past w := by
  refine (obeys_store fun v _ t' ht' => ?_).mono (fun _ _ _ _ h => h) fun _ _ _ _ _ => trivial
  obtain rfl := Command.createTask.inj ht'
  exact h

theorem finds_create (user : UserId) (r : TaskRequest) (past : List Event) (w : World) :
    (create user r).run.Finds past w := by
  unfold create
  refine Action.finds_bind (finds_build createsFound_of_isLookup user r past w)
    fun t p v ht => ?_
  exact Action.finds_bind (finds_store ht).endsIn fun _ _ _ _ _ _ _ => trivial

end Creation

theorem Scheduling.finds_createAndSchedule (o : Outbox) (user : UserId) (r : TaskRequest)
    (past : List Event) (w : World) : (createAndSchedule o user r).run.Finds past w := by
  have ha := createsFound_of_isLookup
  unfold createAndSchedule
  refine Action.finds_bind ((reads_checkName r).obeys ha past w) fun _ p₁ v₁ _ => ?_
  refine Action.finds_bind (Creation.finds_build ha user r p₁ v₁) fun t p₂ v₂ ht => ?_
  refine Action.finds_bind (((reads_message t).mapError _).obeys ha p₂ v₂) fun m p₃ v₃ h₃ => ?_
  dsimp only
  split
  · exact fun _ _ _ => trivial
  · have hstore : (Creation.store t).run.Finds p₃ v₃ :=
      Creation.finds_store fun u hu f hf => h₃.2.found (ht u hu f hf)
    refine Action.finds_bind hstore.endsIn fun _ p₄ v₄ _ => ?_
    intro v₅ _ _
    refine ⟨createsFound_of_ne fun _ h => (by cases h), fun _ _ v₆ _ _ => ?_⟩
    refine ⟨createsFound_of_ne fun _ h => (by cases h), fun _ _ v₇ _ _ => ?_⟩
    exact ⟨createsFound_of_ne fun _ h => (by cases h), fun _ _ _ _ _ => trivial⟩

/-! ### Operations -/

theorem createsFound_of_touchesOnly {ids : List TaskId} {past : List Event} {w : World}
    {c : Command} (h : c.TouchesOnly ids) : createsFound past w c :=
  createsFound_of_ne fun t ht => by
    subst ht
    cases h with
    | other hk => cases hk

theorem Program.finds_of_uses {α : Type} {p : Program α} {Q : α → Prop}
    (h : p.Uses (·.serves = true) Q) (past : List Event) (w : World) : p.Finds past w := by
  refine (Program.Uses.obeys h (fun past w c hc => ?_) past w).mono
    (fun _ _ _ _ h => h) fun _ _ _ _ _ => trivial
  exact createsFound_of_ne fun t ht => by
    subst ht
    cases hc

namespace Http.Service

theorem finds_createTask (s : Service) (r : Request) (w : World) :
    (s.createTask r).run.Finds [] w := by
  unfold createTask
  cases r.userId? with
  | none => exact fun _ _ _ => trivial
  | some user =>
    cases hbody : r.decodeBody s.maxBodyBytes TaskRequest.decoder with
    | error e => exact fun _ _ _ => trivial
    | ok request =>
      have hcall := Scheduling.finds_createAndSchedule s.outbox user request [] w
      show ((Scheduling.createAndSchedule s.outbox user request).mapError ApiError.ofTaskError >>=
        fun t => pure (Response.json 201 t.toJson)).run.Finds [] w
      exact Action.finds_bind (Action.finds_mapError hcall ApiError.ofTaskError).endsIn
        fun _ _ _ _ _ _ _ => trivial

theorem finds_respond (s : Service) (r : Request) (w : World) : (s.respond r).Finds [] w := by
  have hperform (endpoint : Endpoint) : (s.perform r endpoint).run.Finds [] w := by
    rcases eq_or_ne endpoint .createTask with rfl | h
    · exact s.finds_createTask r w
    · exact Program.finds_of_uses (s.uses_perform .serves r h) [] w
  unfold respond
  split
  · exact fun _ _ _ => trivial
  · split
    · exact fun _ _ _ => trivial
    · rename_i endpoint _
      refine Program.Obeys.bind (Program.Obeys.bind ((hperform endpoint).mono
        (fun _ _ _ _ h => h) fun past v res _ _ => ?_))
      cases res <;> exact fun _ _ _ _ _ _ => trivial

end Http.Service

namespace Operation

/-- Whatever the application is asked to do, the files that a new task uploads were found. -/
theorem finds (op : Operation) (w : World) : op.program.Finds [] w := by
  cases op with
  | handle registry key payload =>
    have h : (Inbox.process registry key payload).run.Obeys .consistency
        (fun _ _ c => c.TouchesOnly (Inbox.namedBy registry key payload)) (fun _ _ _ => True)
        [] w := Inbox.touchesOnly_process registry key payload
    exact obeys_forget (h.grounding.mono (fun _ _ _ _ => createsFound_of_touchesOnly)
      fun _ _ _ _ _ => trivial)
  | respond s r => exact obeys_forget (s.finds_respond r w)
  | createTask user r => exact obeys_forget (Creation.finds_create user r [] w)
  | createAndSchedule o user r =>
    exact obeys_forget (Scheduling.finds_createAndSchedule o user r [] w)
  | findTask id => exact obeys_forget (Program.finds_of_uses (Scheduling.uses_find .serves id) [] w)
  | searchTasks filter paging =>
    exact obeys_forget fun _ _ _ =>
      ⟨createsFound_of_isLookup _ _ _ rfl, fun _ _ _ _ _ => trivial⟩
  | requestMode o ids mode =>
    exact obeys_forget
      (Program.finds_of_uses (Scheduling.uses_requestMode .serves o ids mode) [] w)
  | findFile id => exact obeys_forget (Program.finds_of_uses (Visibility.uses_find .serves id) [] w)
  | requestVisibility o id published platforms =>
    exact obeys_forget (Program.finds_of_uses
      (Visibility.uses_requestChange .serves o id published platforms) [] w)
  | deleteFiles o ids =>
    exact obeys_forget (Program.finds_of_uses (Deletion.uses_deleteFiles .serves o ids) [] w)
  | announceUser o u => exact obeys_forget (Program.finds_of_uses (u.uses_announce .serves o) [] w)

end Operation

/-! ### Runs -/

theorem Merge.dataId_of_mem_mergeResults {data : List FetchEntry} {fresh : Nat → String}
    {rs : List ResolvedResult} {e : FetchEntry} (he : e ∈ (mergeResults data fresh rs).entries) :
    (∃ a ∈ data, a.dataId = e.dataId) ∨ ∃ i < rs.length, fresh i = e.dataId := by
  obtain ⟨added, hlabels, hadded, hle⟩ := Merge.labels_mergeResults data fresh rs
  have hmem : e.label ∈ data.map FetchEntry.label ++ added :=
    hlabels ▸ List.mem_map_of_mem he
  rcases List.mem_append.1 hmem with hmem | hmem
  · obtain ⟨a, ha, hlabel⟩ := List.mem_map.1 hmem
    exact Or.inl ⟨a, ha, congrArg (·.2) hlabel⟩
  · have hid : e.label.2 ∈ added.map (·.2) := List.mem_map_of_mem hmem
    rw [hadded, List.mem_map] at hid
    obtain ⟨i, hi, hid⟩ := hid
    exact Or.inr ⟨i, Nat.lt_of_lt_of_le (List.mem_range.1 hi) hle, hid⟩

/-- What is done by the rules, with files that were found, brings no task that names something that
is still to be given out. -/
theorem Command.grounded_of_mayDo {past : List Event} {w : World} {c : Command}
    (hrec : Thread.Recorded .grounding
      (fun past v c => MayDo .grounding past v c ∧ createsFound past v c) past w)
    (ha : MayDo .grounding past w c) (hfound : createsFound past w c) : c.Grounded w := by
  have hR := Rely.grounding_orderly
  cases ha with
  | @createTask t hnew =>
    refine ⟨?_, fun e he => ?_, fun u hu f hf => old_of_found hR hrec (hfound t rfl u hu f hf)⟩
    · obtain ⟨n, -, hid⟩ := hnew.id
      exact hid ▸ FreshId.plain_text n
    · obtain ⟨n, hn, hid⟩ := hnew.entries.reserved e he
      exact hid ▸ World.old_text (Operation.lt_of_reserved hR hrec hn)
  | @updateTask id p hrecon =>
    intro data hdata e he
    obtain ⟨u, seen, first, rs, rfl, hseen, hfirst, hlast, -, rfl⟩ := hrecon data hdata
    rcases Merge.dataId_of_mem_mergeResults he with ⟨a, ha, hid⟩ | ⟨i, hi, hid⟩
    · exact hid ▸ ((hseen.holds.task hseen.stored).dataId a ha).mono (by omega)
    · exact hid ▸ World.old_text (by omega)
  | setModes ids mode => trivial
  | @other c hk _ =>
    cases c with
    | createTask t => cases hk
    | updateTask id p => cases hk
    | _ => trivial

namespace Operation

variable {s : State}

/-- The operations keep to the rules, and the files that they upload were found. -/
def rules : Rules := fun past v c => MayDo .grounding past v c ∧ createsFound past v c

theorem obeys_rules (op : Operation) (w : World) :
    op.program.Obeys .grounding rules (fun _ _ _ => True) [] w :=
  ((op.obeys Rely.grounding_orderly w).and (op.finds w)).mono (fun _ _ _ _ h => h)
    fun _ _ _ _ _ => trivial

/-- All operations, whatever they are, leave tasks that name only what was given out. -/
theorem Steps.grounded_of {s s' : State} (run : Steps s s')
    (hl : Thread.Lawful .grounding (fun _ => rules) (fun _ _ _ _ => True) s)
    (hown : Thread.Owning s) :
    Thread.Lawful .grounding (fun _ => rules) (fun _ _ _ _ => True) s' ∧ Thread.Owning s' := by
  have hR := Rely.grounding_orderly
  induction run with
  | refl => exact ⟨hl, hown⟩
  | tail _ step ih =>
    obtain ⟨hl, hown⟩ := ih
    cases step with
    | @begin ts w op =>
      refine ⟨⟨hl.holds, fun j t ht => ?_, fun j t ht => ?_⟩, owning_begin hown _⟩
      · rcases getElem?_begin ht with ht | ⟨-, rfl⟩
        · exact hl.obeys j t ht
        · exact op.obeys_rules w
      · rcases getElem?_begin ht with ht | ⟨-, rfl⟩
        · exact hl.recorded j t ht
        · intro before e after he
          simp [Thread.start] at he
    | act h =>
      obtain ⟨hl', hown', -⟩ := Thread.Steps.lawful (J := Thread.Owning)
        (fun ts w i past c next hi hl hJ ha => by
          have hfree : Thread.NewIdFree w c := fun id hid => hJ.newId hi ha.1.ownsNewId hid
          have hc := Command.grounded_of_mayDo (hl.recorded i _ hi) ha.1 ha.2
          exact ⟨hl.holds.run (ha.1.fresh hR hfree) hc, c.le_nextNumber w,
            hJ.step hl.holds.consistent hi ha.1.ownsNewId⟩) (.single h) hl hown
      exact ⟨hl', hown'⟩
    | outside hledger hn =>
      have hh := hl.holds.outside hledger hn
      exact ⟨⟨hh, fun j t ht => (hl.obeys j t ht).later hn,
        fun j t ht => (hl.recorded j t ht).later hn⟩, owning_outside hown hledger hn⟩

/-- Whatever the application is asked to do, in whatever order, all that its tasks name has been
given out. -/
theorem Steps.grounded {w₀ : World} (run : Steps ([], w₀) s) (h₀ : w₀.Grounded) :
    s.2.Grounded :=
  (run.grounded_of ⟨h₀, fun i t ht => (by cases ht), fun i t ht => (by cases ht)⟩
    (owning_nil w₀)).1.holds

end Operation

end SensorTasks

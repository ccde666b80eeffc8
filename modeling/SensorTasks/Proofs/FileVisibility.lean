import SensorTasks.Proofs.MarkedFiles

/-!
Who changes the visibility of files. Requests only mark a file and take the mark away; whether a
file is published and where it is stored changes with the results of such changes alone, and the
platforms that it is exposed to with these and with uploads that are done. This is so in every run
in which operations take turns at every command, and no file that is marked has an error.
-/

namespace SensorTasks

open Message Inbox

/-! ### Operations -/

namespace Operation

/-- The operation handles a result for the file that carries no error, but a state. -/
def Settles (op : Operation) (id : FileId) : Prop :=
  ∃ m v, op.result? = some m ∧ m.fileId = id ∧ m.error = none ∧ m.visibility = some v

/-- The operation handles a report that an upload is done, and has found the task of the report,
which does this work. -/
def Uploaded (op : Operation) (past : List Event) (work : UploadWork) : Prop :=
  ∃ m t, op.report? = some m ∧ m.taskType = .dataUpload ∧ m.status = .done ∧
    Event.mk (.findTask m.taskId) (some t) ∈ past ∧ t.upload? = some work

/-- What handles a report handles no result. -/
theorem Uploaded.result_eq_none {op : Operation} {past : List Event} {work : UploadWork}
    (h : op.Uploaded past work) : op.result? = none := by
  obtain ⟨m, t, hm, -⟩ := h
  obtain ⟨r, key, payload, rfl, hreceived⟩ := report?_eq_some hm
  exact TaskMessage.result_eq_none hreceived

/-- Handling a result that brings something is to patch its file. -/
theorem program_of_result {op : Operation} {m : VisibilityResult} {p : FilePatch}
    (hop : op.result? = some m) (hp : Report.visibilityPatch? m = some p) :
    ∃ next, op.program = .call (.updateFile m.fileId p) next := by
  unfold result? at hop
  split at hop
  · rename_i r key payload
    unfold VisibilityResult.received? at hop
    split at hop
    · rename_i j hread
      split at hop
      · cases hop
      · rename_i haccepted
        cases hj : VisibilityResult.decoder.fromValue j with
        | error e =>
          rw [hj] at hop
          cases hop
        | ok m' =>
          rw [hj] at hop
          obtain rfl := Option.some.inj hop
          simp only [program, process, Handler.ofKey?, hread, haccepted, Handler.handle, decode, hj,
            pure_bind, Report.visibility, hp]
          exact ⟨_, rfl⟩
    · cases hop
  · cases hop

/-- What an operation that has done `past` may do to files. -/
inductive MayChange (op : Operation) (past : List Event) : Command → Prop where
  | other {c : Command} (hc : c.keepsVisibility = true) (hop : op.result? = none) :
    MayChange op past c
  | beginChange (id : FileId) (hop : op.result? = none) :
    MayChange op past (.updateFile id Visibility.beginChange)
  | endChange (id : FileId) (hop : op.result? = none) :
    MayChange op past (.updateFile id Visibility.endChange)
  | settle {m : VisibilityResult} {p : FilePatch} (hop : op.result? = some m)
    (hp : Report.visibilityPatch? m = some p) : MayChange op past (.updateFile m.fileId p)
  | expose {work : UploadWork} (hop : op.Uploaded past work) :
    MayChange op past (.exposeFiles (work.files.map (·.fileId)) work.platform)

/-- What handles no result may do all that services do. -/
theorem serving_mayChange {op : Operation} (hop : op.result? = none) :
    Serving fun c => ∀ past, op.MayChange past c where
  lookup _ hc _ := .other (Command.keepsVisibility_of_isLookup hc) hop
  count _ _ := .other rfl hop
  publish _ _ _ _ := .other rfl hop
  beginChange id _ := .beginChange id hop
  endChange id _ := .endChange id hop
  deleteFile _ _ := .other rfl hop

theorem uploaded_of_content {m : StatusReport Json} (h : Report.content m = .uploaded) :
    m.taskType = .dataUpload ∧ m.status = .done := by
  unfold Report.content at h
  split at h
  all_goals first
    | exact ⟨‹_›, ‹_›⟩
    | cases h
    | split at h <;> cases h

variable {R : Rely}

/-- Handling a message about tasks exposes files only if it is a report that an upload is done. -/
theorem obeys_handle {r : Registry} {key : RoutingKey} {payload : Payload} {m : TaskMessage}
    (hm : TaskMessage.received? r key payload = some m) (w : World) :
    (handle r key payload).program.Obeys R (fun past _ c => (handle r key payload).MayChange past c)
      (fun _ _ _ => True) [] w := by
  have hop : (handle r key payload).result? = none := TaskMessage.result_eq_none hm
  have hother : ∀ {past} {c : Command}, c.keepsVisibility = true →
      (handle r key payload).MayChange past c := fun hc => .other hc hop
  refine obeys_forget ?_
  cases m with
  | report m =>
    have hreport : (handle r key payload).report? = some m := by
      simp only [report?, hm]
    rw [TaskMessage.process_eq hm]
    dsimp only [TaskMessage.handle]
    rw [Report.status_eq]
    refine fun v _ _ => ⟨hother rfl, fun _ _ => ?_⟩
    -- what follows is told by the task that was found
    let found := v.ledger.task? m.taskId
    let P := fun c : Command => ∀ past, Event.mk (.findTask m.taskId) found ∈ past →
      (handle r key payload).MayChange past c
    have huses : (Report.applyTo m found).Uses P fun _ => True := by
      refine Report.uses_applyTo
        (fun c hc _ _ => hother (Command.keepsVisibility_of_takesOver hc))
        (fun _ _ _ _ => hother rfl) (fun t ht hcontent work hwork past hmem => ?_)
        fun t _ rs _ => Report.uses_reconcile
          (fun c hc _ _ => hother (Command.keepsVisibility_of_isLookup hc))
          (fun _ _ _ => hother rfl) t rs
      obtain ⟨htype, hdone⟩ := uploaded_of_content hcontent
      exact .expose ⟨m, t, hreport, htype, hdone, ht ▸ hmem, hwork⟩
    have hall := ((huses.bind (Q := fun _ => True) fun t _ => .pure (x := t.isSome) trivial).bind
      (Q := fun _ => True) fun _ _ => .pure (x := ()) trivial).mapError ConsumeError.handler
    exact (Program.Uses.obeys_after hall (fun past _ c he hc => hc past he)
      (List.mem_singleton_self _) v).mono (fun _ _ _ _ h => h) fun _ _ _ _ _ => trivial
  | failure f =>
    have hfailure : (Report.failure f).Uses (·.keepsVisibility = true) fun _ => True :=
      Report.uses_failure rfl fun _ => rfl
    have hall := TaskMessage.uses_process_of_handle hm (hfailure.bind fun _ _ => .pure trivial)
    exact (Program.Uses.obeys hall (fun _ _ _ hc => hother hc) [] w).mono (fun _ _ _ _ h => h)
      fun _ _ _ _ _ => trivial
  | modes m =>
    rw [TaskMessage.process_eq hm]
    exact fun _ _ _ => ⟨hother rfl, fun _ _ _ _ _ => trivial⟩

/-- All operations keep to the rules. -/
theorem obeys_mayChange (op : Operation) (w : World) :
    op.program.Obeys R (fun past _ c => op.MayChange past c) (fun _ _ _ => True) [] w := by
  by_cases hop : ∃ r key payload, op = .handle r key payload
  · obtain ⟨r, key, payload, rfl⟩ := hop
    cases hm : TaskMessage.received? r key payload with
    | none =>
      have huses : (process r key payload).Uses
          (fun c => ∀ past, (handle r key payload).MayChange past c) fun _ => True :=
        TaskMessage.uses_process hm fun m hm p hp _ => .settle hm hp
      exact (Program.Uses.obeys (uses_forget huses) (fun past _ c hc => hc past) [] w).mono
        (fun _ _ _ _ h => h) fun _ _ _ _ _ => trivial
    | some m => exact obeys_handle hm w
  · have hnone : op.result? = none := by
      cases op with
      | handle r key payload => exact absurd ⟨r, key, payload, rfl⟩ hop
      | _ => rfl
    have huses : op.program.Uses (fun c => ∀ past, op.MayChange past c) fun _ => True :=
      uses_service (serving_mayChange hnone) (fun _ _ => .other rfl hnone)
        fun r key payload h => hop ⟨r, key, payload, h⟩
    exact (Program.Uses.obeys huses (fun past _ c hc => hc past) [] w).mono (fun _ _ _ _ h => h)
      fun _ _ _ _ _ => trivial

end Operation

/-! ### Runs -/

/-- An operation that has begun, and its thread. -/
structure Running where
  op : Operation
  thread : Thread Unit

namespace Running

/-- The operations that have begun, and the world that they act on. -/
abbrev State := List Running × World

/-- A step, and the operation that takes it, as it was before, if one does. -/
inductive Step : State → Option Running → State → Prop where
  | begin {rs : List Running} {w : World} (op : Operation) :
    Step (rs, w) none (rs ++ [⟨op, Thread.start op.program⟩], w)
  | act {rs : List Running} {w : World} {i : Nat} {op : Operation} {past : List Event}
      {c : Command} {next : c.Answer → Program Unit}
      (h : rs[i]? = some ⟨op, past, .call c next⟩) :
    Step (rs, w) (some ⟨op, past, .call c next⟩)
      (rs.set i ⟨op, Thread.after past c next w⟩, (c.run w).2)
  /-- A file is created directly. -/
  | create {rs : List Running} {w : World} (new : NewFile) :
    Step (rs, w) none (rs, ((Command.createFile new).run w).2)
  /-- Time goes by, and others give out ids and change whatever is no file. -/
  | outside {rs : List Running} {w v : World} (hf : v.ledger.files = w.ledger.files)
      (hn : w.nextNumber ≤ v.nextNumber) : Step (rs, w) none (rs, v)

/-- The states that runs lead to which begin without files. -/
inductive Reachable : State → Prop where
  | start {w : World} (h : w.ledger.files = .empty) : Reachable ([], w)
  | step {s s' : State} {r? : Option Running} (h : Reachable s) (hs : Step s r? s') : Reachable s'

/-- The operation has found a task whose upload to the platform is reported to be done, and which
lists the file. -/
def Exposes (r : Running) (id : FileId) (p : Platform) : Prop :=
  ∃ work, r.op.Uploaded r.thread.past work ∧ id ∈ work.files.map (·.fileId) ∧ work.platform = p

/-- What a step changes of the files that are there before and after it. -/
structure Changes (r? : Option Running) (w v : World) : Prop where
  /-- Whether a file is published and where it is stored changes with a result for it only, which
  has no error, but a state. -/
  settled : ∀ {id f g}, w.ledger.file? id = some f → v.ledger.file? id = some g →
    g.visibility.published ≠ f.visibility.published ∨ g.storage ≠ f.storage →
      ∃ r, r? = some r ∧ r.op.Settles id
  /-- The platforms change with such a result, or the one of an upload is added. -/
  exposed : ∀ {id f g}, w.ledger.file? id = some f → v.ledger.file? id = some g →
    g.visibility.exposedTo ≠ f.visibility.exposedTo →
      ∃ r, r? = some r ∧ (r.op.Settles id ∨
        ∃ p, r.Exposes id p ∧ g.visibility.exposedTo = f.visibility.exposedTo ++ [p])
  /-- A result with an error notes this in its file, if that is there, and takes the mark away. -/
  failed : ∀ {r m e}, r? = some r → r.op.result? = some m → m.error = some e →
    w.ledger.file? m.fileId = none ∧ v = w ∨ ∃ f, w.ledger.file? m.fileId = some f ∧ v = { w with
      ledger := w.ledger.putFile { f with
        visibility := { f.visibility with stateChanging := false, errorMessage := some e }
        updatedAt := w.clock } }

namespace Changes

variable {v w : World} {r? : Option Running}

/-- A step that handles no result, and leaves all that results tell of files. -/
theorem of_kept (hop : ∀ r, r? = some r → r.op.result? = none)
    (hkept : ∀ {id f g}, w.ledger.file? id = some f → v.ledger.file? id = some g →
      g.visibility.published = f.visibility.published ∧ g.storage = f.storage ∧
        g.visibility.exposedTo = f.visibility.exposedTo) : Changes r? w v where
  settled hf hg hne := by
    obtain ⟨hp, hs, -⟩ := hkept hf hg
    exact hne.elim (absurd hp) (absurd hs)
  exposed hf hg hne := absurd (hkept hf hg).2.2 hne
  failed hr hm _ := by
    rw [hop _ hr] at hm
    cases hm

/-- A step that handles no result, after which every file that stays is as it was. -/
theorem of_same (hop : ∀ r, r? = some r → r.op.result? = none)
    (hsame : ∀ id g, v.ledger.file? id = some g →
      w.ledger.file? id = some g ∨ w.ledger.file? id = none) : Changes r? w v := by
  refine of_kept hop fun {id f g} hf hg => ?_
  rcases hsame id g hg with hg | hnew
  · obtain rfl := Option.some.inj (hf.symm.trans hg)
    exact ⟨rfl, rfl, rfl⟩
  · rw [hnew] at hf
    cases hf

theorem of_keepsVisibility (hw : w.Marked) (hop : ∀ r, r? = some r → r.op.result? = none)
    {c : Command} (hc : c.keepsVisibility = true) : Changes r? w (c.run w).2 :=
  of_same hop fun _ _ hg =>
    (Command.file_of_keepsVisibility hc hg).imp_right fun hnew => hw.missing hnew.1

end Changes

variable {w : World} {op : Operation} {past : List Event} {c : Command}

/-- An error changes nothing but the marks of the file. -/
theorem changes_of_error (hw : w.Marked) {r : Running} {m : VisibilityResult} {e : String}
    (hop : r.op.result? = some m) (he : m.error = some e) {p : FilePatch}
    (hp : p = { stateChanging := some false, errorMessage := some (some e) }) :
    Changes (some r) w ((Command.updateFile m.fileId p).run w).2 := by
  subst hp
  refine ⟨fun hf hg hne => ?_, fun hf hg hne => ?_, fun hr hm he' => ?_⟩
  · obtain ⟨hp, hs, -⟩ := hw.kept_of_patch rfl rfl rfl hf hg
    exact hne.elim (absurd hp) (absurd hs)
  · obtain ⟨-, -, hx⟩ := hw.kept_of_patch rfl rfl rfl hf hg
    exact absurd hx hne
  · obtain rfl := Option.some.inj hr
    obtain rfl := Option.some.inj (hop.symm.trans hm)
    obtain rfl := Option.some.inj (he.symm.trans he')
    rcases hw.updateFile_run m.fileId _ with ⟨hsame, hmissing⟩ | ⟨f, hf, hrun, -⟩
    · exact Or.inl ⟨hmissing, hsame⟩
    · exact Or.inr ⟨f, hf, hrun⟩

/-- A result without an error changes its file only. -/
theorem changes_of_state (hw : w.Marked) {r : Running} {m : VisibilityResult}
    {v : VisibilityUpdate} (hop : r.op.result? = some m) (he : m.error = none)
    (hv : m.visibility = some v) (p : FilePatch) :
    Changes (some r) w ((Command.updateFile m.fileId p).run w).2 := by
  have hsettles : ∀ {id f g}, w.ledger.file? id = some f →
      ((Command.updateFile m.fileId p).run w).2.ledger.file? id = some g → g ≠ f →
        r.op.Settles id := by
    intro id f g hf hg hne
    cases hw.after_run _ hg with
    | same hg => exact absurd (Option.some.inj (hg.symm.trans hf)) hne
    | created hnew => exact absurd (hw.old hf) hnew
    | patched hc =>
      cases hc
      exact ⟨m, v, hop, rfl, he, hv⟩
    | exposed hc => cases hc
  refine ⟨fun hf hg hne => ⟨r, rfl, hsettles hf hg fun h => ?_⟩,
    fun hf hg hne => ⟨r, rfl, Or.inl (hsettles hf hg fun h => ?_)⟩, fun hr hm he' => ?_⟩
  · rw [h] at hne
    exact hne.elim (absurd rfl) (absurd rfl)
  · rw [h] at hne
    exact hne rfl
  · obtain rfl := Option.some.inj hr
    obtain rfl := Option.some.inj (hop.symm.trans hm)
    rw [he] at he'
    cases he'

/-- An upload that is done adds its platform to the files that it lists. -/
theorem changes_of_uploaded (hw : w.Marked) {r : Running} {work : UploadWork}
    (hop : r.op.Uploaded r.thread.past work) :
    Changes (some r) w
      ((Command.exposeFiles (work.files.map (·.fileId)) work.platform).run w).2 := by
  have hfile : ∀ {id f g}, w.ledger.file? id = some f →
      ((Command.exposeFiles (work.files.map (·.fileId)) work.platform).run w).2.ledger.file? id =
        some g → g = f ∨ id ∈ work.files.map (·.fileId) ∧
          f.visibility.isExposedTo work.platform = false ∧
          g = { f with
            visibility := f.visibility.exposeTo work.platform
            updatedAt := w.clock } := by
    intro id f g hf hg
    cases hw.after_run _ hg with
    | same hg => exact Or.inl (Option.some.inj (hg.symm.trans hf))
    | created hnew => exact absurd (hw.old hf) hnew
    | patched hc => cases hc
    | exposed hc hf' hlisted hnot hg =>
      cases hc
      obtain rfl := Option.some.inj (hf.symm.trans hf')
      exact Or.inr ⟨hlisted, hnot, hg⟩
  refine ⟨fun hf hg hne => ?_, fun hf hg hne => ?_, fun hr hm _ => ?_⟩
  · rcases hfile hf hg with rfl | ⟨-, hnot, rfl⟩
    · exact hne.elim (absurd rfl) (absurd rfl)
    · simp [Visibility.exposeTo, hnot] at hne
  · rcases hfile hf hg with rfl | ⟨hlisted, hnot, rfl⟩
    · exact absurd rfl hne
    · exact ⟨r, rfl, Or.inr ⟨work.platform, ⟨work, hop, hlisted, rfl⟩,
        by simp [Visibility.exposeTo, hnot]⟩⟩
  · obtain rfl := Option.some.inj hr
    rw [hop.result_eq_none] at hm
    cases hm

/-- What a command does that the rules allow. -/
theorem changes_run (hw : w.Marked) {rest : Program Unit} (hc : op.MayChange past c) :
    Changes (some ⟨op, past, rest⟩) w (c.run w).2 := by
  have hnone : op.result? = none →
      ∀ r, some (⟨op, past, rest⟩ : Running) = some r → r.op.result? = none := by
    rintro hop r hr
    obtain rfl := Option.some.inj hr
    exact hop
  cases hc with
  | other hc hop => exact .of_keepsVisibility hw (hnone hop) hc
  | beginChange id hop => exact .of_kept (hnone hop) (hw.kept_of_patch rfl rfl rfl)
  | endChange id hop => exact .of_kept (hnone hop) (hw.kept_of_patch rfl rfl rfl)
  | settle hop hp =>
    rcases Report.visibilityPatch?_cases hp with ⟨e, he, hp⟩ | ⟨he, v, hv, -⟩
    · exact changes_of_error hw hop he hp
    · exact changes_of_state hw hop he hv _
  | expose hop => exact changes_of_uploaded hw hop

/-- Every command that the rules allow leaves no file with an error while it is changing. -/
theorem marked_run (hw : w.Marked) (hc : op.MayChange past c) : (c.run w).2.Marked := by
  refine hw.run fun id p hpatch f hchanging => ?_
  subst hpatch
  cases hc with
  | other hc hop => cases hc
  | beginChange id hop => rfl
  | endChange id hop => cases hchanging
  | settle hop hp =>
    rcases Report.visibilityPatch?_cases hp with ⟨e, -, rfl⟩ | ⟨-, v, -, rfl⟩ <;> cases hchanging

/-! ### All runs -/

/-- All operations keep to the rules, and so the files are as they should be. -/
structure Lawful (s : State) : Prop where
  marked : s.2.Marked
  obeys : ∀ r ∈ s.1, r.thread.rest.Obeys .nothing (fun past _ c => r.op.MayChange past c)
    (fun _ _ _ => True) r.thread.past s.2

/-- One step keeps this, and changes of the files what it may. -/
theorem Lawful.step {s s' : State} {r? : Option Running} (h : Lawful s) (hs : Step s r? s') :
    Lawful s' ∧ Changes r? s.2 s'.2 := by
  cases hs with
  | @begin rs w op =>
    refine ⟨⟨h.marked, fun r hr => ?_⟩, .of_same (fun _ hr => by cases hr) fun _ _ => Or.inl⟩
    rcases List.mem_append.1 hr with hr | hr
    · exact h.obeys r hr
    · rw [List.mem_singleton.1 hr]
      exact op.obeys_mayChange w
  | @act rs w i op past c next hi =>
    obtain ⟨hc, hnext⟩ := h.obeys _ (List.mem_of_getElem? hi) w trivial trivial
    refine ⟨⟨marked_run h.marked hc, fun r hr => ?_⟩, changes_run h.marked hc⟩
    rcases List.mem_or_eq_of_mem_set hr with hr | rfl
    · exact (h.obeys r hr).later trivial
    · exact hnext trivial trivial
  | @create rs w new =>
    have hc : (Command.createFile new).keepsVisibility = true := rfl
    exact ⟨⟨h.marked.run fun _ _ hp => (by cases hp), fun r hr => (h.obeys r hr).later trivial⟩,
      .of_keepsVisibility h.marked (fun _ hr => by cases hr) hc⟩
  | @outside rs w v hf hn =>
    refine ⟨⟨h.marked.outside hf hn, fun r hr => (h.obeys r hr).later trivial⟩,
      .of_same (fun _ hr => by cases hr) fun id g hg => Or.inl ?_⟩
    rwa [Ledger.file?, hf] at hg

theorem Reachable.lawful {s : State} (h : Reachable s) : Lawful s := by
  induction h with
  | start h => exact ⟨.of_empty h, fun r hr => by cases hr⟩
  | step _ hs ih => exact (ih.step hs).1

namespace Sample

def new : NewFile where
  name := "a.csv"
  storage := ⟨"files", "a.csv"⟩
  metadata := ⟨[], none, none, none, none, []⟩
  createdByTask := none
  description := none
  url := none
  attributes := .empty

def file : FileId := FreshId.text 1

/-- That the file is published now. -/
def result : VisibilityResult := ⟨file, some ⟨true, none⟩, none, none⟩

def handling : Operation :=
  .handle .standard .fileResultVisibilityState (.document result.toJson)

def patch : FilePatch := (Report.visibilityPatch? result).get rfl

/-- A file was created, and a result for it is about to be handled. -/
def state : State :=
  ([⟨handling, Thread.start handling.program⟩], ((Command.createFile new).run (.new 8 .epoch)).2)

theorem reachable : Reachable state :=
  .step (.step (.start rfl) (.create (w := .new 8 .epoch) new)) (.begin handling)

end Sample

end Running

end SensorTasks

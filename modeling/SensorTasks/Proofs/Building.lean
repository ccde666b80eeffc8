import SensorTasks.Lifecycle.Creation
import SensorTasks.Proofs.Lookup

/-!
Building a task, whatever others do meanwhile. All that is looked up is looked up before anything is
stored. The id of the task and those of its entries come from numbers that were reserved on the way,
so no two entries of a new task have the same id; and no entry has a file yet.
-/

namespace SensorTasks

/-- The number was reserved by who has done `past`. -/
def Reserved (past : List Event) (n : Nat) : Prop := ∃ e ∈ past, e.Reserves n

theorem LooksOnly.reserved {past past' : List Event} (h : LooksOnly past past') {n : Nat}
    (hn : Reserved past n) : Reserved past' n := by
  obtain ⟨more, rfl, -⟩ := h
  obtain ⟨e, he, hr⟩ := hn
  exact ⟨e, List.mem_append_left _ he, hr⟩

namespace Creation

variable {R : Rely} {allowed : Rules}

/-! ### Entries -/

/-- Entries of a task that is new: they have no files, and ids of their own that were reserved. -/
structure NewEntries (past : List Event) (data : List FetchEntry) : Prop where
  fileId : ∀ e ∈ data, e.fileId = none
  distinct : (data.map (·.dataId)).Nodup
  reserved : ∀ e ∈ data, ∃ n, Reserved past n ∧ e.dataId = FreshId.text n

theorem NewEntries.nil (past : List Event) : NewEntries past [] where
  fileId _ he := absurd he List.not_mem_nil
  distinct := List.nodup_nil
  reserved _ he := absurd he List.not_mem_nil

theorem NewEntries.looksOnly {past past' : List Event} {data : List FetchEntry}
    (h : NewEntries past data) (hpast : LooksOnly past past') : NewEntries past' data where
  fileId := h.fileId
  distinct := h.distinct
  reserved e he := by
    obtain ⟨n, hn, hid⟩ := h.reserved e he
    exact ⟨n, hpast.reserved hn, hid⟩

theorem fileId_entries (first : Nat) (wanted : List (SensorId × String)) :
    ∀ e ∈ entries first wanted, e.fileId = none := by
  induction wanted generalizing first with
  | nil => simp [entries]
  | cons a wanted ih =>
    obtain ⟨sensor, fileName⟩ := a
    intro e he
    rcases List.mem_cons.1 he with rfl | he
    · rfl
    · exact ih (first + 1) e he

theorem dataId_entries (first : Nat) (wanted : List (SensorId × String)) :
    (entries first wanted).map (·.dataId) =
      (List.range' first wanted.length).map FreshId.text := by
  induction wanted generalizing first with
  | nil => rfl
  | cons a wanted ih =>
    obtain ⟨sensor, fileName⟩ := a
    rw [entries, List.map_cons, ih, List.length_cons, List.range'_succ, List.map_cons]

theorem newEntries_entries (past : List Event) (first : Nat) (wanted : List (SensorId × String)) :
    NewEntries (past ++ [⟨.reserve wanted.length, first⟩]) (entries first wanted) where
  fileId := fileId_entries first wanted
  distinct := by
    rw [dataId_entries]
    have hnumbers : (List.range' first wanted.length).Nodup := List.nodup_range'
    exact List.pairwise_map.2 (hnumbers.imp fun hne h => hne (FreshId.text_injective h))
  reserved e he := by
    have hid : e.dataId ∈ (List.range' first wanted.length).map FreshId.text := by
      rw [← dataId_entries]
      exact List.mem_map_of_mem he
    obtain ⟨n, hn, hid⟩ := List.mem_map.1 hid
    exact ⟨n, ⟨⟨.reserve wanted.length, first⟩, by simp, List.mem_range'_1.1 hn⟩, hid.symm⟩

/-! ### Work -/

/-- Work whose entries, if it has any, are new. -/
def NewWork (past : List Event) (w : Work) : Prop := ∀ f, w = .fetch f → NewEntries past f.data

/-- Rules that allow all lookups. -/
abbrev AllowsLookups (allowed : Rules) : Prop :=
  ∀ past w c, c.isLookup = true → allowed past w c

/-- What is wanted of a program that looks things up and fails or comes to new work. -/
abbrev comesToWork (past : List Event) : Goal (Except TaskError Work) :=
  Action.endsIn (fun past' _ w => LooksOnly past past' ∧ NewWork past' w)
    fun past' _ _ => LooksOnly past past'

/-- New entries, and then work that consists of them. -/
theorem obeys_newEntries_bind (ha : AllowsLookups allowed) (wanted : List (SensorId × String))
    (dateFrom dateTo : Option Instant) (group : Option GroupId) {past past' : List Event}
    (h : LooksOnly past past') (w : World) :
    (newEntries wanted >>= fun data =>
      (pure (.fetch ⟨data, dateFrom, dateTo, group⟩) : Action TaskError Work)).run.Obeys R allowed
        (comesToWork past) past' w := by
  intro v _ _
  refine ⟨ha _ _ _ rfl, fun _ _ u _ _ => ?_⟩
  refine ⟨h.trans (LooksOnly.single rfl _), fun f hf => ?_⟩
  cases hf
  exact newEntries_entries past' _ wanted

theorem obeys_fetchWork (ha : AllowsLookups allowed) (r : FetchRequest) (past : List Event)
    (w : World) : (fetchWork r).run.Obeys R allowed (comesToWork past) past w := by
  unfold fetchWork
  split
  · exact fun _ _ _ => .refl past
  · split
    · rename_i e _ _ _
      rw [fetchGroup, Action.run_perform_bind]
      intro v _ _
      refine ⟨ha _ _ _ rfl, fun _ _ => ?_⟩
      have h₁ : LooksOnly past (past ++ [⟨.findGroup e.id, v.ledger.group? e.id⟩]) :=
        LooksOnly.single rfl _
      refine (Action.reads_orFail (Q := fun _ => True) fun _ _ => trivial).obeys_bind ha
        (fun g p₂ v₂ _ h₂ _ => ?_) fun _ _ _ h _ => h₁.trans h
      exact obeys_newEntries_bind ha _ _ _ _ (h₁.trans h₂) v₂
    · rw [fetchSensors, Action.run_perform_bind]
      intro v _ _
      refine ⟨ha _ _ _ rfl, fun _ _ => ?_⟩
      let ids := r.entities.map (·.id)
      have h₁ : LooksOnly past (past ++ [⟨.findSensors ids, v.ledger.sensorsOf ids⟩]) :=
        LooksOnly.single rfl _
      dsimp only
      split
      · exact fun _ _ _ => h₁
      · exact obeys_newEntries_bind ha _ _ _ _ h₁ _

theorem reads_findUploadFile (id : FileId) :
    (findUploadFile id).Reads fun _ => True := by
  refine Action.reads_perform_bind rfl fun found => ?_
  refine (Action.reads_orFail (Q := fun _ => True) fun _ _ => trivial).bind fun f _ => ?_
  refine Action.Reads.bind (Q := fun _ => True) ?_ fun sensors _ => ?_
  · unfold sensorsOf
    split
    · exact Action.reads_pure trivial
    · exact ⟨rfl, fun _ => trivial⟩
  · refine Action.Reads.mapError ?_ _
    unfold Action.ofExcept
    cases uploadFile f sensors <;> exact trivial

theorem reads_findUploadFiles (ids : List FileId) :
    (findUploadFiles ids).Reads fun _ => True := by
  induction ids with
  | nil => exact Action.reads_pure trivial
  | cons id ids ih =>
    exact (reads_findUploadFile id).bind fun f _ => ih.bind fun fs _ => Action.reads_pure trivial

/-- Files are uploaded to the platform of the request, which has a name. -/
theorem reads_uploadWork (r : UploadRequest) :
    (uploadWork r).Reads fun w => Text.isBlankText r.platform.identifier = false ∧
      ∃ files, w = .upload ⟨files, r.platform⟩ := by
  unfold uploadWork
  split
  · exact Action.reads_throw _
  · split
    · exact Action.reads_throw _
    · rename_i hplatform
      exact (reads_findUploadFiles _).bind fun files _ =>
        Action.reads_pure ⟨Bool.eq_false_iff.2 hplatform, files, rfl⟩

theorem obeys_work (ha : AllowsLookups allowed) (r : RequestedWork) (past : List Event)
    (w : World) : (work r).run.Obeys R allowed (comesToWork past) past w := by
  cases r with
  | fetch r => exact obeys_fetchWork ha r past w
  | upload r =>
    refine ((reads_uploadWork r).obeys ha past w).mono (fun _ _ _ _ h => h)
      fun past' v res _ h => ?_
    cases res with
    | ok work =>
      obtain ⟨⟨-, files, rfl⟩, hlook⟩ := h
      exact ⟨hlook, fun f hf => (by cases hf)⟩
    | error e => exact h
  | sync => exact fun _ _ _ => ⟨.refl past, fun f hf => (by cases hf)⟩

/-! ### Tasks -/

/-- A recurrence that passes is a schedule. -/
theorem reads_checkRecurrence (r : TaskRequest) :
    (checkRecurrence r).Reads fun _ => ∀ rec ∈ r.recurrence, ∃ p, rec.schedule = .ok p := by
  unfold checkRecurrence
  split
  · exact Action.reads_throw _
  · rename_i hnot
    refine Action.reads_pure fun rec hrec => ?_
    cases hp : rec.schedule with
    | ok p => exact ⟨p, rfl⟩
    | error e => exact absurd (by rw [hrec, Option.map_some, hp]) (hnot e)

theorem reads_firstRun (r : TaskRequest) : (firstRun r).Reads fun _ => True := by
  unfold firstRun
  split
  · exact Action.reads_pure trivial
  · exact ⟨rfl, fun _ => trivial⟩

theorem givenName_not_blank {r : TaskRequest} {name : String} (h : r.givenName = some name) :
    Text.isBlankText name = false := by
  unfold TaskRequest.givenName at h
  split at h
  · cases h
  · split at h
    · cases h
    · rename_i hempty
      cases h
      rw [Text.isBlankText_trim, ← Text.trim_isEmpty]
      exact Bool.eq_false_iff.2 hempty

theorem defaultName_not_blank (type : TaskType) (firstRunAt : Instant) (code : String) :
    Text.isBlankText (TaskRequest.defaultName type firstRunAt code) = false :=
  Text.isBlankText_eq_false.2 ⟨'-', by simp [TaskRequest.defaultName], by decide⟩

/-- The name is the one that the request gives, if it gives one, and never blank. -/
theorem reads_resolveName (r : TaskRequest) (firstRunAt : Instant) :
    (resolveName r firstRunAt : Action TaskError String).Reads fun name =>
      (∀ given, r.givenName = some given → name = given) ∧ Text.isBlankText name = false := by
  unfold resolveName
  split
  · rename_i name hname
    refine Action.reads_pure ⟨fun given hgiven => ?_, givenName_not_blank hname⟩
    rw [hname] at hgiven
    exact Option.some.inj hgiven
  · rename_i hname
    refine Action.reads_perform_bind rfl fun n => Action.reads_pure ⟨fun given hgiven => ?_,
      defaultName_not_blank _ _ _⟩
    rw [hname] at hgiven
    cases hgiven

/-- A task that was built and is not stored yet: its id is owned and its entries are new. -/
structure NewTask (past : List Event) (t : Task) : Prop where
  id : ∃ n, Owns past n ∧ t.id = FreshId.text n
  entries : NewEntries past t.entries

theorem NewTask.looksOnly {past past' : List Event} {t : Task} (h : NewTask past t)
    (hpast : LooksOnly past past') : NewTask past' t where
  id := by
    obtain ⟨n, hn, hid⟩ := h.id
    exact ⟨n, hpast.owns hn, hid⟩
  entries := h.entries.looksOnly hpast

theorem NewTask.ownsNewId {past : List Event} {t : Task} (h : NewTask past t) :
    OwnsNewId past (.createTask t) := by
  intro id hid
  rw [Command.newId?, Option.some.injEq] at hid
  exact hid ▸ h.id

/-- A task that is built is new and has the name that was given. -/
theorem obeys_build (ha : AllowsLookups allowed) (user : UserId) (r : TaskRequest)
    (past : List Event) (w : World) :
    (build user r).run.Obeys R allowed (Action.endsIn
      (fun past' _ t => LooksOnly past past' ∧
        (∀ given, r.givenName = some given → t.name = given) ∧ NewTask past' t)
      fun past' _ _ => LooksOnly past past') past w := by
  unfold build
  refine (reads_checkRecurrence r).obeys_bind ha (fun _ p₁ v₁ _ h₁ _ => ?_) fun _ _ _ h _ => h
  refine (reads_firstRun r).obeys_bind ha (fun firstRunAt p₂ v₂ _ h₂ _ => ?_)
    fun _ _ _ h _ => h₁.trans h
  refine (reads_resolveName r firstRunAt).obeys_bind ha (fun name p₃ v₃ hname h₃ _ => ?_)
    fun _ _ _ h _ => h₁.trans (h₂.trans h)
  have h := h₁.trans (h₂.trans h₃)
  refine Action.obeys_bind ((obeys_work ha r.work p₃ v₃).mono (fun _ _ _ _ h => h)
    fun p₄ v₄ res _ hres => ?_)
  cases res with
  | error e => exact fun _ _ _ => h.trans hres
  | ok work =>
    obtain ⟨h₄, hwork⟩ := hres
    intro u hu _
    refine ⟨ha _ _ _ rfl, fun hu' _ x hx _ => ?_⟩
    refine ⟨ha _ _ _ rfl, fun hx' _ y hy _ => ?_⟩
    have h₅ : LooksOnly p₄ (p₄ ++ [⟨.now, u.clock⟩] ++ [⟨.reserve 1, x.nextNumber⟩]) :=
      (LooksOnly.single rfl _).trans (LooksOnly.single rfl _)
    refine ⟨h.trans (h₄.trans h₅), hname.1, ⟨x.nextNumber, owns_reserved _ _, rfl⟩, ?_⟩
    cases work with
    | fetch f => exact (hwork f rfl).looksOnly h₅
    | upload f => exact .nil _
    | sync => exact .nil _

/-- Storing a task is one command, whose answer decides. -/
theorem obeys_store {t : Task} {past : List Event} {w : World}
    (ha : ∀ v, R.holds v → allowed past v (.createTask t)) :
    (store t).run.Obeys R allowed (Action.endsIn
      (fun past' _ _ => past' = past ++ [⟨.createTask t, .ok ()⟩])
      fun past' _ _ => ∃ e, past' = past ++ [⟨.createTask t, .error e⟩]) past w := by
  have hprogram : (store t).run = .call (.createTask t) fun
      | .ok () => .done (.ok ())
      | .error e => .done (.error (storeError e)) :=
    congrArg (Program.call (.createTask t)) (funext fun
      | .ok () => rfl
      | .error _ => rfl)
  rw [hprogram]
  intro v hv _
  refine ⟨ha v hv, fun _ _ => ?_⟩
  cases (Command.run (.createTask t) v).1 with
  | ok u => exact fun _ _ _ => rfl
  | error e => exact fun _ _ _ => ⟨e, rfl⟩

end Creation

end SensorTasks

import SensorTasks.Proofs.Footprint
import SensorTasks.Proofs.Merging

/-!
The rules that everything keeps to which the application can be asked to do: by messages, by calls
of its services and by requests. They say where the tasks in the ledger come from. A task is stored
as it was built, and the entries that replace those of a task are the ones it had when it was looked
up, with results merged in. Whatever else makes a document owns its id, and leaves the tasks as they
are.
-/

namespace SensorTasks

open Message Inbox

/-! ### The rules -/

/-- What is needed of a rely: the worlds are consistent, and no number is given out twice. -/
structure Rely.Orderly (R : Rely) : Prop where
  consistent : ∀ {w}, R.holds w → w.Consistent
  number : ∀ {u v}, R.later u v → u.nextNumber ≤ v.nextNumber

/-- The task was looked up, and stood in the ledger of the world `u` then. -/
structure Seen (R : Rely) (past : List Event) (u : World) (t : Task) : Prop where
  holds : R.holds u
  stored : u.ledger.task? t.id = some t
  event : Event.mk (.findTask t.id) (some t) ∈ past

/-- The entries are those of a task that was looked up, with results merged in that have known
files. The ids of the new entries were given out after that. -/
def Reconciled (R : Rely) (past : List Event) (v : World) (id : TaskId) (data : List FetchEntry) :
    Prop :=
  ∃ u t first rs, t.id = id ∧ Seen R past u t ∧ u.nextNumber ≤ first ∧
    first + rs.length ≤ v.nextNumber ∧ (∀ r ∈ rs, ∀ f, r.fileId = some f → v.Old f) ∧
    data = (mergeResults t.entries (fun i => FreshId.text (first + i)) rs).entries

theorem Reconciled.later {R : Rely} {past : List Event} {v w : World} {id : TaskId}
    {data : List FetchEntry} (h : Reconciled R past v id data) (hR : R.Orderly)
    (hvw : R.later v w) : Reconciled R past w id data := by
  obtain ⟨u, t, first, rs, hid, ht, hfirst, hlast, hfiles, hdata⟩ := h
  have hn := hR.number hvw
  exact ⟨u, t, first, rs, hid, ht, hfirst, Nat.le_trans hlast hn,
    fun r hr f hf => (hfiles r hr f hf).mono hn, hdata⟩

/-- What an operation that has done `past` may do in the world `v`. -/
inductive MayDo (R : Rely) (past : List Event) (v : World) : Command → Prop where
  | createTask {t : Task} (h : Creation.NewTask past t) : MayDo R past v (.createTask t)
  | updateTask {id : TaskId} {p : TaskPatch}
    (h : ∀ data, p.fetchEntries = some data → Reconciled R past v id data) :
    MayDo R past v (.updateTask id p)
  | setModes (ids : List TaskId) (mode : TaskMode) : MayDo R past v (.setModes ids mode)
  | other {c : Command} (hk : c.keepsTasks = true) (hown : OwnsNewId past c) : MayDo R past v c

variable {R : Rely} {past : List Event} {u v w : World} {c : Command}

theorem MayDo.lookup (h : c.isLookup = true) : MayDo R past v c :=
  .other (Command.keepsTasks_of_isLookup h) (ownsNewId_of_none (Command.newId?_of_isLookup h))

theorem MayDo.ownsNewId (h : MayDo R past v c) : OwnsNewId past c := by
  cases h with
  | createTask h => exact h.ownsNewId
  | updateTask h => exact ownsNewId_of_none rfl
  | setModes ids mode => exact ownsNewId_of_none rfl
  | other hk hown => exact hown

/-- Where the files in the entries come from that replace others. -/
theorem Reconciled.file_old {id : TaskId} {data : List FetchEntry} (h : Reconciled R past v id data)
    (hR : R.Orderly) {e : FetchEntry} (he : e ∈ data) {f : FileId} (hf : e.fileId = some f) :
    v.Old f := by
  obtain ⟨u, t, first, rs, -, ht, hfirst, hlast, hfiles, rfl⟩ := h
  rcases Merge.file_of_mem_mergeResults he hf with ⟨a, ha, hfa⟩ | ⟨r, hr, hfr⟩
  · refine ((hR.consistent ht.holds).entry_old ht.stored ha hfa).mono (Nat.le_trans hfirst ?_)
    exact Nat.le_trans (Nat.le_add_right first _) hlast
  · exact hfiles r hr f hfr

/-- Commands that the rules allow bring no id that is still to be given out. -/
theorem MayDo.fresh (h : MayDo R past w c) (hR : R.Orderly) (hfree : Thread.NewIdFree w c) :
    c.Fresh w := by
  cases h with
  | createTask h =>
    obtain ⟨hunused, hold⟩ := hfree _ rfl
    refine ⟨hunused.task, hold, fun e he f hf => ?_⟩
    rw [h.entries.fileId e he] at hf
    cases hf
  | updateTask h => exact fun data hdata e he f hf => (h data hdata).file_old hR he hf
  | setModes ids mode => trivial
  | other hk hown =>
    cases c with
    | createSensor s =>
      obtain ⟨hunused, hold⟩ := hfree s.id rfl
      exact ⟨hunused.sensor, hold⟩
    | createGroup g =>
      obtain ⟨hunused, hold⟩ := hfree g.id rfl
      exact ⟨hunused.group, hold⟩
    | createTask t => cases hk
    | updateTask id p => cases hk
    | _ => trivial

/-- A call that creates a task and announces it keeps to the rules. -/
theorem mayDo_of_mayAnnounce {o : Outbox} (h : mayAnnounce o past v c) : MayDo R past v c := by
  rcases h with h | ⟨t, rfl, -, h⟩ | ⟨t, j, answer, rest, -, hne, h⟩
  · exact .lookup h
  · exact .createTask h
  · rcases Scheduling.counts_or_publishes hne h with ⟨counter, rfl⟩ |
      ⟨exchange, key, payload, rfl⟩ <;> exact .other rfl (ownsNewId_of_none rfl)

namespace Action

variable {ε ε' α β : Type}

/-- Starting after `past` in the world `w`, the action keeps to the rules. -/
def CompliesAt (R : Rely) (a : Action ε α) (past : List Event) (w : World) : Prop :=
  a.run.Obeys R (MayDo R) (fun _ _ _ => True) past w

/-- Wherever it begins, the action keeps to the rules. -/
def Complies (R : Rely) (a : Action ε α) : Prop := ∀ past w, a.CompliesAt R past w

namespace CompliesAt

theorem pure (x : α) : (Pure.pure x : Action ε α).CompliesAt R past w := fun _ _ _ => trivial

theorem throw (e : ε) : (MonadExcept.throw e : Action ε α).CompliesAt R past w :=
  fun _ _ _ => trivial

theorem of_bind {a : Action ε α} {f : α → Action ε β}
    (h : a.run.Obeys R (MayDo R) (endsIn (fun past v x => (f x).CompliesAt R past v)
      fun _ _ _ => True) past w) : (a >>= f).CompliesAt R past w := by
  unfold CompliesAt
  rw [run_bind]
  refine Program.Obeys.bind (Program.Obeys.mono h (fun _ _ _ _ h => h) fun past' v r _ hr => ?_)
  cases r with
  | ok x => exact hr
  | error e => exact fun _ _ _ => trivial

theorem bind {a : Action ε α} {f : α → Action ε β} (h : a.CompliesAt R past w)
    (hf : ∀ x, (f x).Complies R) : (a >>= f).CompliesAt R past w := by
  refine of_bind (Program.Obeys.mono h (fun _ _ _ _ h => h) fun past' v r _ _ => ?_)
  cases r with
  | ok x => exact hf x past' v
  | error e => trivial

theorem lift {p : Program α} (h : p.Obeys R (MayDo R) (fun _ _ _ => True) past w) :
    Action.CompliesAt R (ExceptT.lift p : Action ε α) past w :=
  Program.Obeys.bind (f := fun x => Program.done (Except.ok x))
    (h.mono (fun _ _ _ _ h => h) fun _ _ _ _ _ _ _ _ => trivial)

theorem mapError {a : Action ε α} (h : a.CompliesAt R past w) (f : ε → ε') :
    (a.mapError f).CompliesAt R past w := by
  unfold CompliesAt
  rw [run_mapError]
  refine Program.Obeys.bind (Program.Obeys.mono h (fun _ _ _ _ h => h) fun past' v r _ _ => ?_)
  cases r <;> exact fun _ _ _ => trivial

theorem lookup_bind {c : Command} {f : c.Answer → Action ε α} (hc : c.isLookup = true)
    (hf : ∀ v, R.holds v → R.later w v → R.later v (c.run v).2 →
      (f (c.run v).1).CompliesAt R (past ++ [⟨c, (c.run v).1⟩]) (c.run v).2) :
    (Action.perform c >>= f).CompliesAt R past w :=
  fun v hv hwv => ⟨.lookup hc, fun _ hl => hf v hv hwv hl⟩

theorem updateTask {id : TaskId} {p : TaskPatch}
    (h : ∀ v, R.later w v → ∀ data, p.fetchEntries = some data → Reconciled R past v id data) :
    (Action.updateTask id p).CompliesAt R past w :=
  fun v _ hwv => ⟨.updateTask (h v hwv), fun _ _ _ _ _ => trivial⟩

end CompliesAt

namespace Complies

theorem pure (x : α) : (Pure.pure x : Action ε α).Complies R := fun _ _ => .pure x

theorem throw (e : ε) : (MonadExcept.throw e : Action ε α).Complies R := fun _ _ => .throw e

theorem orFail (e : ε) (o : Option α) : (Action.orFail e o).Complies R := by
  cases o with
  | none => exact throw e
  | some a => exact pure a

theorem bind {a : Action ε α} {f : α → Action ε β} (h : a.Complies R)
    (hf : ∀ x, (f x).Complies R) : (a >>= f).Complies R :=
  fun past w => (h past w).bind hf

theorem mapError {a : Action ε α} (h : a.Complies R) (f : ε → ε') : (a.mapError f).Complies R :=
  fun past w => (h past w).mapError f

theorem perform_bind {c : Command} {f : c.Answer → Action ε α} (hk : c.keepsTasks = true)
    (hid : c.newId? = none) (hf : ∀ answer, (f answer).Complies R) :
    (Action.perform c >>= f).Complies R :=
  fun _ _ _ _ _ => ⟨.other hk (ownsNewId_of_none hid), fun _ _ => hf _ _ _⟩

/-- What makes no documents and leaves the tasks as they are keeps to the rules. -/
theorem of_uses {a : Action ε α} {Q : α → Prop} (h : a.Uses (·.serves = true) Q) :
    a.Complies R := by
  intro past w
  refine (Program.Uses.obeys h (fun _ _ _ hc => ?_) past w).mono (fun _ _ _ _ h => h)
    fun _ _ _ _ _ => trivial
  exact .other (Command.keepsTasks_of_serves hc) (ownsNewId_of_none (Command.newId?_of_serves hc))

/-- A new id, and a document that gets it. -/
theorem freshId_bind {c : String → Command} {f : (id : String) → (c id).Answer → Action ε α}
    (hk : ∀ id, (c id).keepsTasks = true) (hid : ∀ id, (c id).newId? = some id)
    (hf : ∀ id answer, (f id answer).Complies R) :
    (freshId >>= fun id => Action.perform (c id) >>= f id).Complies R := by
  intro past w v _ _
  refine ⟨.lookup rfl, fun _ _ x _ _ => ⟨.other (hk _) fun id h => ?_, fun _ _ => hf _ _ _ _⟩⟩
  rw [hid, Option.some.injEq] at h
  exact ⟨v.nextNumber, owns_reserved past v.nextNumber, h.symm⟩

end Complies

end Action

/-! ### Taking over objects -/

namespace Inbox.Synchronization

theorem complies_syncSensor (sum : Summary) (s : SensorObject) :
    (syncSensor sum s).Complies R := by
  unfold syncSensor
  cases s.valueFragmentType with
  | none => exact .pure _
  | some fragmentType =>
    refine .perform_bind rfl rfl fun known => ?_
    cases known with
    | some sensor => exact .pure _
    | none =>
      refine .freshId_bind (fun _ => rfl) (fun _ => rfl) fun id created => ?_
      cases created with
      | ok u => exact .pure _
      | error e =>
        cases e with
        | duplicateKey collection key => exact .perform_bind rfl rfl fun other => .pure _
        | _ => exact .throw _

theorem complies_syncSensors (sum : Summary) (sensors : List SensorObject) :
    (syncSensors sum sensors).Complies R := by
  induction sensors generalizing sum with
  | nil => exact .pure _
  | cons s rest ih =>
    exact (complies_syncSensor sum s).bind fun r => (ih r.2).bind fun _ => .pure _

theorem complies_addMembers (id : GroupId) (sensors : List SensorId) (groups : List GroupId) :
    ((Action.addMembers id sensors groups).mapError HandlerError.ledger).Complies R := by
  have h : (Action.addMembers id sensors groups).Complies R := fun _ _ _ _ _ =>
    ⟨.other rfl (ownsNewId_of_none rfl), fun _ _ _ _ _ => trivial⟩
  exact h.mapError _

theorem complies_settleGroup (sum : Summary) (object name : String) (sensors : List SensorId)
    (groups : List GroupId) : (settleGroup sum object name sensors groups).Complies R := by
  unfold settleGroup
  refine .perform_bind rfl rfl fun known => ?_
  cases known with
  | some group => exact (complies_addMembers _ _ _).bind fun _ => .pure _
  | none =>
    refine .freshId_bind (fun _ => rfl) (fun _ => rfl) fun id created => ?_
    cases created with
    | ok u => exact .pure _
    | error e =>
      cases e with
      | duplicateKey collection key =>
        refine .perform_bind rfl rfl fun other => (Action.Complies.orFail _ _).bind fun g => ?_
        exact (complies_addMembers _ _ _).bind fun _ => .pure _
      | _ => exact .throw _

mutual

theorem complies_syncGroup : (sum : Summary) → (g : GroupObject) → (syncGroup sum g).Complies R
  | sum, .mk object name sensors groups => by
    unfold syncGroup
    refine (complies_syncSensors sum sensors).bind fun r => ?_
    exact (complies_syncGroups r.2 groups).bind fun r' => complies_settleGroup _ _ _ _ _

theorem complies_syncGroups : (sum : Summary) → (gs : List GroupObject) →
    (syncGroups sum gs).Complies R
  | sum, [] => .pure _
  | sum, g :: rest => by
    unfold syncGroups
    refine (complies_syncGroup sum g).bind fun r => ?_
    exact (complies_syncGroups r.2 rest).bind fun _ => .pure _

end

theorem complies_sync (objects : List ManagedObject) : (sync objects).Complies R := by
  unfold sync
  generalize Summary.zero = sum
  induction objects generalizing sum with
  | nil => exact .pure _
  | cons o rest ih =>
    refine Action.Complies.bind ?_ fun sum => ih sum
    cases o with
    | sensor s => exact (complies_syncSensor sum s).bind fun _ => .pure _
    | group g => exact (complies_syncGroup sum g).bind fun _ => .pure _

end Inbox.Synchronization

/-! ### Applying reports -/

namespace Inbox.Report

variable {t : Task}

/-- The file for a result is known, or has just got a new id. -/
theorem fileFor_ensures (hR : R.Orderly) {e : Event} (he : e ∈ past) (t : Task) (s : Sensor)
    (r : FetchResult) (w : World) :
    (fileFor t s r).Ensures R (MayDo R) (fun past' v f => e ∈ past' ∧ v.Old f.id) past w := by
  unfold fileFor
  refine Action.Ensures.perform fun v hv _ => ⟨.lookup rfl, fun hv' _ => ?_⟩
  simp only [Command.run]
  cases hf : v.ledger.fileOf? t.id s.id r.fileName with
  | some f =>
    refine Action.Ensures.pure fun x _ hx => ⟨List.mem_append_left _ he, ?_⟩
    have hstored := (hR.consistent hv).indexed.file?_of_fileOf? hf
    exact ((hR.consistent hv).old.files _ f hstored).mono (hR.number hx)
  | none =>
    intro x hx _
    refine ⟨.other rfl (ownsNewId_of_none rfl), fun _ _ y _ hy => ?_⟩
    refine ⟨List.mem_append_left _ (List.mem_append_left _ he), ?_⟩
    exact (World.old_text (Nat.lt_succ_self x.nextNumber)).mono (hR.number hy)

theorem resolve_ensures (hR : R.Orderly) {e : Event} (he : e ∈ past) (t : Task) (r : FetchResult)
    (w : World) :
    (resolve t r).Ensures R (MayDo R)
      (fun past' v a => e ∈ past' ∧ ∀ f, a.fileId = some f → v.Old f) past w := by
  unfold resolve
  refine Action.Ensures.perform fun v hv _ => ⟨.lookup rfl, fun hv' _ => ?_⟩
  simp only [Command.run]
  cases v.ledger.sensor? r.sensorId with
  | none =>
    exact Action.Ensures.pure fun x _ _ => ⟨List.mem_append_left _ he, fun f hf => (by cases hf)⟩
  | some s =>
    refine (fileFor_ensures hR (List.mem_append_left _ he) t s r v).bind fun f p x _ _ hf => ?_
    refine Action.Ensures.pure fun y _ hxy => ⟨hf.1, fun g hg => ?_⟩
    obtain rfl := Option.some.inj hg
    exact hf.2.mono (hR.number hxy)

theorem resolveAll_ensures (hR : R.Orderly) {e : Event} (he : e ∈ past) (t : Task)
    (results : List FetchResult) (w : World) :
    (resolveAll t results).Ensures R (MayDo R)
      (fun past' v rs => e ∈ past' ∧ ∀ a ∈ rs, ∀ f, a.fileId = some f → v.Old f) past w := by
  induction results generalizing past w with
  | nil => exact Action.Ensures.pure fun v _ _ => ⟨he, by simp⟩
  | cons r results ih =>
    unfold resolveAll
    refine (resolve_ensures hR he t r w).bind fun a p v _ _ ha => ?_
    refine (ih ha.1 v).bind fun rs p' x _ hvx hrs => ?_
    refine Action.Ensures.pure fun y _ hxy => ⟨hrs.1, fun b hb f hf => ?_⟩
    have hxy := hR.number hxy
    rcases List.mem_cons.1 hb with rfl | hb
    · exact (ha.2 f hf).mono (Nat.le_trans (hR.number hvx) hxy)
    · exact (hrs.2 b hb f hf).mono hxy

theorem reconcile_ensures (hR : R.Orderly) (ht : Seen R past u t) (huw : R.later u w)
    (results : List FetchResult) :
    (reconcile t results).Ensures R (MayDo R)
      (fun past' v o => ∀ data, o = some data → Reconciled R past' v t.id data) past w := by
  unfold reconcile
  refine (resolveAll_ensures hR ht.event t results w).bind fun rs p v _ hwv hrs => ?_
  refine Action.Ensures.perform fun x _ hvx => ⟨.lookup rfl, fun _ _ => ?_⟩
  refine Action.Ensures.pure fun y _ hxy data hdata => ?_
  have hnumber := hR.number hxy
  refine ⟨u, t, x.nextNumber, rs, rfl, ⟨ht.holds, ht.stored, List.mem_append_left _ hrs.1⟩,
    hR.number (R.trans huw (R.trans hwv hvx)), hnumber, fun a ha f hf => ?_, ?_⟩
  · refine (hrs.2 a ha f hf).mono (Nat.le_trans (hR.number hvx) (Nat.le_trans ?_ hnumber))
    exact Nat.le_add_right _ _
  · let m := mergeResults t.entries (fun i => FreshId.text (x.nextNumber + i)) rs
    change (if m.changed then some m.entries else none) = some data at hdata
    split at hdata
    · exact (Option.some.inj hdata).symm
    · cases hdata

/-- What is wanted of a patch for a task. -/
abbrev patches (R : Rely) (t : Task) : Goal (Except HandlerError (Option TaskPatch)) :=
  Action.endsIn (fun past v o => ∀ p, o = some p → ∀ data, p.fetchEntries = some data →
    Reconciled R past v t.id data) fun _ _ _ => True

/-- After something that complies, a patch that brings no entries. -/
theorem obeys_patch {α : Type} {a : Action HandlerError α} (ha : a.Complies R) {p : TaskPatch}
    (hp : p.fetchEntries = none) (past : List Event) (w : World) :
    (a >>= fun _ => (pure (some p) : Action HandlerError (Option TaskPatch))).run.Obeys R (MayDo R)
      (patches R t) past w := by
  refine Action.obeys_bind ((ha past w).mono (fun _ _ _ _ h => h) fun past' v r _ _ => ?_)
  cases r with
  | ok x =>
    rintro y - - q hq data hdata
    obtain rfl := Option.some.inj hq
    rw [hp] at hdata
    cases hdata
  | error e => exact fun _ _ _ => trivial

theorem decode_cases {α : Type} (d : Json.Decoder α) (key : RoutingKey) (j : Json) :
    (∃ a, decode d key j = pure a) ∨ ∃ e, decode d key j = throw e := by
  unfold decode
  split
  · exact Or.inl ⟨_, rfl⟩
  · exact Or.inr ⟨_, rfl⟩

theorem complies_decode {α : Type} (d : Json.Decoder α) (key : RoutingKey) (j : Json) :
    (decode d key j).Complies R := by
  rcases decode_cases d key j with ⟨a, h⟩ | ⟨e, h⟩ <;> rw [h]
  · exact .pure a
  · exact .throw e

theorem obeys_applyContent (hR : R.Orderly) (ht : Seen R past u t) (huw : R.later u w)
    {p : TaskPatch} (hp : p.fetchEntries = none) (c : Content) :
    (applyContent t p c).run.Obeys R (MayDo R) (patches R t) past w := by
  cases c with
  | results j =>
    rw [applyContent]
    rcases decode_cases FetchResult.listDecoder .taskStatus j with ⟨results, hj⟩ | ⟨e, hj⟩ <;>
      rw [hj]
    · rw [pure_bind]
      split
      · exact obeys_patch (.pure ()) hp past w
      · refine Action.obeys_bind ((reconcile_ensures hR ht huw results).mono (fun _ _ _ _ h => h)
          fun past' v r _ hr => ?_)
        cases r with
        | ok entries =>
          rintro x - hx q hq data hdata
          obtain rfl := Option.some.inj hq
          exact (hr data hdata).later hR hx
        | error e => exact fun _ _ _ => trivial
    · exact fun _ _ _ => trivial
  | uploaded =>
    exact obeys_patch (.of_uses (uses_exposeUploaded fun _ _ => rfl)) hp past w
  | objects j =>
    have hsync : (decode ManagedObject.listDecoder .taskStatus j >>=
        Synchronization.sync).Complies R :=
      (complies_decode _ _ j).bind Synchronization.complies_sync
    have h := obeys_patch hsync hp past w (t := t)
    rwa [bind_assoc] at h
  | objectAmount j => exact obeys_patch (complies_decode _ _ j) hp past w
  | nothing => exact obeys_patch (.pure ()) hp past w
  | unknown => exact fun _ _ _ _ h => (by cases h)

theorem complies_status (hR : R.Orderly) (m : StatusReport Json) : (status m).Complies R := by
  intro past w
  unfold status
  refine .lookup_bind rfl fun v hv _ _ => ?_
  simp only [Command.run]
  cases ht : v.ledger.task? m.taskId with
  | none => exact .pure none
  | some t =>
    have hid := (hR.consistent hv).indexed.task_id ht
    rw [← hid] at ht ⊢
    dsimp only
    split
    · exact .pure none
    · refine .lookup_bind rfl fun x _ hvx hxy => ?_
      have hseen : Seen R _ v t := ⟨hv, ht, List.mem_append_left [⟨.now, x.clock⟩]
        (List.mem_append_right past (List.mem_singleton_self _))⟩
      refine .of_bind ((obeys_applyContent hR hseen (R.trans hvx hxy)
        (p := basePatch m x.clock) rfl (content m)).mono (fun _ _ _ _ h => h)
        fun past' y r _ hr => ?_)
      cases r with
      | error e => trivial
      | ok patch =>
        cases patch with
        | none => exact fun _ _ _ => trivial
        | some p =>
          have hupdate : (Action.updateTask t.id p).CompliesAt R past' y :=
            .updateTask fun z hyz data hdata => (hr p rfl data hdata).later hR hyz
          show Action.CompliesAt R (some <$> (Action.updateTask t.id p).mapError _) past' y
          rw [map_eq_pure_bind]
          exact (hupdate.mapError _).bind fun t => .pure _

theorem complies_unlessMissing {α : Type} {a : Action Ledger.LedgerError α} (h : a.Complies R) :
    (unlessMissing a).Complies R := by
  intro past w
  unfold unlessMissing
  refine Action.CompliesAt.bind (.lift (h past w)) fun outcome => ?_
  split
  · exact .pure _
  · exact .pure none
  · exact .throw _

theorem complies_failure (f : Failure) : (failure f).Complies R := by
  refine .perform_bind rfl rfl fun now => complies_unlessMissing fun past w => ?_
  exact .updateTask fun v _ data hdata => (by cases hdata)

theorem complies_modeChanged (m : ModeChange) : (modeChanged m).Complies R :=
  fun _ _ _ _ _ => ⟨.setModes _ _, fun _ _ _ _ _ => trivial⟩

end Inbox.Report

theorem Inbox.complies_handle (hR : R.Orderly) (h : Handler) (key : RoutingKey) (j : Json) :
    (h.handle key j).Complies R := by
  unfold Handler.handle
  split
  · exact (Report.complies_decode _ _ _).bind fun m =>
      (Report.complies_failure m).bind fun _ => .pure ()
  · exact (Report.complies_decode _ _ _).bind fun m =>
      (Report.complies_modeChanged m).bind fun _ => .pure ()
  · exact (Report.complies_decode _ _ _).bind fun m =>
      (Action.Complies.of_uses (Report.uses_visibility fun _ _ => rfl)).bind fun _ => .pure ()
  · exact .throw _
  · split
    all_goals
      first
      | exact .throw _
      | exact (Report.complies_decode _ _ _).bind fun m =>
          (Report.complies_status hR m).bind fun _ => .pure ()

theorem Inbox.complies_process (hR : R.Orderly) (r : Registry) (key : RoutingKey)
    (payload : Payload) : (process r key payload).Complies R := by
  unfold process
  split
  · exact .throw _
  · split
    · exact .throw _
    · split
      · exact .throw _
      · exact (complies_handle hR _ _ _).mapError _

/-! ### Services -/

theorem Creation.complies_create (user : UserId) (r : TaskRequest) :
    (create user r).Complies R := by
  intro past w
  refine .of_bind ((obeys_build (fun _ _ _ => .lookup) user r past w).mono (fun _ _ _ _ h => h)
    fun past' v res _ hres => ?_)
  cases res with
  | error e => trivial
  | ok t =>
    have hstore : (store t).CompliesAt R past' v :=
      (obeys_store fun _ _ => .createTask hres.2.2).mono (fun _ _ _ _ h => h)
        fun _ _ _ _ _ => trivial
    exact hstore.bind fun _ => .pure t

namespace Scheduling

theorem complies_createAndSchedule (o : Outbox) (user : UserId) (r : TaskRequest) (w : World) :
    (createAndSchedule o user r).CompliesAt R [] w :=
  (obeys_createAndSchedule o user r w).mono (fun _ _ _ _ => mayDo_of_mayAnnounce)
    fun _ _ _ _ _ => trivial

end Scheduling

/-! ### Requests -/

namespace Http.Service

theorem complies_createTask (s : Service) (r : Request) (w : World) :
    (s.createTask r).CompliesAt R [] w := by
  unfold createTask
  cases r.userId? with
  | none => exact .throw _
  | some user =>
    cases hbody : r.decodeBody s.maxBodyBytes TaskRequest.decoder with
    | error e => exact .throw e
    | ok request =>
      have hcall := Scheduling.complies_createAndSchedule (R := R) s.outbox user request w
      exact (hcall.mapError _).bind fun t => .pure _

theorem complies_perform (s : Service) (r : Request) (endpoint : Endpoint) (w : World) :
    (s.perform r endpoint).CompliesAt R [] w := by
  rcases eq_or_ne endpoint .createTask with rfl | h
  · exact s.complies_createTask r w
  · exact Action.Complies.of_uses (s.uses_perform .serves r h) [] w

theorem obeys_respond (s : Service) (r : Request) (w : World) :
    (s.respond r).Obeys R (MayDo R) (fun _ _ _ => True) [] w := by
  unfold respond
  split
  · exact fun _ _ _ => trivial
  · split
    · exact fun _ _ _ => trivial
    · rename_i endpoint _
      refine Program.Obeys.bind (Program.Obeys.bind ((s.complies_perform r endpoint w).mono
        (fun _ _ _ _ h => h) fun past v res _ _ => ?_))
      cases res <;> exact fun _ _ _ _ _ _ => trivial

end Http.Service

end SensorTasks

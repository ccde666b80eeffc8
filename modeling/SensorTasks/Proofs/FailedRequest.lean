import SensorTasks.Proofs.InFlight

/-!
What a request for a change of visibility leaves behind when it fails. One for a file that is not
stored or is changing already fails before anything is written. One that the outbox refuses has
marked the file, and takes the mark away again; but the mark has also cleared the error that the
file may have had, and this does not come back.
-/

namespace SensorTasks

open Message Ledger

namespace Message.Outbox

/-- Why a document is not sent, if it is not. -/
def refusal? (o : Outbox) (key : RoutingKey) (j : Json) : Option MessagingError :=
  if o.registry.contains key then
    match o.registry.validate key j with
    | .error e => some (.schema e)
    | .ok () => none
  else some (.missingSchema key)

/-- A document is refused or published. -/
theorem send_eq (o : Outbox) (key : RoutingKey) (j : Json) :
    o.send key j =
      match o.refusal? key j with
      | some e => throw e
      | none => publish o.exchange key j := by
  unfold send sendTo refusal?
  split
  · cases o.registry.validate key j <;> rfl
  · rfl

end Message.Outbox

namespace Visibility

variable {o : Outbox} {id : FileId} {published : Bool} {platforms : Option (List Platform)}
  {v w : World} {f : File}

/-! ### How a request ends -/

/-- The world with one file stored anew. -/
def store (w : World) (f : File) : World := { w with ledger := w.ledger.putFile f }

theorem file?_store (w : World) (f : File) (i : FileId) :
    (store w f).ledger.file? i = if i = f.id then some f else w.ledger.file? i :=
  file?_putFile w.ledger f i

/-- The ends of a request, each with the world that it leaves. -/
inductive Ends (o : Outbox) (id : FileId) (published : Bool) (platforms : Option (List Platform))
    (w : World) : Except FileError File × World → Prop where
  | missing (hf : w.ledger.file? id = none) :
    Ends o id published platforms w (.error (.notFound id), w)
  | changing {f : File} (hf : w.ledger.file? id = some f)
    (hmark : f.visibility.stateChanging = true) :
    Ends o id published platforms w (.error (.stateChanging id), w)
  | refused {f g : File} {e : MessagingError} (hf : w.ledger.file? id = some f)
    (hmark : f.visibility.stateChanging = false) (hg : g = beginChange.apply w.clock f)
    (he : o.refusal? .fileStatusVisibilityState (request g published platforms).toJson = some e) :
    Ends o id published platforms w
      (.error (.messaging e), store (store w g) (endChange.apply w.clock g))
  | sent {f g : File} (hf : w.ledger.file? id = some f)
    (hmark : f.visibility.stateChanging = false) (hg : g = beginChange.apply w.clock f)
    (he : o.refusal? .fileStatusVisibilityState (request g published platforms).toJson = none) :
    Ends o id published platforms w
      (.ok g, ((publish o.exchange .fileStatusVisibilityState
        (request g published platforms).toJson : Action FileError Unit).run.run (store w g)).2)

/-- A patch of a file that is stored, and what comes then. -/
theorem run_updateFile_bind {α : Type} (hf : w.ledger.file? id = some f) (p : FilePatch)
    (next : File → Action FileError α) :
    ((Action.updateFile id p).mapError FileError.ledger >>= next).run.run w =
      (next (p.apply w.clock f)).run.run (store w (p.apply w.clock f)) := by
  have hupdate : (Action.updateFile id p).run.run w =
      (.ok (p.apply w.clock f), store w (p.apply w.clock f)) :=
    Command.run_updateFile hf p
  rw [Action.run_bind, Action.run_mapError, Program.run_bind, Program.run_bind, hupdate]
  rfl

/-- What is sent is refused, or published. -/
theorem run_lift_send_bind {α : Type} (o : Outbox) (key : RoutingKey) (j : Json)
    (next : Except MessagingError Unit → Action FileError α) (w : World) :
    (ExceptT.lift (o.send key j).run >>= next).run.run w =
      match o.refusal? key j with
      | some e => (next (.error e)).run.run w
      | none => (next (.ok ())).run.run
          ((publish o.exchange key j : Action FileError Unit).run.run w).2 := by
  rw [o.send_eq]
  cases o.refusal? key j <;> rfl

theorem requestChange_ends (hid : ∀ {i f}, w.ledger.file? i = some f → f.id = i) (o : Outbox)
    (id : FileId) (published : Bool) (platforms : Option (List Platform)) :
    Ends o id published platforms w ((requestChange o id published platforms).run.run w) := by
  unfold requestChange find
  rw [bind_assoc, Action.run_perform_bind, Program.run_call]
  have hfind : (Command.findFile id).run w = (w.ledger.file? id, w) := rfl
  rw [hfind]
  cases hf : w.ledger.file? id with
  | none => exact .missing hf
  | some f =>
    rw [Action.orFail, pure_bind]
    cases hmark : f.visibility.stateChanging with
    | true => exact .changing hf hmark
    | false =>
      have hg : (store w (beginChange.apply w.clock f)).ledger.file? id =
          some (beginChange.apply w.clock f) :=
        (file?_store w _ id).trans (if_pos (hid hf).symm)
      simp only [Bool.false_eq_true, ↓reduceIte, run_updateFile_bind hf, run_lift_send_bind]
      split
      · rename_i e he
        rw [release, run_updateFile_bind hg]
        exact .refused hf hmark rfl he
      · rename_i he
        exact .sent hf hmark rfl he

/-! ### Requests that fail -/

/-- The file after a request that has failed: its error is gone if it was not changing. -/
def afterFailure (now : Instant) (f : File) : File :=
  if f.visibility.stateChanging then f
  else { f with visibility := { f.visibility with errorMessage := none }, updatedAt := now }

/-- Taking the mark away again does not bring the error back. -/
theorem endChange_beginChange (now : Instant) (hmark : f.visibility.stateChanging = false) :
    endChange.apply now (beginChange.apply now f) = afterFailure now f := by
  simp [endChange, beginChange, FilePatch.apply, afterFailure, hmark]

/-- The files after a request for one of them that has failed. -/
def LeftBy (id : FileId) (w v : World) : Prop :=
  ∀ i, v.ledger.file? i =
    if i = id then (w.ledger.file? id).map (afterFailure w.clock) else w.ledger.file? i

/-- Nothing is changed if the file is not there, or is changing already. -/
theorem leftBy_self (h : ∀ f, w.ledger.file? id = some f → f.visibility.stateChanging = true) :
    LeftBy id w w := by
  intro i
  split
  · rename_i hi
    rw [hi]
    cases hf : w.ledger.file? id with
    | none => rfl
    | some f => rw [Option.map_some, afterFailure, if_pos (h f hf)]
  · rfl

theorem Ends.leftBy (hid : ∀ {i f}, w.ledger.file? i = some f → f.id = i) {e : FileError}
    (h : Ends o id published platforms w (.error e, v)) : LeftBy id w v := by
  cases h with
  | missing hf => exact leftBy_self fun f hf' => by cases hf.symm.trans hf'
  | changing hf hmark => exact leftBy_self fun g hg => Option.some.inj (hf.symm.trans hg) ▸ hmark
  | @refused f g e hf hmark hg he =>
    intro i
    have hstored : f.id = id := hid hf
    have hmarked : g.id = id := by
      rw [hg]
      exact hstored
    have hreleased : (endChange.apply w.clock g).id = id := hmarked
    rw [file?_store, file?_store, hreleased, hmarked, hf, Option.map_some, hg,
      endChange_beginChange w.clock hmark]
    split <;> rfl

/-- The files are all there, stored and visible as before. -/
def Restored (w v : World) : Prop :=
  ∀ i f, w.ledger.file? i = some f →
    ∃ g, v.ledger.file? i = some g ∧ g.storage = f.storage ∧ g.visibility = f.visibility

theorem LeftBy.restored_iff (h : LeftBy id w v) :
    Restored w v ↔ ∀ f, w.ledger.file? id = some f → f.visibility.stateChanging = true ∨
      f.visibility.errorMessage = none := by
  constructor
  · intro hrestored f hf
    obtain ⟨g, hg, -, hvisible⟩ := hrestored id f hf
    rw [h, if_pos rfl, hf, Option.map_some, Option.some.injEq] at hg
    subst hg
    unfold afterFailure at hvisible
    split at hvisible
    · exact Or.inl ‹_›
    · exact Or.inr (congrArg Visibility.errorMessage hvisible).symm
  · intro hclear i f hf
    rw [h]
    split
    · rename_i hi
      subst hi
      rw [hf]
      refine ⟨_, rfl, ?_⟩
      unfold afterFailure
      split
      · exact ⟨rfl, rfl⟩
      · rename_i hmark
        have hnone := (hclear f hf).resolve_left hmark
        exact ⟨rfl, by rw [← hnone]⟩
    · exact ⟨f, hf, rfl, rfl⟩

/-- A request that fails leaves all files as they were, but for the error of a file that was not
changing. So it leaves everything as it was just if there was no such error. -/
theorem failed_request_restores_iff (hid : ∀ {i f}, w.ledger.file? i = some f → f.id = i)
    {e : FileError}
    (h : (requestChange o id published platforms).run.run w = (.error e, v)) :
    LeftBy id w v ∧
      (Restored w v ↔ ∀ f, w.ledger.file? id = some f → f.visibility.stateChanging = true ∨
        f.visibility.errorMessage = none) := by
  have hends := requestChange_ends hid o id published platforms
  rw [h] at hends
  exact ⟨hends.leftBy hid, (hends.leftBy hid).restored_iff⟩

namespace Sample

/-- An outbox without schemas, which refuses every message. -/
def mute : Outbox := ⟨.empty, "General"⟩

/-- An earlier request has failed with this error. -/
def troubled : World :=
  ((Command.updateFile file { errorMessage := some (some "timeout") }).run world).2

end Sample

/-- An error that is there does not survive a request that is refused. -/
theorem error_lost :
    ∃ v, Sample.troubled.Consistent ∧
      (requestChange Sample.mute Sample.file true none).run.run Sample.troubled =
        (.error (.messaging (.missingSchema .fileStatusVisibilityState)), v) ∧
      (Sample.troubled.ledger.file? Sample.file).map (·.visibility.errorMessage) =
        some (some "timeout") ∧
      (v.ledger.file? Sample.file).map (·.visibility.errorMessage) = some none ∧
      ¬Restored Sample.troubled v := by
  have hconsistent : Sample.troubled.Consistent :=
    Sample.world_consistent.run (c := .updateFile _ _) trivial
  refine ⟨_, hconsistent, rfl, rfl, rfl, fun h => ?_⟩
  obtain ⟨g, hg, -, hvisible⟩ := h Sample.file _ rfl
  cases hg
  exact absurd (congrArg Visibility.errorMessage hvisible) (by decide)

/-- A request that is refused leaves a file as it was that has no error. -/
theorem restored_without_error :
    ∃ e v, (requestChange Sample.mute Sample.file true none).run.run Sample.world = (.error e, v) ∧
      Restored Sample.world v := by
  obtain ⟨e, v, hrun⟩ : ∃ e v,
      (requestChange Sample.mute Sample.file true none).run.run Sample.world = (.error e, v) :=
    ⟨_, _, rfl⟩
  have hfile : (Sample.world.ledger.file? Sample.file).map (·.visibility) = some .hidden := rfl
  refine ⟨e, v, hrun, (failed_request_restores_iff Sample.world_consistent.indexed.file_id hrun).2.2
    fun f hf => Or.inr ?_⟩
  rw [hf, Option.map_some, Option.some.injEq] at hfile
  rw [hfile]
  rfl

end Visibility

end SensorTasks

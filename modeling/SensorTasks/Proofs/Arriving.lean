import SensorTasks.Proofs.Documents
import SensorTasks.Proofs.ManagedObjects

/-!
The other messages as they arrive: reports about tasks, with whatever they carry, and the messages
about files and users. A report is read if its own dates can be sent and its payload is read.
-/

namespace SensorTasks

namespace Json

/-! ### Second names -/

namespace Fields

variable {α β : Type} {origin : Origin} {members : List (String × Tree)} {d : Decoder α}

theorem ofMembers_seq {f f' : Fields (α → β)} {x x' : Fields α}
    (hf : f.ofMembers origin members = f'.ofMembers origin members)
    (hx : x.ofMembers origin members = x'.ofMembers origin members) :
    (f <*> x).ofMembers origin members = (f' <*> x').ofMembers origin members := by
  unfold ofMembers at hf hx ⊢
  dsimp only [Seq.seq]
  rw [hf, hx]

/-- A second name that does not occur is none. -/
theorem ofMembers_requiredAs (name : String) {other : String} (h : other ∉ members.map (·.1)) :
    (requiredAs name other d).ofMembers origin members =
      (required name d).ofMembers origin members := by
  have hlookup : lookup [name, other] members = lookup [name] members := by
    unfold lookup
    congr 1
    induction members with
    | nil => rfl
    | cons m members ih =>
      rw [List.map_cons, List.mem_cons, not_or] at h
      by_cases hm : m.1 = name
      · simp [hm]
      · rw [List.find?_cons_of_neg (by simp [hm, Ne.symm h.1]),
          List.find?_cons_of_neg (by simpa using hm), ih h.2]
  simp only [requiredAs, required, field, hlookup, List.headD_cons]

end Fields

end Json

namespace Message

open Json

/-! ### Reports -/

namespace FetchResult

def dates (r : FetchResult) : List Instant :=
  r.dateFrom.toList ++ r.dateTo.toList

/-- The result as it arrives. -/
def sent (r : FetchResult) : FetchResult :=
  { r with dateFrom := r.dateFrom.map Instant.toMillis, dateTo := r.dateTo.map Instant.toMillis }

theorem carries : Carries decoder toJson (fun r => ∀ d ∈ r.dates, d.Sendable) sent := by
  refine .record (.seq (.seq (.seq (.seq (.seq (.seq (.seq (.map .required) .optional) .required)
    .required) .required) .optional) .optional) .optional) (fun r => ?_) fun origin r b => ?_
  · cases r.dataId <;> cases r.fileUrl <;> cases r.dateFrom <;> cases r.dateTo <;>
      simp [Json.optional]
  · simp [fields, dates, sent, string_faithful.reads, string_faithful.member,
      Instant.carries.member, or_imp, forall_and, and_assoc]

theorem list_carries : Carries listDecoder listToJson
    (fun rs => ∀ r ∈ rs, ∀ d ∈ r.dates, d.Sendable) (List.map sent) := by
  refine .record .required (fun rs => ?_) fun origin rs b => ?_
  · simp
  · simp [carries.list.reads]

end FetchResult

theorem ManagedObject.list_faithful : Faithful listDecoder listToJson := by
  refine .record .required (fun os => ?_) fun origin os b => ?_
  · simp
  · simp [ManagedObject.faithful.list.reads]

theorem objectAmount_faithful : Faithful objectAmountDecoder objectAmountToJson := by
  refine .record .required (fun n => ?_) fun origin n b => ?_
  · simp
  · simp [natural_faithful.reads]

namespace StatusReport

variable {α β : Type}

/-- The dates of a report itself. -/
def dates (m : StatusReport α) : List Instant :=
  m.nextRunAt.toList ++ m.lastCompletedAt.toList

/-- The report as it arrives with the payload `p`. -/
def arriving (m : StatusReport α) (p : Option β) : StatusReport β :=
  ⟨m.taskId, m.taskType, m.status, m.mode, m.nextRunAt.map Instant.toMillis,
    m.lastCompletedAt.map Instant.toMillis, p⟩

/-- A report is read if its dates can be sent and its payload is read, as whatever it may be. -/
theorem decoder_eq_ok (d : Decoder β) (encode : α → Json) (m : StatusReport α) (origin : Origin)
    (b : StatusReport β) : decoder d origin (m.toJson encode).tree = .ok b ↔
      (∀ t ∈ m.dates, t.Sendable) ∧
        ∃ p, d.member origin (m.payload.map encode) = .ok p ∧ m.arriving p = b := by
  have hfields : (fields d).Regular := .seq (.seq (.seq (.seq (.seq (.seq (.map .required) .required)
    .required) .optional) .optional) .optional) .optional
  refine (Fields.decode_ofMembers hfields ?_).trans ?_
  · cases m.mode <;> cases m.nextRunAt <;> cases m.lastCompletedAt <;> cases m.payload <;>
      simp [Json.optional]
  · simp [fields, dates, arriving, string_faithful.reads, TaskType.faithful.reads,
      TaskStatus.faithful.reads, TaskMode.faithful.member, Instant.carries.member, or_imp,
      forall_and, and_assoc]

end StatusReport

/-! ### Failures and modes -/

namespace Failure

def dates (f : Failure) : List Instant :=
  f.failedAt.toList

/-- The failure as it arrives. -/
def sent (f : Failure) : Failure :=
  { f with failedAt := f.failedAt.map Instant.toMillis }

/-- What is written of a failure. -/
def members (f : Failure) : List (String × Json) :=
  [("taskId", .string f.taskId)] ++ optional "taskType" TaskType.toJson f.taskType ++
    [("reason", .string f.reason)] ++ optional "failedAt" Instant.toWireJson f.failedAt

/-- The fields under the names that are written. -/
def plainFields : Fields Failure :=
  Failure.mk <$> .required "taskId" .string
    <*> .optional "taskType" TaskType.decoder
    <*> .required "reason" .string
    <*> .optional "failedAt" Instant.wireDecoder

theorem plainFields_regular : plainFields.Regular :=
  .seq (.seq (.seq (.map .required) .optional) .required) .optional

theorem sameMembers (f : Failure) : SameMembers (extendMembers [] f.members) f.members := by
  have hkeys : (f.members.map (·.1)).Nodup := by
    unfold members
    cases f.taskType <;> cases f.failedAt <;> simp [Json.optional]
  exact .sorted hkeys

/-- The second name of the reason is never written. -/
theorem second_name_not_written (f : Failure) :
    "errorMessage" ∉ (extendMembers [] f.members).map (·.1) := by
  intro h
  have hmem := f.sameMembers.mem_keys h
  unfold members at hmem
  cases htype : f.taskType <;> cases hat : f.failedAt <;>
    simp [Json.optional, htype, hat] at hmem

theorem ofMembers_eq (f : Failure) (origin : Origin) :
    fields.ofMembers origin (treeMembers (extendMembers [] f.members)) =
      plainFields.ofMembers origin (treeMembers (extendMembers [] f.members)) := by
  have hother : "errorMessage" ∉ (treeMembers (extendMembers [] f.members)).map (·.1) := by
    simpa [treeMembers_eq_map, Function.comp_def] using f.second_name_not_written
  exact Fields.ofMembers_seq
    (Fields.ofMembers_seq rfl (Fields.ofMembers_requiredAs "reason" hother)) rfl

/-- What is written goes by the first name of its field. -/
theorem headD_of_mem_names (f : Failure) : ∀ group ∈ fields.names,
    ∀ k ∈ (extendMembers [] f.members).map (·.1), k ∈ group → group.headD "" = k := by
  intro group hgroup k hk hmem
  have hnames : fields.names = [["taskId"], ["taskType"], ["reason", "errorMessage"],
      ["failedAt"]] := rfl
  have hother : k ≠ "errorMessage" := by
    rintro rfl
    exact f.second_name_not_written hk
  rw [hnames] at hgroup
  simp only [List.mem_cons, List.not_mem_nil, or_false] at hgroup
  rcases hgroup with rfl | rfl | rfl | rfl <;> simp_all

/-- A failure is read under the names that are written, though another one is known. -/
theorem decoder_eq_ok (f : Failure) (origin : Origin) (b : Failure) :
    decoder origin f.toJson.tree = .ok b ↔
      plainFields.value origin (treeMembers f.members) = .ok b := by
  have hsame := f.sameMembers
  have hplain := f.ofMembers_eq origin
  have hvalue : fields.value origin (treeMembers (extendMembers [] f.members)) =
      plainFields.value origin (treeMembers f.members) := by
    rw [← hsame.value_eq plainFields_regular]
    exact congrArg Prod.snd hplain
  rw [← hvalue]
  refine ⟨Fields.value_of_decode, fun h => ?_⟩
  have hfailed : (fields.ofMembers origin (treeMembers (extendMembers [] f.members))).1 = [] := by
    rw [hplain]
    exact plainFields_regular.sound ((hsame.value_eq plainFields_regular).trans (hvalue ▸ h))
  exact (Fields.decodeMembers_of_value Tree.isWhole_tree hsame.nodup f.headD_of_mem_names
    hfailed).trans h

theorem carries : Carries decoder toJson (fun f => ∀ t ∈ f.dates, t.Sendable) sent where
  reads origin f b := by
    rw [decoder_eq_ok]
    simp [plainFields, members, dates, sent, string_faithful.reads, TaskType.faithful.member,
      Instant.carries.member, and_assoc]
  ne_null f := by simp [toJson, ofMembers, tree]

end Failure

theorem ModeChange.faithful : Faithful ModeChange.decoder ModeChange.toJson := by
  refine .record (.seq (.map .required) .required) (fun m => ?_) fun origin m b => ?_
  · simp
  · simp [fields, string_faithful.list.reads, TaskMode.faithful.reads]

/-! ### Files and users -/

theorem FileLocation.faithful : Faithful FileLocation.decoder FileLocation.toJson := by
  refine .record (.seq (.seq (.map .required) .required) .required) (fun l => ?_)
    fun origin l b => ?_
  · simp
  · simp [fields, string_faithful.reads]

theorem FileDeletion.faithful : Faithful FileDeletion.decoder FileDeletion.toJson := by
  refine .record (.map .required) (fun m => ?_) fun origin m b => ?_
  · simp
  · simp [fields, FileLocation.faithful.list.reads]

namespace VisibilityRequest

theorem faithful : Faithful decoder toJson := by
  refine .record (.seq (.seq (.seq (.map .required) .required) .withDefault) .required)
    (fun m => ?_) fun origin m b => ?_
  · simp
  · simp [fields, string_faithful.reads, boolean_faithful.reads, Platform.faithful.list.reads,
      Storage.faithful.reads]

/-- Every request can be sent. -/
theorem validate_toJson (m : VisibilityRequest) :
    Registry.standard.validate .fileStatusVisibilityState m.toJson = .ok () :=
  validate_standard.2 ⟨_, List.mem_singleton_self _,
    typed_eq_ok.2 ⟨m, (faithful.reads _ m m).2 ⟨trivial, rfl⟩, rfl⟩⟩

end VisibilityRequest

theorem VisibilityUpdate.faithful : Faithful VisibilityUpdate.decoder VisibilityUpdate.toJson := by
  refine .record (.seq (.map .required) .optional) (fun u => ?_) fun origin u b => ?_
  · cases u.exposedTo <;> simp [Json.optional]
  · simp [fields, boolean_faithful.reads, Platform.faithful.list.member]

theorem VisibilityResult.faithful : Faithful VisibilityResult.decoder VisibilityResult.toJson := by
  refine .record (.seq (.seq (.seq (.map .required) .optional) .optional) .optional)
    (fun m => ?_) fun origin m b => ?_
  · cases m.visibility <;> cases m.storage <;> cases m.error <;> simp [Json.optional]
  · simp [fields, string_faithful.reads, string_faithful.member, VisibilityUpdate.faithful.member,
      Storage.faithful.member]

theorem user_faithful : Faithful userDecoder User.toJson := by
  refine .record (.seq (.seq (.map .required) .required) .withDefault) (fun u => ?_)
    fun origin u b => ?_
  · simp
  · simp [User.fields, string_faithful.reads, boolean_faithful.reads]

end Message

end SensorTasks

import SensorTasks.Proofs.DocumentDates
import SensorTasks.Proofs.Sending

/-!
Documents as they are stored. A task, a file, a sensor and a group are read as they were written:
what was left out because there was nothing to say is read as nothing, and the work of a task is
found by its type among the other members.
-/

namespace SensorTasks

open Json

/-! ### Parts of documents -/

theorem Instant.faithful : Faithful Instant.decoder Instant.toJson where
  reads origin a b := by simp [toJson, tree, decoder, Decoder.parsed, parse_render]
  ne_null a := by simp [toJson, tree]

theorem TaskStatus.faithful : Faithful TaskStatus.decoder TaskStatus.toJson :=
  choice_faithful fun a => by cases a <;> decide

theorem TaskMode.faithful : Faithful TaskMode.decoder TaskMode.toJson :=
  choice_faithful fun a => by cases a <;> decide

theorem ValueFragment.faithful : Faithful ValueFragment.decoder ValueFragment.toJson := by
  refine .record (.seq (.map .required) .optional) (fun v => ?_) fun origin v b => ?_
  · cases v.description <;> simp [Json.optional]
  · simp [fields, string_faithful.reads, string_faithful.member]

theorem FileMetadata.faithful : Faithful FileMetadata.decoder FileMetadata.toJson := by
  refine .record (.seq (.seq (.seq (.seq (.seq (.map .withDefault) .optional) .optional) .optional)
    .optional) .withDefault) (fun m => ?_) fun origin m b => ?_
  · cases m.dateFrom <;> cases m.dateTo <;> cases m.managedObjectId <;>
      cases m.managedObjectName <;> simp [Json.optional]
  · simp [fields, string_faithful.list.reads, Instant.faithful.member, string_faithful.member,
      ValueFragment.faithful.list.reads]

theorem Visibility.faithful : Faithful Visibility.decoder Visibility.toJson := by
  refine .record (.seq (.seq (.seq (.map .required) .required) .withDefault) .optional)
    (fun v => ?_) fun origin v b => ?_
  · cases v.errorMessage <;> simp [Json.optional]
  · simp [fields, boolean_faithful.reads, Platform.faithful.list.reads, string_faithful.member]

theorem File.faithful : Faithful File.decoder File.toJson := by
  refine .record (.seq (.seq (.seq (.seq (.seq (.seq (.seq (.seq (.seq (.seq (.map .required)
    .required) .optional) .optional) .required) .required) .withDefault) .withDefault) .optional)
    .required) .required) (fun f => ?_) fun origin f b => ?_
  · cases f.description <;> cases f.createdByTask <;> cases f.url <;> simp [Json.optional]
  · simp only [fields, List.cons_append, List.nil_append, List.append_assoc,
      Fields.value_seq_eq_ok, Fields.value_map_eq_ok, Fields.read_required, Fields.read_optional,
      Fields.read_withDefault, List.lookup_cons_self, lookup_member, List.lookup_append,
      lookup_optional, List.lookup_nil, String.reduceEq, ↓reduceIte, Option.or_self,
      Option.or_none, Option.none_or, Option.or_some, Option.getD_none, Option.some.injEq,
      Option.mem_def, Option.map_id, exists_eq_left', exists_and_left, implies_true, id_eq,
      true_and, reduceCtorEq, false_and, or_false, string_faithful.reads, string_faithful.member,
      Storage.faithful.reads, FileMetadata.faithful.reads, Visibility.faithful.reads,
      attributes_faithful.reads, Instant.faithful.reads]

theorem Sensor.faithful : Faithful Sensor.decoder Sensor.toJson := by
  refine .record (.seq (.seq (.seq (.seq (.seq (.seq (.seq (.map .required) .required) .optional)
    .required) .required) .required) .optional) .withDefault) (fun s => ?_) fun origin s b => ?_
  · cases s.description <;> cases s.valueFragmentDisplayName <;> simp [Json.optional]
  · simp [fields, string_faithful.reads, string_faithful.member, attributes_faithful.reads]

theorem Group.faithful : Faithful Group.decoder Group.toJson := by
  refine .record (.seq (.seq (.seq (.seq (.seq (.seq (.seq (.map .required) .required) .optional)
    .optional) .optional) .withDefault) .withDefault) .withDefault) (fun g => ?_)
    fun origin g b => ?_
  · cases g.description <;> cases g.managedObjectId <;> cases g.managedObjectName <;>
      simp [Json.optional]
  · simp [fields, string_faithful.reads, string_faithful.member, string_faithful.list.reads,
      attributes_faithful.reads]

/-! ### Work -/

theorem FetchEntry.faithful : Faithful FetchEntry.decoder FetchEntry.toJson := by
  refine .record (.seq (.seq (.seq (.seq (.seq (.seq (.map .required) .required) .optional)
    .optional) .optional) .optional) .optional) (fun e => ?_) fun origin e b => ?_
  · cases e.fileId <;> cases e.fileName <;> cases e.bucket <;> cases e.filePath <;>
      cases e.fileUrl <;> simp [Json.optional]
  · simp [fields, string_faithful.reads, string_faithful.member]

theorem FetchWork.faithful : Faithful FetchWork.decoder FetchWork.toJson := by
  refine .record (.seq (.seq (.seq (.map .withDefault) .optional) .optional) .optional)
    (fun w => ?_) fun origin w b => ?_
  · cases w.dateFrom <;> cases w.dateTo <;> cases w.group <;> simp [Json.optional]
  · simp [fields, FetchEntry.faithful.list.reads, Instant.faithful.member, string_faithful.member]

theorem UploadMetadata.faithful : Faithful UploadMetadata.decoder UploadMetadata.toJson := by
  refine .record (.seq (.seq (.seq (.seq (.seq (.seq (.seq (.map .required) .required) .required)
    .optional) .required) .required) .optional) .optional) (fun m => ?_) fun origin m b => ?_
  · cases m.managedObjectName <;> cases m.sensorDescription <;> cases m.fileDescription <;>
      simp [Json.optional]
  · simp [fields, string_faithful.reads, string_faithful.member, Instant.faithful.reads]

theorem UploadFile.faithful : Faithful UploadFile.decoder UploadFile.toJson := by
  refine .record (.seq (.seq (.seq (.seq (.map .required) .required) .required) .required)
    .withDefault) (fun f => ?_) fun origin f b => ?_
  · simp
  · simp [fields, string_faithful.reads, Storage.faithful.reads, UploadMetadata.faithful.reads,
      attributes_faithful.reads]

theorem UploadWork.faithful : Faithful UploadWork.decoder UploadWork.toJson := by
  refine .record (.seq (.map .withDefault) .required) (fun w => ?_) fun origin w b => ?_
  · simp
  · simp [fields, UploadFile.faithful.list.reads, Platform.faithful.reads]

/-- Content that stands as `payload` among the remaining members. -/
theorem payload_eq_ok {α : Type} {d : Decoder α} {encode : α → Json} (h : Faithful d encode) (a : α)
    {rest : List (String × Json)} (hrest : SameMembers rest [("payload", encode a)])
    (wanted : String) : (Fields.required "payload" d).decode wanted .buffered
      (.object (treeMembers rest)) = .ok a := by
  have hfield : (Fields.required "payload" d).Regular := .required
  exact (hrest.decode_eq_ok hfield).2 (by simp [h.reads])

/-- The type of the work leads to its content, wherever both stand among the members. -/
theorem Work.taggedMembers_eq (w : Work) {ms : List (String × Json)} (origin : Origin)
    (h : SameMembers ms w.members) :
    Decoder.taggedMembers "taskType" variants origin (treeMembers ms) = .ok w := by
  cases w with
  | fetch work =>
    obtain ⟨rest, hrest, heq⟩ := Decoder.taggedMembers_eq variants origin h (by simp) rfl
    rw [heq, Decoder.map, payload_eq_ok FetchWork.faithful work hrest]
    rfl
  | upload work =>
    obtain ⟨rest, hrest, heq⟩ := Decoder.taggedMembers_eq variants origin h (by simp) rfl
    rw [heq, Decoder.map, payload_eq_ok UploadWork.faithful work hrest]
    rfl
  | sync =>
    obtain ⟨rest, -, heq⟩ := Decoder.taggedMembers_eq variants origin h (by simp) rfl
    rw [heq]
    rfl

/-! ### Tasks -/

theorem TaskMetadata.faithful : Faithful TaskMetadata.decoder TaskMetadata.toJson := by
  refine .record (.seq (.seq (.seq (.seq (.seq (.seq (.map .required) .optional) .optional)
    .optional) .optional) .optional) .optional) (fun m => ?_) fun origin m b => ?_
  · cases m.recurrence <;> cases m.lastRanAt <;> cases m.lastCompletedAt <;>
      cases m.lastFailedAt <;> cases m.lastFailReason <;> cases m.nextRunAt <;>
      simp [Json.optional]
  · simp [fields, Instant.faithful.reads, Instant.faithful.member, Recurrence.faithful.member,
      string_faithful.member]

namespace Task

/-- What is written of a task. -/
def members (t : Task) : List (String × Json) :=
  [("id", .string t.id), ("name", .string t.name), ("status", t.status.toJson),
    ("mode", t.mode.toJson), ("initiatedByUser", .string t.initiatedByUser),
    ("metadata", t.metadata.toJson)] ++
  t.work.members ++
  [("customAttributes", t.attributes.toJson), ("createdAt", t.createdAt.toJson),
    ("updatedAt", t.updatedAt.toJson)]

theorem nodup_members (t : Task) : (t.members.map (·.1)).Nodup := by
  unfold members
  cases t.work <;> simp [Work.members]

/-- The members that no field of the task takes are those of the work. -/
theorem others_members (t : Task) :
    t.members.filter (fun m => !fields.names.any (·.contains m.1)) = t.work.members := by
  unfold members
  cases t.work <;> rfl

theorem value_members (origin : Origin) (t : Task) :
    fields.value origin (treeMembers t.members) = .ok fun work => { t with work := work } := by
  unfold members
  cases t.work <;>
    simp only [fields, Work.members, List.cons_append, List.nil_append, Fields.value_seq_eq_ok,
      Fields.value_map_eq_ok, Fields.read_required, Fields.read_withDefault,
      List.lookup_cons_self, lookup_member, String.reduceEq, ↓reduceIte, Option.some.injEq,
      exists_eq_left', exists_and_left, id_eq, true_and, reduceCtorEq, false_and, or_false,
      string_faithful.reads, TaskStatus.faithful.reads, TaskMode.faithful.reads,
      TaskMetadata.faithful.reads, attributes_faithful.reads, Instant.faithful.reads]

theorem faithful : Faithful decoder toJson := by
  have hfields : fields.Regular := .seq (.seq (.seq (.seq (.seq (.seq (.seq (.seq (.map .required)
    .required) .required) .required) .required) .required) .withDefault) .required) .required
  refine faithful_of_read (fun origin t => ?_) fun t => by simp [toJson, ofMembers, tree]
  have hsame := SameMembers.sorted t.nodup_members
  have hrest := hsame.filter fun key => !fields.names.any (·.contains key)
  rw [others_members] at hrest
  exact (hsame.decodeWith_eq_ok hfields).2
    ⟨_, t.work, value_members origin t, t.work.taggedMembers_eq .buffered hrest, rfl⟩

end Task

/-- What is stored is read as it was stored, whether the document stands by itself, in a text or in
another document. -/
theorem documents_read_back (origin : Origin) :
    (∀ t : Task, Task.decoder origin t.toJson.tree = .ok t) ∧
      (∀ f : File, File.decoder origin f.toJson.tree = .ok f) ∧
      (∀ s : Sensor, Sensor.decoder origin s.toJson.tree = .ok s) ∧
      ∀ g : Group, Group.decoder origin g.toJson.tree = .ok g :=
  ⟨fun t => (Task.faithful.reads origin t t).2 ⟨trivial, rfl⟩,
    fun f => (File.faithful.reads origin f f).2 ⟨trivial, rfl⟩,
    fun s => (Sensor.faithful.reads origin s s).2 ⟨trivial, rfl⟩,
    fun g => (Group.faithful.reads origin g g).2 ⟨trivial, rfl⟩⟩

end SensorTasks

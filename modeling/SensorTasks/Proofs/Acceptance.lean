import SensorTasks.Proofs.Decoding
import SensorTasks.Proofs.Rejection
import SensorTasks.Proofs.Validation

/-!
What the handlers make of messages that the registry accepts. The registry tries the kinds of
payloads that a report may have one after the other; the handler goes by the status and by the keys
that it finds. Both read the same payload, but not always for the same kind: a report of a sync
that has the keys of two kinds may be accepted for one and read for the other. Apart from such
reports, what is accepted is applied without an error.
-/

namespace SensorTasks

open Json Message

/-! ### Reports with their payload as it stands -/

namespace Json

theorem Decoder.option_eq_ok {α : Type} {d : Decoder α} {origin : Origin} {t : Tree}
    {a : Option α} : d.option origin t = .ok a ↔
      (t = .null ∧ none = a) ∨ t ≠ .null ∧ ∃ x, d origin t = .ok x ∧ some x = a := by
  cases t <;> simp [Decoder.option, Except.map] <;> cases d origin _ <;> simp

/-- The last field of an array, which may be left out. -/
theorem ofItems_optional_eq_ok {α : Type} {name : String} {d : Decoder α} {origin : Origin}
    {items : List Tree} {a : Option α} :
    (Fields.optional name d).ofItems origin items = .ok (a, []) ↔
      (items = [] ∧ none = a) ∨ ∃ t, items = [t] ∧ d.option origin t = .ok a := by
  cases items with
  | nil => simp [Fields.optional, Fields.withDefault, Fields.field]
  | cons t items =>
    simp only [Fields.optional, Fields.withDefault, Fields.field]
    cases h : d.option origin t <;> simp [h]
    grind

end Json

namespace Message.StatusReport

variable {α β : Type}

/-- The report with another payload. -/
def withPayload (m : StatusReport α) (payload : Option β) : StatusReport β :=
  ⟨m.taskId, m.taskType, m.status, m.mode, m.nextRunAt, m.lastCompletedAt, payload⟩

/-- All fields but the payload. -/
def header (α : Type) : Fields (Option α → StatusReport α) :=
  StatusReport.mk <$> .required "taskId" .string
    <*> .required "taskType" TaskType.decoder
    <*> .required "status" TaskStatus.decoder
    <*> .optional "mode" TaskMode.decoder
    <*> .optional "nextRunAt" Instant.wireDecoder
    <*> .optional "lastCompletedAt" Instant.wireDecoder

theorem header_regular : (header α).Regular :=
  .seq (.seq (.seq (.seq (.seq (.map .required) .required) .required) .optional) .optional)
    .optional

theorem fields_regular (d : Decoder α) : (fields d).Regular := .seq header_regular .optional

theorem header_value {origin : Origin} {members : List (String × Tree)}
    {f : Option α → StatusReport α} (h : (header α).value origin members = .ok f) :
    (header β).value origin members = .ok fun p => (f none).withPayload p := by
  simp only [header, Fields.value_seq_eq_ok, Fields.value_map_eq_ok] at h ⊢
  obtain ⟨_, done, ⟨_, next, ⟨_, mode, ⟨_, status, ⟨_, type, ⟨id, hid, rfl⟩, htype, rfl⟩, hstatus,
    rfl⟩, hmode, rfl⟩, hnext, rfl⟩, hdone, rfl⟩ := h
  exact ⟨_, done, ⟨_, next, ⟨_, mode, ⟨_, status, ⟨_, type, ⟨id, hid, rfl⟩, htype, rfl⟩, hstatus,
    rfl⟩, hmode, rfl⟩, hnext, rfl⟩, hdone, rfl⟩

theorem header_items {origin : Origin} {items rest : List Tree}
    {f : Option α → StatusReport α} (h : (header α).ofItems origin items = .ok (f, rest)) :
    (header β).ofItems origin items = .ok (fun p => (f none).withPayload p, rest) := by
  simp only [header, Fields.ofItems_seq_eq_ok, Fields.ofItems_map_eq_ok] at h ⊢
  obtain ⟨_, _, done, ⟨_, _, next, ⟨_, _, mode, ⟨_, _, status, ⟨_, _, type, ⟨id, hid, rfl⟩, htype,
    rfl⟩, hstatus, rfl⟩, hmode, rfl⟩, hnext, rfl⟩, hdone, rfl⟩ := h
  exact ⟨_, _, done, ⟨_, _, next, ⟨_, _, mode, ⟨_, _, status, ⟨_, _, type, ⟨id, hid, rfl⟩, htype,
    rfl⟩, hstatus, rfl⟩, hmode, rfl⟩, hnext, rfl⟩, hdone, rfl⟩

/-- What is there is read as it stands. -/
theorem option_json {d : Decoder α} {j : Json} {a : Option α} (hj : j.isCanonical = true)
    (h : d.option .value j.tree = .ok a) :
    ∃ b, Decoder.json.option .value j.tree = .ok b ∧
      Option.Rel (fun a b => d.fromValue b = .ok a) a b := by
  simp only [Decoder.option_eq_ok] at h ⊢
  rcases h with ⟨hnull, rfl⟩ | ⟨hnull, x, hx, rfl⟩
  · exact ⟨none, Or.inl ⟨hnull, rfl⟩, .none⟩
  · refine ⟨some j, Or.inr ⟨hnull, j, ?_, rfl⟩, .some hx⟩
    simp only [Decoder.json, Tree.read?_tree, canonical_of_isCanonical j hj]

/-- A report that is read with its payload is read with the payload as it stands, and the payload
that stands there is the one that was read. -/
theorem decode_json {d : Decoder α} {j : Json} {m : StatusReport α} (hj : j.isCanonical = true)
    (h : (decoder d).fromValue j = .ok m) :
    ∃ body, (decoder .json).fromValue j = .ok (m.withPayload body) ∧
      Option.Rel (fun a b => d.fromValue b = .ok a) m.payload body := by
  unfold Decoder.fromValue decoder at h ⊢
  cases j with
  | object members =>
    rw [isCanonical, Bool.and_eq_true] at hj
    have hkeys := nodup_of_keysIncrease hj.2
    rw [tree] at h ⊢
    obtain ⟨f, a, hf, ha, rfl⟩ := Fields.value_seq_eq_ok.1
      ((Fields.decode_object (fields_regular d) hkeys).1 h)
    have hfa : f a = (f none).withPayload a :=
      congrFun (Except.ok.inj (hf.symm.trans (header_value hf))) a
    have hread : ∀ b, (Fields.optional "payload" Decoder.json).value .value (treeMembers members) =
        .ok b → Fields.decode "struct TaskStatusMessage" (fields .json) .value
          (.object (treeMembers members)) = .ok ((f none).withPayload b) := fun b hb =>
      (Fields.decode_object (fields_regular .json) hkeys).2
        (Fields.value_seq_eq_ok.2 ⟨_, b, header_value hf, hb, rfl⟩)
    rw [hfa]
    rw [Fields.value_optional_eq_ok, lookup_treeMembers] at ha
    simp only [Fields.value_optional_eq_ok, lookup_treeMembers] at hread
    rcases ha with ⟨t, ht, ha⟩ | ⟨ht, rfl⟩
    · obtain ⟨body, hbody, rfl⟩ := Option.map_eq_some_iff.1 ht
      obtain ⟨b, hb, hab⟩ := option_json (isCanonical_of_lookup hj.1 hbody) ha
      exact ⟨b, hread b (Or.inl ⟨_, ht, hb⟩), hab⟩
    · exact ⟨none, hread none (Or.inr ⟨ht, rfl⟩), .none⟩
  | array items =>
    rw [isCanonical] at hj
    rw [tree] at h ⊢
    obtain ⟨f, rest, a, hf, ha, rfl⟩ := Fields.ofItems_seq_eq_ok.1 (Fields.decode_array.1 h)
    have hfa : f a = (f none).withPayload a :=
      congrFun (Prod.mk.inj (Except.ok.inj (hf.symm.trans (header_items hf)))).1 a
    have hread : ∀ b, (Fields.optional "payload" Decoder.json).ofItems .value rest = .ok (b, []) →
        Fields.decode "struct TaskStatusMessage" (fields .json) .value
          (.array (treeItems items)) = .ok ((f none).withPayload b) := fun b hb =>
      Fields.decode_array.2 (Fields.ofItems_seq_eq_ok.2 ⟨_, rest, b, header_items hf, hb, rfl⟩)
    rw [hfa]
    simp only [ofItems_optional_eq_ok] at ha hread
    rcases ha with ⟨rfl, rfl⟩ | ⟨t, rfl, ha⟩
    · exact ⟨none, hread none (Or.inl ⟨rfl, rfl⟩), .none⟩
    · have hmem : t ∈ treeItems items :=
        (header_regular.suffix hf).subset (List.mem_singleton_self t)
      rw [treeItems_eq_map] at hmem
      obtain ⟨body, hbody, rfl⟩ := List.mem_map.1 hmem
      obtain ⟨b, hb, hab⟩ := option_json (isCanonical_of_mem hj hbody) ha
      exact ⟨b, hread b (Or.inr ⟨_, rfl, hb⟩), hab⟩
  | _ => cases h

end Message.StatusReport

/-! ### What the registry accepts -/

namespace Message

/-- What an accepted report says, by the alternative that accepts it. -/
inductive StatusReport.Accepted (m : StatusReport Json) : Prop where
  | results {b : Json} {rs : List FetchResult} (htype : m.taskType = .dataFetch)
    (hp : m.payload = some b) (hb : FetchResult.listDecoder.fromValue b = .ok rs)
  | uploadDone (htype : m.taskType = .dataUpload) (hstatus : m.status = .done)
  | objects {b : Json} {os : List ManagedObject} (htype : m.taskType = .objectSync)
    (hp : m.payload = some b) (hb : ManagedObject.listDecoder.fromValue b = .ok os)
  | objectAmount {b : Json} {n : Nat} (htype : m.taskType = .objectSync)
    (hp : m.payload = some b) (hb : objectAmountDecoder.fromValue b = .ok n)
  | plain (hp : m.payload = none)

/-- A report with more to say is read both with its content and as it stands. -/
theorem reportWith_json {α : Type} {d : Decoder α} {check : α → Check} {type : TaskType}
    {missing : String} {j : Json} (hj : j.isCanonical = true)
    (h : reportWith d check type missing j = .ok ()) :
    ∃ m a b, (StatusReport.decoder .json).fromValue j = .ok m ∧ m.taskType = type ∧
      m.payload = some b ∧ d.fromValue b = .ok a ∧
      (StatusReport.decoder d).fromValue j = .ok (m.withPayload (some a)) := by
  obtain ⟨m, hm, -, htype, a, ha⟩ := reportWith_eq_ok.1 h
  obtain ⟨body, hbody, hrel⟩ := StatusReport.decode_json hj hm
  have hwhole : (m.withPayload body).withPayload (some a) = m := by
    rw [← ha]
    rfl
  rw [ha] at hrel
  cases hrel with
  | some hb => exact ⟨_, a, _, hbody, htype, rfl, hb, hwhole.symm ▸ hm⟩

/-- A report that is accepted is read, and says one of five things. -/
theorem report_accepted {key : RoutingKey} {j : Json} (hj : j.isCanonical = true)
    (hkey : Inbox.isReport key = true) (h : Registry.standard.validate key j = .ok ()) :
    ∃ m, (StatusReport.decoder .json).fromValue j = .ok m ∧ m.Accepted := by
  obtain ⟨a, ha, hcheck⟩ := validate_standard.1 h
  -- the alternatives of all keys are among those of one
  have hall : a ∈ standardSchema .taskStatus := by
    cases key <;> cases hkey
    case taskStatus => exact ha
    all_goals
      obtain rfl := List.mem_singleton.1 ha
      simp [standardSchema]
  simp only [standardSchema, List.mem_cons, List.not_mem_nil, or_false] at hall
  rcases hall with rfl | rfl | rfl | rfl | rfl
  · obtain ⟨m, rs, b, hm, htype, hp, hb, -⟩ := reportWith_json hj hcheck
    exact ⟨m, hm, .results htype hp hb⟩
  · obtain ⟨m, hm, htype, hstatus⟩ := uploadDone_eq_ok.1 hcheck
    exact ⟨m, hm, .uploadDone htype hstatus⟩
  · obtain ⟨m, os, b, hm, htype, hp, hb, -⟩ := reportWith_json hj hcheck
    exact ⟨m, hm, .objects htype hp hb⟩
  · obtain ⟨m, n, b, hm, htype, hp, hb, -⟩ := reportWith_json hj hcheck
    exact ⟨m, hm, .objectAmount htype hp hb⟩
  · obtain ⟨m, hm, hp⟩ := plainReport_eq_ok.1 hcheck
    exact ⟨m, hm, .plain hp⟩

end Message

/-! ### What the handlers decode -/

namespace Message.StatusReport

open Inbox Report

/-- The report of a sync that is accepted for one of its contents while its status asks for the
other one, which is there under its key and cannot be decoded. -/
inductive Misread (m : StatusReport Json) : Prop where
  | objects {b : Json} {n : Nat} (htype : m.taskType = .objectSync)
    (hstatus : m.status = .processing) (hp : m.payload = some b)
    (hb : objectAmountDecoder.fromValue b = .ok n) (hkey : (b.get? "objects").isSome = true)
    (hfault : faultOf ManagedObject.listDecoder b ≠ none)
  | objectAmount {b : Json} {os : List ManagedObject} (htype : m.taskType = .objectSync)
    (hstatus : m.status = .done) (hp : m.payload = some b)
    (hb : ManagedObject.listDecoder.fromValue b = .ok os)
    (hkey : (b.get? "objectAmount").isSome = true)
    (hfault : faultOf objectAmountDecoder b ≠ none)

theorem faultOf_of_ok {α : Type} {d : Decoder α} {j : Json} {a : α} (h : d.fromValue j = .ok a) :
    faultOf d j = none := by
  unfold faultOf
  rw [h]

/-- The content of an accepted report can be decoded, unless the report is misread. -/
theorem Accepted.fault_iff {m : StatusReport Json} (h : m.Accepted) :
    (content m).fault? ≠ none ↔ m.Misread := by
  constructor
  · intro hfault
    unfold content at hfault
    cases h with
    | results htype hp hb =>
      rw [htype, hp] at hfault
      cases hs : m.status <;> rw [hs] at hfault <;>
        first | exact absurd (faultOf_of_ok hb) hfault | exact absurd rfl hfault
    | uploadDone htype hstatus =>
      rw [htype, hstatus] at hfault
      exact absurd rfl hfault
    | objects htype hp hb =>
      rw [htype, hp] at hfault
      cases hs : m.status <;> rw [hs] at hfault <;> dsimp only at hfault
      case processing =>
        split at hfault
        · exact absurd (faultOf_of_ok hb) hfault
        · exact absurd rfl hfault
      case done =>
        split at hfault
        · rename_i hkey
          exact .objectAmount htype hs hp hb hkey hfault
        · exact absurd rfl hfault
      all_goals exact absurd rfl hfault
    | objectAmount htype hp hb =>
      rw [htype, hp] at hfault
      cases hs : m.status <;> rw [hs] at hfault <;> dsimp only at hfault
      case processing =>
        split at hfault
        · rename_i hkey
          exact .objects htype hs hp hb hkey hfault
        · exact absurd rfl hfault
      case done =>
        split at hfault
        · exact absurd (faultOf_of_ok hb) hfault
        · exact absurd rfl hfault
      all_goals exact absurd rfl hfault
    | plain hp =>
      rw [hp] at hfault
      cases ht : m.taskType <;> cases hs : m.status <;> rw [ht, hs] at hfault <;>
        exact absurd rfl hfault
  · rintro (⟨htype, hstatus, hp, hb, hkey, hfault⟩ | ⟨htype, hstatus, hp, hb, hkey, hfault⟩)
    · unfold content
      rw [htype, hstatus, hp]
      dsimp only
      rw [if_pos hkey]
      exact hfault
    · unfold content
      rw [htype, hstatus, hp]
      dsimp only
      rw [if_pos hkey]
      exact hfault

end Message.StatusReport

namespace Inbox

variable {w : World} {key : RoutingKey} {j : Json} {payload : Payload}

/-- What an accepted message ends with is what its handler comes to. -/
theorem process_of_accepted {r : Registry} {h : Handler} (hkey : Handler.ofKey? key = some h)
    (hread : payload.read? = some j) (haccepted : r.validate key j = .ok ()) :
    process r key payload = (h.handle key j).mapError .handler := by
  unfold process
  simp only [hkey, hread, haccepted]

/-- A text is read as a canonical value. -/
theorem isCanonical_of_read? (hj : ∀ d, payload = .document d → d.isCanonical = true)
    (hread : payload.read? = some j) : j.isCanonical = true := by
  cases payload with
  | document d => exact Option.some.inj hread ▸ hj d rfl
  | text s =>
    have hparse : Json.parse? s = some j := hread
    unfold Json.parse? at hparse
    dsimp only at hparse
    split at hparse
    · obtain ⟨d, -, rfl⟩ := Option.map_eq_some_iff.1 hparse
      exact isCanonical_canonical d
    · cases hparse

/-- A message on a key with one alternative only is decoded by its handler as it was checked. -/
theorem decoded_of_typed {α : Type} {d : Decoder α} {check : α → Check} {name : String}
    (hschema : standardSchema key = [⟨name, typed d check⟩])
    (haccepted : Registry.standard.validate key j = .ok ()) : ∃ m, d.fromValue j = .ok m := by
  obtain ⟨a, ha, hcheck⟩ := validate_standard.1 haccepted
  rw [hschema, List.mem_singleton] at ha
  subst ha
  obtain ⟨m, hm, -⟩ := typed_eq_ok.1 hcheck
  exact ⟨m, hm⟩

/-- An accepted message that is no report about a status is applied without an error. -/
theorem handle_accepted {h : Handler} (hkey : Handler.ofKey? key = some h)
    (hreport : isReport key = false) (haccepted : Registry.standard.validate key j = .ok ())
    (w : World) : ∃ v, (h.handle key j).run.run w = (.ok (), v) := by
  cases key <;> cases hkey <;> cases hreport
  case taskStatusFailed =>
    obtain ⟨f, hf⟩ := decoded_of_typed rfl haccepted
    rw [handle_failure, handling_of_ok hf]
    rcases Report.failure_run w f with ⟨-, hrun⟩ | ⟨t, -, hrun⟩ <;> rw [hrun] <;> exact ⟨_, rfl⟩
  case taskModeChanged =>
    obtain ⟨m, hm⟩ := decoded_of_typed rfl haccepted
    obtain ⟨v, n, hrun, -⟩ := Report.modeChanged_run w m
    rw [handle_modeChanged, handling_of_ok hm, hrun]
    exact ⟨v, rfl⟩
  case fileResultVisibilityState =>
    obtain ⟨m, hm⟩ := decoded_of_typed rfl haccepted
    rw [handle_visibility, handling_of_ok hm]
    rcases Report.visibility_run w m with ⟨-, hrun⟩ | ⟨-, -, v, f, hrun⟩ <;> rw [hrun] <;>
      exact ⟨_, rfl⟩

/-- What becomes of an accepted report: it fails exactly if it is misread. -/
theorem status_accepted (hw : w.Consistent) {m : StatusReport Json} (hm : m.Accepted) :
    (∃ v x, (Report.status m).run.run w = (.ok x, v) ∧
        ¬∃ t, w.ledger.task? m.taskId = some t ∧ t.type = m.taskType ∧ m.Misread) ∨
      ∃ v t reason, (Report.status m).run.run w = (.error (.invalidMessage .taskStatus reason), v) ∧
        w.ledger.task? m.taskId = some t ∧ t.type = m.taskType ∧ m.Misread := by
  have hfate := Report.status_fate hw m
  revert hfate
  generalize (Report.status m).run.run w = res
  rintro (ht | ⟨ht, htype⟩ | ⟨ht, htype, hc⟩ | ⟨ht, htype, he⟩ | ⟨ht, htype, hc, he⟩)
  · refine Or.inl ⟨_, _, rfl, ?_⟩
    rintro ⟨t, ht', -⟩
    rw [ht] at ht'
    cases ht'
  · refine Or.inl ⟨_, _, rfl, ?_⟩
    rintro ⟨t, ht', htype', -⟩
    obtain rfl := Option.some.inj (ht.symm.trans ht')
    exact htype htype'
  · refine Or.inl ⟨_, _, rfl, ?_⟩
    rintro ⟨t, -, -, hmisread⟩
    refine hm.fault_iff.2 hmisread ?_
    rw [hc]
    rfl
  · refine Or.inr ⟨_, _, _, rfl, ht, htype, hm.fault_iff.1 ?_⟩
    rw [he]
    exact Option.some_ne_none _
  · exact Or.inl ⟨_, _, rfl, fun ⟨_, _, _, hmisread⟩ => hm.fault_iff.2 hmisread he⟩

/-- A message that is accepted is applied without an error, unless it is a misread report about a
task that there is: only then its handler cannot decode it. -/
theorem accepted_fails_iff (hw : w.Reachable) {h : Handler} (hkey : Handler.ofKey? key = some h)
    (hread : payload.read? = some j) (hj : ∀ d, payload = .document d → d.isCanonical = true)
    (haccepted : Registry.standard.validate key j = .ok ()) :
    (∀ e, ((process .standard key payload).run.run w).1 = .error e →
      ∃ reason, e = .handler (.invalidMessage .taskStatus reason)) ∧
    ((∃ e, ((process .standard key payload).run.run w).1 = .error e) ↔ isReport key = true ∧
      ∃ m t, (StatusReport.decoder .json).fromValue j = .ok m ∧
        w.ledger.task? m.taskId = some t ∧ t.type = m.taskType ∧ m.Misread) := by
  rw [process_of_accepted hkey hread haccepted, Action.run_mapError_run]
  cases hreport : isReport key with
  | false =>
    obtain ⟨v, hrun⟩ := handle_accepted hkey hreport haccepted w
    rw [hrun]
    simp
  | true =>
    obtain ⟨m, hm, haccept⟩ := report_accepted (isCanonical_of_read? hj hread) hreport haccepted
    obtain rfl : h = .tasks := by
      cases key <;> cases hreport <;> exact (Option.some.inj hkey).symm
    rw [handle_report hreport, handling_of_ok hm]
    rcases status_accepted hw.consistent haccept with ⟨v, x, hrun, hnot⟩ |
      ⟨v, t, reason, hrun, ht, htype, hmisread⟩
    · rw [hrun]
      refine ⟨fun e he => (by cases he), fun herror => ?_, ?_⟩
      · obtain ⟨e, he⟩ := herror
        cases he
      · rintro ⟨-, m', t, hm', hmisread⟩
        obtain rfl := Except.ok.inj (hm.symm.trans hm')
        exact absurd ⟨t, hmisread⟩ hnot
    · rw [hrun]
      refine ⟨fun e he => ⟨reason, (Except.error.inj he).symm⟩, fun _ => ?_, fun _ => ⟨_, rfl⟩⟩
      exact ⟨rfl, m, t, hm, ht, htype, hmisread⟩

/-! ### A task that takes over objects -/

namespace Sample

/-- A task that has not found any objects yet. -/
def syncing : Task :=
  { FetchReport.Sample.fetching with id := FreshId.text 3, name := "sync", work := .sync }

def world : World :=
  let reserved := ((Command.reserve 4).run (.new 8 FetchReport.Sample.clock)).2
  ((Command.createTask syncing).run reserved).2

theorem world_reachable : world.Reachable := by
  have hreserved := World.Reachable.command (c := .reserve 4) (.new 8 FetchReport.Sample.clock)
    trivial
  refine hreserved.command (c := .createTask syncing) ⟨rfl, World.old_text (by decide), ?_⟩
  intro e he
  cases he

/-- A report of the task with some content. -/
def report (status : TaskStatus) (content : List (String × Json)) : Json :=
  StatusReport.toJson Json.ofMembers
    ⟨syncing.id, .objectSync, status, none, none, none, some content⟩

/-- A report that the task goes on, with a number of objects and something else in their place. -/
def misread : Json := report .processing [("objects", .ofNat 1), ("objectAmount", .ofNat 3)]

end Sample

/-- The registry accepts a report of a sync for the number of objects in it, and the handler, which
takes the objects from under their key, refuses it. -/
theorem accepted_but_invalid :
    Sample.world.Reachable ∧ Registry.standard.validate .taskStatus Sample.misread = .ok () ∧
      ((process .standard .taskStatus (.document Sample.misread)).run.run Sample.world).1 =
        .error (.handler (.invalidMessage .taskStatus
          "invalid type: integer \x601\x60, expected a sequence")) :=
  ⟨Sample.world_reachable, by decide +kernel, by decide +kernel⟩

/-- A report that says how many objects there are, and has something else in their place, is misread
as soon as its handler comes to decode it. -/
theorem misread_of_invalid :
    ∃ m t, (StatusReport.decoder .json).fromValue Sample.misread = .ok m ∧
      Sample.world.ledger.task? m.taskId = some t ∧ t.type = m.taskType ∧ m.Misread := by
  have hj : Sample.misread.isCanonical = true := by decide +kernel
  have herror : ∃ e, ((process .standard .taskStatus (.document Sample.misread)).run.run
      Sample.world).1 = .error e :=
    ⟨.handler (.invalidMessage .taskStatus
      "invalid type: integer \x601\x60, expected a sequence"), by decide +kernel⟩
  have hkey : Handler.ofKey? .taskStatus = some .tasks := rfl
  have hread : (Payload.document Sample.misread).read? = some Sample.misread := rfl
  have haccepted : Registry.standard.validate .taskStatus Sample.misread = .ok () := by
    decide +kernel
  exact ((accepted_fails_iff Sample.world_reachable hkey hread
    (fun d hd => by cases hd; exact hj) haccepted).2.1 herror).2

end Inbox

end SensorTasks

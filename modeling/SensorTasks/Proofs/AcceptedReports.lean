import SensorTasks.Proofs.Acceptance
import SensorTasks.Proofs.Convergence
import SensorTasks.Proofs.TaskMessage

/-!
What becomes of the results that the registry accepts. A record may stand as an object, with its
fields under their keys, or as an array, with its fields at their places, and the registry decodes
either. The handler looks for the keys: the results of a fetch it decodes as they are, but what a
sync has found, or how much, it only takes from an object. In an array the same content is accepted,
and then dropped as if it were nothing known.
-/

namespace SensorTasks

open Json Message

/-- A record with one field is an array, or an object that has the field under its key. -/
theorem Json.get?_of_required {α : Type} {name wanted : String} {d : Decoder α} {j : Json} {a : α}
    (h : ((Fields.required name d).decode wanted).fromValue j = .ok a) :
    (j.get? name).isSome = true ↔ ¬∃ items, j = .array items := by
  unfold Decoder.fromValue at h
  cases j with
  | object members =>
    rw [tree] at h
    obtain ⟨t, ht, -⟩ := Fields.value_required_eq_ok.1 (Fields.value_of_decode h)
    rw [lookup_treeMembers] at ht
    obtain ⟨value, hvalue, -⟩ := Option.map_eq_some_iff.1 ht
    simp [get?, hvalue]
  | array items => simp [get?]
  | _ => cases h

namespace Message

/-- With this status a report on the key brings what its task has come to. -/
def resultStatus? : RoutingKey → Option TaskStatus
  | .taskStatusDataFetchResult => some .done
  | .taskStatusObjectSync => some .processing
  | .taskStatusObjectSyncResult => some .done
  | _ => none

namespace StatusReport

/-- A report of a sync whose content stands at its place, and not under its key. -/
structure Positional (m : StatusReport Json) : Prop where
  type : m.taskType = .objectSync
  array : ∃ items, m.payload = some (.array items)

/-- What the registry has decoded of a report that brings a result. -/
inductive Brings (j : Json) (m : StatusReport Json) : RoutingKey → Prop where
  | results {b : Json} {rs : List FetchResult} (type : m.taskType = .dataFetch)
    (body : m.payload = some b) (decoded : FetchResult.listDecoder.fromValue b = .ok rs) :
    Brings j m .taskStatusDataFetchResult
  | objects {b : Json} {os : List ManagedObject} (type : m.taskType = .objectSync)
    (body : m.payload = some b) (decoded : ManagedObject.listDecoder.fromValue b = .ok os)
    (whole : (decoder ManagedObject.listDecoder).fromValue j = .ok (m.withPayload (some os))) :
    Brings j m .taskStatusObjectSync
  | objectAmount {b : Json} {n : Nat} (type : m.taskType = .objectSync)
    (body : m.payload = some b) (decoded : objectAmountDecoder.fromValue b = .ok n) :
    Brings j m .taskStatusObjectSyncResult

end StatusReport

theorem brings_of_accepted {key : RoutingKey} {j : Json} {status : TaskStatus}
    (hj : j.isCanonical = true) (hkey : resultStatus? key = some status)
    (h : Registry.standard.validate key j = .ok ()) :
    ∃ m, (StatusReport.decoder .json).fromValue j = .ok m ∧ m.Brings j key := by
  obtain ⟨a, ha, hcheck⟩ := validate_standard.1 h
  cases key <;> cases hkey
  case taskStatusDataFetchResult =>
    obtain rfl := List.mem_singleton.1 ha
    obtain ⟨m, rs, b, hm, htype, hp, hb, -⟩ := reportWith_json hj hcheck
    exact ⟨m, hm, .results htype hp hb⟩
  case taskStatusObjectSync =>
    obtain rfl := List.mem_singleton.1 ha
    obtain ⟨m, os, b, hm, htype, hp, hb, hwhole⟩ := reportWith_json hj hcheck
    exact ⟨m, hm, .objects htype hp hb hwhole⟩
  case taskStatusObjectSyncResult =>
    obtain rfl := List.mem_singleton.1 ha
    obtain ⟨m, n, b, hm, htype, hp, hb, -⟩ := reportWith_json hj hcheck
    exact ⟨m, hm, .objectAmount htype hp hb⟩

end Message

/-- Patching a task leaves the sensors and groups as they are. -/
theorem World.grows_putTask (w : World) (t : Task) :
    World.Grows w { w with ledger := w.ledger.putTask t } :=
  ⟨Nat.le_refl _, id, fun hg => ⟨_, hg, .refl _⟩⟩

namespace Inbox

open Report

variable {w : World} {key : RoutingKey} {j : Json} {payload : Payload} {m : StatusReport Json}
  {status : TaskStatus}

theorem positional_iff {b : Json} (type : m.taskType = .objectSync) (body : m.payload = some b) :
    m.Positional ↔ ∃ items, b = .array items := by
  refine ⟨fun ⟨_, items, hitems⟩ => ⟨items, ?_⟩, fun ⟨items, hb⟩ => ⟨type, items, hb ▸ body⟩⟩
  exact Option.some.inj (body.symm.trans hitems)

theorem content_objects {b : Json} (type : m.taskType = .objectSync)
    (status : m.status = .processing) (body : m.payload = some b) :
    content m = if (b.get? "objects").isSome then .objects b else .unknown := by
  unfold content
  rw [type, status, body]

theorem content_objectAmount {b : Json} (type : m.taskType = .objectSync)
    (status : m.status = .done) (body : m.payload = some b) :
    content m = if (b.get? "objectAmount").isSome then .objectAmount b else .unknown := by
  unfold content
  rw [type, status, body]

/-- Content that is looked for under a key is known if the key is there. -/
theorem content_of_key {c : Content} {b : Bool}
    (hcontent : content m = if b then c else .unknown) (hc : c ≠ .unknown)
    (hfault : c.fault? = none) (hfound : b = true ↔ ¬m.Positional) :
    (content m = .unknown ↔ m.Positional) ∧ (content m).fault? = none := by
  rw [hcontent]
  by_cases h : b = true
  · rw [if_pos h]
    exact ⟨by simp [hc, hfound.1 h], hfault⟩
  · rw [if_neg h]
    exact ⟨by simp [not_not.1 (mt hfound.2 h)], rfl⟩

/-- What a report brings is known to the handler unless it stands at its place. -/
theorem content_of_brings (h : m.Brings j key) (hkey : resultStatus? key = some m.status) :
    (content m = .unknown ↔ m.Positional) ∧ (content m).fault? = none := by
  cases h with
  | @results b rs type body decoded =>
    have hstatus : m.status = .done := (Option.some.inj hkey).symm
    refine content_of_key (c := .results b) (b := true) ?_ nofun
      (StatusReport.faultOf_of_ok decoded) ?_
    · unfold content
      rw [type, hstatus, body]
      rfl
    · refine iff_of_true rfl fun h => ?_
      have htype := h.type
      rw [type] at htype
      cases htype
  | @objects b os type body decoded whole =>
    exact content_of_key (content_objects type (Option.some.inj hkey).symm body) nofun
      (StatusReport.faultOf_of_ok decoded)
      ((get?_of_required decoded).trans (not_congr (positional_iff type body).symm))
  | @objectAmount b n type body decoded =>
    exact content_of_key (content_objectAmount type (Option.some.inj hkey).symm body) nofun
      (StatusReport.faultOf_of_ok decoded)
      ((get?_of_required decoded).trans (not_congr (positional_iff type body).symm))

/-! ### Applying results -/

/-- The objects of a report that is applied are all taken over before its task is patched. -/
theorem applyContent_objects {b : Json} {os : List ManagedObject} (hw : w.Consistent)
    (hb : ManagedObject.listDecoder.fromValue b = .ok os) (t : Task) (p : TaskPatch) :
    ∃ sum v, (Synchronization.sync os).run.run w = (.ok sum, v) ∧ v.Complete os ∧
      (applyContent t p (.objects b)).run.run w = (.ok (some p), v) := by
  obtain ⟨sum, v, hrun, hcomplete⟩ := Synchronization.sync_complete hw os
  refine ⟨sum, v, hrun, hcomplete, ?_⟩
  simp only [applyContent, decode_of_ok hb, pure_bind]
  rw [Action.run_bind_run, hrun]
  rfl

/-- The report has been applied: its task is stored with the status of the report, and the objects
of a sync have been taken over before. -/
structure Applied (w : World) (key : RoutingKey) (j : Json) (m : StatusReport Json) (u : Task)
    (v : World) : Prop where
  run : (Report.status m).run.run w = (.ok (some u), v)
  stored : v.ledger.task? m.taskId = some u
  status : u.status = m.status
  objects : key = .taskStatusObjectSync → ∃ os sum x,
    (StatusReport.decoder ManagedObject.listDecoder).fromValue j = .ok (m.withPayload (some os)) ∧
    (Synchronization.sync os).run.run w = (.ok sum, x) ∧
    v = { x with ledger := x.ledger.putTask u } ∧ v.Complete os

/-- A report that brings something known about a task is applied. -/
theorem applied_of_brings (hw : w.Consistent) (h : m.Brings j key)
    (hkey : resultStatus? key = some m.status) (hnot : ¬m.Positional) {t : Task}
    (ht : w.ledger.task? m.taskId = some t) (htype : t.type = m.taskType) :
    ∃ u v, Applied w key j m u v := by
  obtain ⟨hunknown, hfault⟩ := content_of_brings h hkey
  have happlied := (status_applied_iff hw m).2 ⟨⟨t, ht, htype⟩, mt hunknown.1 hnot, hfault⟩
  obtain ⟨-, hnone⟩ | ⟨t', p, v, ht', -, -, -, hcontent, hrun⟩ := status_run hw m
  · obtain ⟨t', ht'⟩ := happlied
    exact absurd ht' (hnone t')
  · obtain rfl := Option.some.inj (ht.symm.trans ht')
    obtain ⟨-, hp⟩ := applyContent_kept hcontent
    have hid : m.taskId = (p.apply v.clock t).id := (hw.indexed.task_id ht).symm
    refine ⟨_, _, hrun, ?_, ?_, fun hsync => ?_⟩
    · rw [Ledger.task?_putTask, if_pos hid]
    · rw [hp]
      rfl
    · subst hsync
      cases h with
      | @objects b os type body decoded whole =>
        have hkeyed : (b.get? "objects").isSome = true :=
          (get?_of_required decoded).2 (mt (positional_iff type body).2 hnot)
        obtain ⟨sum, x, hsum, hcomplete, hx⟩ :=
          applyContent_objects hw decoded t (basePatch m w.clock)
        rw [content_objects type (Option.some.inj hkey).symm body, if_pos hkeyed, hx] at hcontent
        cases hcontent
        exact ⟨os, sum, v, whole, hsum, rfl, (World.grows_putTask v _).complete hcomplete⟩

/-- An accepted report with a result for a task that there is, of the type that the report says, is
consumed. It is applied unless its content stands in an array, and then it is dropped without a
trace. -/
theorem accepted_result_fate (hw : w.Reachable) (hread : payload.read? = some j)
    (hj : ∀ d, payload = .document d → d.isCanonical = true)
    (haccepted : Registry.standard.validate key j = .ok ())
    (hkey : resultStatus? key = some status) :
    ∃ m, (StatusReport.decoder .json).fromValue j = .ok m ∧ ∀ t, m.status = status →
      w.ledger.task? m.taskId = some t → t.type = m.taskType →
        ((∃ u v, Applied w key j m u v) ↔ ¬m.Positional) ∧
        (m.Positional → (Report.status m).run.run w = (.ok none, w)) ∧
        (process .standard key payload).run.run w =
          (.ok (), ((Report.status m).run.run w).2) := by
  obtain ⟨m, hm, hbrings⟩ := brings_of_accepted (isCanonical_of_read? hj hread) hkey haccepted
  have hhandler : Handler.ofKey? key = some .tasks ∧ isReport key = true := by
    cases key <;> cases hkey <;> exact ⟨rfl, rfl⟩
  refine ⟨m, hm, fun t hstatus ht htype => ?_⟩
  subst hstatus
  obtain ⟨hunknown, -⟩ := content_of_brings hbrings hkey
  have hdropped : m.Positional → (Report.status m).run.run w = (.ok none, w) := by
    intro hpos
    rcases status_run hw.consistent m with ⟨hsame, -⟩ | ⟨_, _, _, -, -, hknown, -⟩
    · have hnone := (status_dropped_iff hw.consistent m).2 (Or.inr (Or.inr (hunknown.2 hpos)))
      exact Prod.ext hnone hsame
    · exact absurd (hunknown.2 hpos) hknown
  have happlied : ¬m.Positional → ∃ u v, Applied w key j m u v := fun hnot =>
    applied_of_brings hw.consistent hbrings hkey hnot ht htype
  refine ⟨⟨fun ⟨u, v, h⟩ hpos => ?_, happlied⟩, hdropped, ?_⟩
  · have hrun := h.run
    rw [hdropped hpos] at hrun
    cases hrun
  · rw [process_of_accepted hhandler.1 hread haccepted, Action.run_mapError_run,
      handle_report hhandler.2, handling_of_ok hm]
    by_cases hpos : m.Positional
    · rw [hdropped hpos]
    · obtain ⟨u, v, h⟩ := happlied hpos
      rw [h.run]

namespace Sample

def boiler : ManagedObject := .sensor ⟨"100", "Boiler", some "c8y_Power", none⟩

/-- A report that the task has found some objects, with them under their key or at their place. -/
def foundReport (body : Json) : StatusReport Json :=
  ⟨syncing.id, .objectSync, .processing, none, none, none, some body⟩

def found (body : Json) : Json := StatusReport.toJson id (foundReport body)

def inObject : Json := ManagedObject.listToJson [boiler]

def inArray : Json := .array [ofList ManagedObject.toJson [boiler]]

end Sample

/-- Objects in an array are accepted and consumed, but neither they nor their task are noticed. -/
theorem found_in_array_dropped :
    Sample.world.Reachable ∧ resultStatus? .taskStatusObjectSync = some .processing ∧
      Registry.standard.validate .taskStatusObjectSync (Sample.found Sample.inArray) = .ok () ∧
      ∃ m t, (StatusReport.decoder .json).fromValue (Sample.found Sample.inArray) = .ok m ∧
        m.status = .processing ∧ Sample.world.ledger.task? m.taskId = some t ∧
        t.type = m.taskType ∧ (Report.status m).run.run Sample.world = (.ok none, Sample.world) ∧
        (process .standard .taskStatusObjectSync
          (.document (Sample.found Sample.inArray))).run.run Sample.world =
            (.ok (), Sample.world) :=
  ⟨Sample.world_reachable, rfl, by decide +kernel, Sample.foundReport Sample.inArray,
    Sample.syncing, rfl, rfl, rfl, rfl, rfl, rfl⟩

/-- The same objects under their key are taken over, and their task is patched. -/
theorem found_in_object_applied :
    ∃ m u v, (StatusReport.decoder .json).fromValue (Sample.found Sample.inObject) = .ok m ∧
      Applied Sample.world .taskStatusObjectSync (Sample.found Sample.inObject) m u v := by
  have hj : (Sample.found Sample.inObject).isCanonical = true := by decide +kernel
  have hread : (Payload.document (Sample.found Sample.inObject)).read? =
      some (Sample.found Sample.inObject) := rfl
  have haccepted : Registry.standard.validate .taskStatusObjectSync
      (Sample.found Sample.inObject) = .ok () := by
    decide +kernel
  obtain ⟨m, hm, hfate⟩ := accepted_result_fate Sample.world_reachable hread
    (fun d hd => by cases hd; exact hj) haccepted rfl
  have hdecoded : (StatusReport.decoder .json).fromValue (Sample.found Sample.inObject) =
      .ok (Sample.foundReport Sample.inObject) := rfl
  obtain rfl := Except.ok.inj (hm.symm.trans hdecoded)
  obtain ⟨u, v, happlied⟩ := (hfate Sample.syncing rfl rfl rfl).1.2 fun h => by
    obtain ⟨items, hitems⟩ := h.array
    cases hitems
  exact ⟨_, u, v, hm, happlied⟩

end Inbox

end SensorTasks

import SensorTasks.Message.Registry

/-!
What it takes to be accepted. A document is accepted if one of the alternatives of its key decodes
it to a message that passes all checks.
-/

namespace SensorTasks.Message

open Json

/-! ### Checks -/

/-- Of two checks, one after the other, both have to pass. -/
theorem check_then_eq_ok {first next : Check} :
    (match first with
      | .error e => Except.error e
      | .ok () => next) = .ok () ↔ first = .ok () ∧ next = .ok () := by
  cases first <;> simp

theorem ScheduledEntry.check_eq_ok {e : ScheduledEntry} :
    e.check = .ok () ↔ e.dataId ≠ "" ∧ e.fileName ≠ "" := by
  refine check_then_eq_ok.trans ?_
  simp [require_eq_ok]

theorem ScheduledFetch.check_eq_ok {w : ScheduledFetch} :
    w.check = .ok () ↔ (∀ stop ∈ w.dateTo, stop.before w.dateFrom = false) ∧
      ∀ e ∈ w.data, e.check = .ok () := by
  refine check_then_eq_ok.trans ?_
  rw [require_eq_ok, checkEach_eq_ok]
  cases w.dateTo <;> simp

theorem ScheduledUploadFile.check_eq_ok {f : ScheduledUploadFile} :
    f.check = .ok () ↔ Text.isBlankText f.metadata.valueFragmentDescription = false := by
  simp [check, require_eq_ok]

theorem ScheduledUpload.check_eq_ok {w : ScheduledUpload} :
    w.check = .ok () ↔ w.platform.identifier ≠ "" ∧ ∀ f ∈ w.files, f.check = .ok () := by
  refine check_then_eq_ok.trans ?_
  simp [require_eq_ok, checkEach_eq_ok]

theorem Scheduled.check_eq_ok {α : Type} {checkPayload : α → Check} {m : Scheduled α} :
    m.check checkPayload = .ok () ↔ Text.isBlankText m.taskName = false ∧
      (∀ r ∈ m.recurrence, Text.isBlankText r.pattern = false) ∧
        checkPayload m.payload = .ok () := by
  refine check_then_eq_ok.trans (and_congr ?_ (check_then_eq_ok.trans (and_congr_left' ?_)))
  · simp [require_eq_ok]
  · rw [require_eq_ok]
    cases m.recurrence <;> simp

/-! ### Alternatives -/

theorem refusals_eq_none {j : Json} {schema : Schema} :
    refusals j schema = none ↔ ∃ a ∈ schema, a.check j = .ok () := by
  induction schema with
  | nil => simp [refusals]
  | cons a schema ih =>
    simp only [refusals, List.mem_cons, exists_eq_or_imp]
    cases a.check j with
    | ok u => simp
    | error e => simp [ih]

/-- A document is accepted if one of the alternatives of its key accepts it. -/
theorem validate_standard {key : RoutingKey} {j : Json} :
    Registry.standard.validate key j = .ok () ↔ ∃ a ∈ standardSchema key, a.check j = .ok () := by
  rw [← refusals_eq_none]
  unfold Registry.validate Registry.standard Schema.check
  dsimp only
  split <;> simp_all

theorem shape_eq_ok {α : Type} {d : Decoder α} {check : α → Check} {j : Json} {a : α} :
    shape d check j = .ok a ↔ d.fromValue j = .ok a ∧ check a = .ok () := by
  unfold shape
  cases d.fromValue j with
  | error e => simp
  | ok b =>
    simp only [Except.ok.injEq]
    constructor
    · intro h
      cases hb : check b with
      | error e => simp [hb] at h
      | ok u =>
        obtain rfl : b = a := by simpa [hb] using h
        exact ⟨rfl, hb⟩
    · rintro ⟨rfl, h⟩
      simp [h]

theorem typed_eq_ok {α : Type} {d : Decoder α} {check : α → Check} {j : Json} :
    typed d check j = .ok () ↔ ∃ a, d.fromValue j = .ok a ∧ check a = .ok () := by
  simp only [← shape_eq_ok]
  unfold typed
  cases shape d check j <;> simp [Except.map]

theorem scheduled_eq_ok {α : Type} {d : Decoder α} {check : α → Check} {type : TaskType}
    {j : Json} : scheduled d check type j = .ok () ↔
      ∃ m, (Scheduled.decoder d).fromValue j = .ok m ∧ m.check check = .ok () ∧
        m.taskType = type := by
  simp only [← and_assoc, ← shape_eq_ok]
  unfold scheduled
  cases shape (Scheduled.decoder d) (Scheduled.check check) j with
  | error e => simp
  | ok m => simp [requireType, require_eq_ok]

theorem reportWith_eq_ok {α : Type} {d : Decoder α} {check : α → Check} {type : TaskType}
    {missing : String} {j : Json} : reportWith d check type missing j = .ok () ↔
      ∃ m, (StatusReport.decoder d).fromValue j = .ok m ∧ m.check check = .ok () ∧
        m.taskType = type ∧ ∃ a, m.payload = some a := by
  simp only [← and_assoc, ← shape_eq_ok]
  unfold reportWith
  cases shape (StatusReport.decoder d) (StatusReport.check check) j with
  | error e => simp
  | ok m =>
    refine check_then_eq_ok.trans ?_
    simp [requireType, require_eq_ok, Option.isSome_iff_exists, and_assoc]

/-- A report whose payload nobody looks into. -/
theorem StatusReport.check_noCheck {α : Type} (m : StatusReport α) :
    m.check noCheck = .ok () := by
  unfold check
  cases m.payload <;> rfl

theorem shape_noCheck {j : Json} {m : StatusReport Json} :
    shape (StatusReport.decoder .json) (StatusReport.check noCheck) j = .ok m ↔
      (StatusReport.decoder .json).fromValue j = .ok m := by
  rw [shape_eq_ok, and_iff_left m.check_noCheck]

theorem uploadDone_eq_ok {j : Json} : uploadDone j = .ok () ↔
    ∃ m, (StatusReport.decoder .json).fromValue j = .ok m ∧ m.taskType = .dataUpload ∧
      m.status = .done := by
  simp only [← shape_noCheck]
  unfold uploadDone
  cases shape (StatusReport.decoder .json) (StatusReport.check noCheck) j with
  | error e => simp
  | ok m =>
    refine check_then_eq_ok.trans ?_
    simp [requireType, require_eq_ok]

theorem plainReport_eq_ok {j : Json} : plainReport j = .ok () ↔
    ∃ m, (StatusReport.decoder .json).fromValue j = .ok m ∧ m.payload = none := by
  simp only [← shape_noCheck]
  unfold plainReport
  cases shape (StatusReport.decoder .json) (StatusReport.check noCheck) j with
  | error e => simp
  | ok m => simp [require_eq_ok]

end SensorTasks.Message

import SensorTasks.Json.Basic

/-!
Checks that a message has to pass besides being decoded. The first one that fails gives the reason.
-/

namespace SensorTasks.Message

abbrev Check := Except String Unit

def require (holds : Bool) (reason : String) : Check :=
  if holds then .ok () else .error reason

/-- Every element of a list passes. -/
def checkEach {α : Type} (check : α → Check) : List α → Check
  | [] => .ok ()
  | a :: as =>
    match check a with
    | .error e => .error e
    | .ok () => checkEach check as

theorem require_eq_ok {holds : Bool} {reason : String} :
    require holds reason = .ok () ↔ holds = true := by
  cases holds <;> simp [require]

theorem checkEach_eq_ok {α : Type} {check : α → Check} {as : List α} :
    checkEach check as = .ok () ↔ ∀ a ∈ as, check a = .ok () := by
  induction as with
  | nil => simp [checkEach]
  | cons a as ih =>
    simp only [checkEach, List.mem_cons, forall_eq_or_imp]
    cases h : check a with
    | error e => simp
    | ok u => simp [ih]

end SensorTasks.Message

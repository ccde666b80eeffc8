import SensorTasks.Json.Basic

/-!
Encoding. Objects are built from lists of members, in any order; a member that is optional is left
out when there is nothing to say.
-/

namespace SensorTasks.Json

def ofList {α : Type} (encode : α → Json) (as : List α) : Json :=
  .array (as.map encode)

def ofOption {α : Type} (encode : α → Json) : Option α → Json
  | some a => encode a
  | none => .null

/-- A member that is there if it has a value. -/
def optional {α : Type} (key : String) (encode : α → Json) : Option α → List (String × Json)
  | some a => [(key, encode a)]
  | none => []

end SensorTasks.Json

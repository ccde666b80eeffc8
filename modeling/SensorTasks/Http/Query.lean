import SensorTasks.Task.Search
import SensorTasks.Text.Percent
import SensorTasks.Text.Numeral

/-!
Searches in the query of a request. Every field may occur once, and what it holds is text that has
to be of the type of the field; other names are passed over.
-/

namespace SensorTasks.Http

namespace Form

/-- The value of a field, if it occurs; nothing if it occurs twice or is not of its type. -/
def field {α : Type} (pairs : List (String × String)) (name : String) (read : String → Option α) :
    Option (Option α) :=
  match pairs.filter fun p => p.1 == name with
  | [] => some none
  | [(_, value)] => (read value).map some
  | _ => none

def choice {α : Type} (variants : List (String × α)) (value : String) : Option α :=
  variants.lookup value

def natural (value : String) : Option Nat := Text.natural? UInt64.size value.toList

def boolean : String → Option Bool
  | "true" => some true
  | "false" => some false
  | _ => none

end Form

open Form in
/-- The search that the fields of a form stand for. -/
def searchOf? (pairs : List (String × String)) : Option TaskQuery := do
  return {
    name := ← field pairs "name" some
    taskType := ← field pairs "taskType" (choice TaskType.variants)
    status := ← field pairs "status" (choice TaskStatus.variants)
    mode := ← field pairs "mode" (choice TaskMode.variants)
    initiatedByUser := ← field pairs "initiatedByUser" some
    pageSize := ← field pairs "pageSize" natural
    currentPage := ← field pairs "currentPage" natural
    sortBy := ← field pairs "sortBy" (choice SortField.variants)
    descending := (← field pairs "sortDescending" boolean).getD false
    withTotal := (← field pairs "withTotalCount" boolean).getD false }

end SensorTasks.Http

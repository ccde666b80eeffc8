import SensorTasks.Json.Basic

/-! The texts in a value: its strings, and the keys of its objects. -/

namespace SensorTasks.Json

mutual

/-- All texts of a value in the order in which they are printed. -/
def texts : Json → List String
  | .string s => [s]
  | .array items => itemTexts items
  | .object members => memberTexts members
  | _ => []

def itemTexts : List Json → List String
  | [] => []
  | j :: items => j.texts ++ itemTexts items

def memberTexts : List (String × Json) → List String
  | [] => []
  | (k, j) :: members => k :: j.texts ++ memberTexts members

end

mutual

/-- The value with every string replaced, and all keys as they are. -/
def mapTexts (f : String → String) : Json → Json
  | .string s => .string (f s)
  | .array items => .array (mapItemTexts f items)
  | .object members => .object (mapMemberTexts f members)
  | j => j

def mapItemTexts (f : String → String) : List Json → List Json
  | [] => []
  | j :: items => j.mapTexts f :: mapItemTexts f items

def mapMemberTexts (f : String → String) : List (String × Json) → List (String × Json)
  | [] => []
  | (k, j) :: members => (k, j.mapTexts f) :: mapMemberTexts f members

end

end SensorTasks.Json

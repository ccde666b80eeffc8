import SensorTasks.Json.Basic

/-!
What a reader meets when it walks through a JSON document: members in the order of the document
and as often as they occur there, and in a text that stops being JSON the place where it does. A
value is a tree without faults, so whatever reads trees reads values and texts alike.
-/

namespace SensorTasks.Json

inductive Tree where
  | null
  | bool (b : Bool)
  | number (n : Number)
  | string (s : String)
  | array (items : List Tree)
  | object (members : List (String × Tree))
  /-- From here on the text is not JSON. -/
  | fault
  /-- Well formed, but nothing that has a value: it can be passed over only. -/
  | skipOnly (t : Tree)

mutual

/-- A value as a document. -/
def tree : Json → Tree
  | .null => .null
  | .bool b => .bool b
  | .number n => .number n
  | .string s => .string s
  | .array items => .array (treeItems items)
  | .object members => .object (treeMembers members)

def treeItems : List Json → List Tree
  | [] => []
  | j :: items => j.tree :: treeItems items

def treeMembers : List (String × Json) → List (String × Tree)
  | [] => []
  | (k, j) :: members => (k, j.tree) :: treeMembers members

end

namespace Tree

mutual

/-- The value of a document, with all its members; nothing if it has none. -/
def read? : Tree → Option Json
  | .null => some .null
  | .bool b => some (.bool b)
  | .number n => some (.number n)
  | .string s => some (.string s)
  | .array items => (readItems? items).map .array
  | .object members => (readMembers? members).map .object
  | .fault => none
  | .skipOnly _ => none

def readItems? : List Tree → Option (List Json)
  | [] => some []
  | t :: items =>
    match t.read? with
    | some j => (readItems? items).map (j :: ·)
    | none => none

def readMembers? : List (String × Tree) → Option (List (String × Json))
  | [] => some []
  | (k, t) :: members =>
    match t.read? with
    | some j => (readMembers? members).map ((k, j) :: ·)
    | none => none

end

mutual

/-- The document can be passed over: it is JSON to its end. -/
def isWhole : Tree → Bool
  | .array items => itemsWhole items
  | .object members => membersWhole members
  | .fault => false
  | .skipOnly t => t.isWhole
  | _ => true

def itemsWhole : List Tree → Bool
  | [] => true
  | t :: items => t.isWhole && itemsWhole items

def membersWhole : List (String × Tree) → Bool
  | [] => true
  | (_, t) :: members => t.isWhole && membersWhole members

end

mutual

@[simp] theorem read?_tree : (j : Json) → j.tree.read? = some j
  | .null | .bool _ | .number _ | .string _ => rfl
  | .array items => by simp [Json.tree, read?, readItems?_treeItems items]
  | .object members => by simp [Json.tree, read?, readMembers?_treeMembers members]

@[simp] theorem readItems?_treeItems : (items : List Json) →
    readItems? (treeItems items) = some items
  | [] => rfl
  | j :: items => by simp [treeItems, readItems?, read?_tree j, readItems?_treeItems items]

@[simp] theorem readMembers?_treeMembers : (members : List (String × Json)) →
    readMembers? (treeMembers members) = some members
  | [] => rfl
  | (_, j) :: members => by
    simp [treeMembers, readMembers?, read?_tree j, readMembers?_treeMembers members]

end

mutual

@[simp] theorem isWhole_tree : (j : Json) → j.tree.isWhole = true
  | .null | .bool _ | .number _ | .string _ => rfl
  | .array items => by simp [Json.tree, isWhole, itemsWhole_treeItems items]
  | .object members => by simp [Json.tree, isWhole, membersWhole_treeMembers members]

@[simp] theorem itemsWhole_treeItems : (items : List Json) → itemsWhole (treeItems items) = true
  | [] => rfl
  | j :: items => by simp [treeItems, itemsWhole, isWhole_tree j, itemsWhole_treeItems items]

@[simp] theorem membersWhole_treeMembers : (members : List (String × Json)) →
    membersWhole (treeMembers members) = true
  | [] => rfl
  | (_, j) :: members => by
    simp [treeMembers, membersWhole, isWhole_tree j, membersWhole_treeMembers members]

end

mutual

/-- How many arrays and objects stand inside each other. -/
def depth : Tree → Nat
  | .array items => itemsDepth items + 1
  | .object members => membersDepth members + 1
  | _ => 0

def itemsDepth : List Tree → Nat
  | [] => 0
  | t :: items => max t.depth (itemsDepth items)

def membersDepth : List (String × Tree) → Nat
  | [] => 0
  | (_, t) :: members => max t.depth (membersDepth members)

end

end Tree

end SensorTasks.Json

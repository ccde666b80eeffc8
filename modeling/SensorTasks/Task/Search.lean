import SensorTasks.Task.Codec

/-!
Searching tasks: a filter, an order and a page. Ties in the order are broken by the id, so that
different tasks never compare as equal.
-/

namespace SensorTasks

open Json

/-- What a task has to be; nothing in a field leaves it open. -/
structure TaskFilter where
  name : Option String := none
  taskType : Option TaskType := none
  status : Option TaskStatus := none
  mode : Option TaskMode := none
  initiatedByUser : Option UserId := none
  deriving DecidableEq

inductive SortField where
  | byName
  | byCreation
  | byStatus
  deriving DecidableEq

structure Paging where
  pageSize : Nat := 10
  /-- Counted from one. -/
  currentPage : Nat := 1
  sortBy : SortField := .byCreation
  descending : Bool := false
  withTotal : Bool := false
  deriving DecidableEq

structure PageInfo where
  currentPage : Nat
  pageSize : Nat
  totalItems : Option Nat
  totalPages : Option Nat
  deriving DecidableEq

structure Page (α : Type) where
  data : List α
  info : PageInfo

/-- The search that a client asks for. -/
structure TaskQuery where
  name : Option String
  taskType : Option TaskType
  status : Option TaskStatus
  mode : Option TaskMode
  initiatedByUser : Option UserId
  pageSize : Option Nat
  currentPage : Option Nat
  sortBy : Option SortField
  descending : Bool
  withTotal : Bool
  deriving DecidableEq

/-! ### Filters -/

/-- The wanted value, if there is one, is the actual one. -/
def agrees {α : Type} [DecidableEq α] (wanted : Option α) (actual : α) : Bool :=
  match wanted with
  | some a => decide (actual = a)
  | none => true

def TaskFilter.accepts (f : TaskFilter) (t : Task) : Bool :=
  agrees f.name t.name && agrees f.taskType t.type && agrees f.status t.status &&
    agrees f.mode t.mode && agrees f.initiatedByUser t.initiatedByUser

/-! ### Order and pages -/

namespace Paging

def largestPage : Nat := 100

def limit (p : Paging) : Nat := max 1 (min p.pageSize largestPage)

/-- How many items stand before the page. The number is exact: pages that are so far on that it has
more than 64 bits are not meant. -/
def skip (p : Paging) : Nat := (p.currentPage - 1) * p.limit

def compareBy (field : SortField) (a b : Task) : Ordering :=
  match field with
  | .byName => compare a.name b.name
  | .byCreation => a.createdAt.compare b.createdAt
  | .byStatus => compare a.status.name b.status.name

def compareAscending (field : SortField) (a b : Task) : Ordering :=
  (compareBy field a b).then (compare a.id b.id)

protected def compare (p : Paging) (a b : Task) : Ordering :=
  if p.descending then (compareAscending p.sortBy a b).swap else compareAscending p.sortBy a b

/-- The tasks in the order of the paging; those that compare as equal stay as they are. -/
def sort (p : Paging) (tasks : List Task) : List Task :=
  tasks.mergeSort fun a b => (p.compare a b).isLE

end Paging

/-- The page of items that are sorted already. -/
def Page.ofSorted {α : Type} (items : List α) (p : Paging) : Page α where
  data := (items.drop p.skip).take p.limit
  info :=
    { currentPage := max 1 p.currentPage
      pageSize := p.limit
      totalItems := if p.withTotal then some items.length else none
      totalPages := if p.withTotal then some ((items.length + p.limit - 1) / p.limit) else none }

namespace TaskQuery

def filter (q : TaskQuery) : TaskFilter :=
  ⟨q.name, q.taskType, q.status, q.mode, q.initiatedByUser⟩

def paging (q : TaskQuery) : Paging where
  pageSize := q.pageSize.getD 10
  currentPage := q.currentPage.getD 1
  sortBy := q.sortBy.getD .byCreation
  descending := q.descending
  withTotal := q.withTotal

end TaskQuery

/-! ### As JSON -/

namespace SortField

def name : SortField → String
  | .byName => "name"
  | .byCreation => "createdAt"
  | .byStatus => "status"

def toJson (f : SortField) : Json := .string f.name

def variants : List (String × SortField) :=
  [SortField.byName, SortField.byCreation, SortField.byStatus].map fun f => (f.name, f)

def decoder : Decoder SortField := .choice variants

instance : Codec SortField := ⟨decoder, toJson⟩

end SortField

namespace PageInfo

def toJson (i : PageInfo) : Json :=
  .ofMembers ([("currentPage", .ofNat i.currentPage), ("pageSize", .ofNat i.pageSize)] ++
    optional "totalItems" .ofNat i.totalItems ++ optional "totalPages" .ofNat i.totalPages)

def fields : Fields PageInfo :=
  PageInfo.mk <$> .required "currentPage" .natural
    <*> .required "pageSize" .natural
    <*> .optional "totalItems" .natural
    <*> .optional "totalPages" .natural

def decoder : Decoder PageInfo := fields.decode "struct PageInfo"

instance : Codec PageInfo := ⟨decoder, toJson⟩

end PageInfo

def Page.toJson {α : Type} (encode : α → Json) (p : Page α) : Json :=
  .ofMembers [("data", ofList encode p.data), ("pageInfo", p.info.toJson)]

namespace TaskQuery

def fields : Fields TaskQuery :=
  TaskQuery.mk <$> .optionalMember "name" .string
    <*> .optionalMember "taskType" TaskType.decoder
    <*> .optionalMember "status" TaskStatus.decoder
    <*> .optionalMember "mode" TaskMode.decoder
    <*> .optionalMember "initiatedByUser" .string
    <*> .optionalMember "pageSize" .natural
    <*> .optionalMember "currentPage" .natural
    <*> .optionalMember "sortBy" SortField.decoder
    <*> .withDefault "sortDescending" .boolean false
    <*> .withDefault "withTotalCount" .boolean false

def decoder : Decoder TaskQuery := fields.decode "struct TaskSearchQuery"

end TaskQuery

end SensorTasks

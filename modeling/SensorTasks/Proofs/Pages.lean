import Mathlib.Algebra.Order.Floor.Div
import SensorTasks.Proofs.Naming

/-!
The pages of a search. Tasks are compared by a field, and by their ids where the field does not tell
them apart. As no two stored tasks have the same id, any two of them come in a definite order, so
that there is only one way to list the tasks that a filter leaves. The pages are the pieces of that
list: put one after the other they give it back, whatever the size of a page. Positions in the list
are natural numbers here, without a largest one, and so are the numbers of pages.
-/

namespace SensorTasks

/-! ### The order of tasks -/

theorem Instant.compare_eq :
    Instant.compare = compareLex (compareOn (·.second)) (compareOn (·.nano)) := by
  funext a b
  simp only [Instant.compare, Instant.before, compareLex, compareOn, Bool.or_eq_true,
    Bool.and_eq_true, decide_eq_true_eq, beq_iff_eq]
  rcases lt_trichotomy a.second b.second with hs | hs | hs
  · simp [hs, compare_lt_iff_lt.2 hs]
  · rcases lt_trichotomy a.nano b.nano with hn | hn | hn
    · simp [hs, hn, compare_lt_iff_lt.2 hn]
    · simp [hs, hn]
    · simp [hs, hn, compare_gt_iff_gt.2 hn, hn.not_gt]
  · simp [hs, compare_gt_iff_gt.2 hs, hs.not_gt, hs.ne, hs.ne']

instance : Std.TransCmp Instant.compare := by
  rw [Instant.compare_eq]
  infer_instance

namespace SortField

/-- The first task comes before the second one by the field. -/
def Before : SortField → Task → Task → Prop
  | .byName, a, b => a.name < b.name
  | .byCreation, a, b => a.createdAt.before b.createdAt = true
  | .byStatus, a, b => a.status.name < b.status.name

/-- The first task comes before the second one by the field, or by its id if the field does not tell
them apart. -/
def Precedes (field : SortField) (a b : Task) : Prop :=
  field.Before a b ∨ ¬field.Before b a ∧ a.id < b.id

/-- The first task stands before the second one in an ascending or a descending list. -/
def InOrder (field : SortField) (descending : Bool) (a b : Task) : Prop :=
  if descending then field.Precedes b a else field.Precedes a b

instance (field : SortField) (a b : Task) : Decidable (field.Before a b) :=
  match field with
  | .byName => inferInstanceAs (Decidable (a.name < b.name))
  | .byCreation => inferInstanceAs (Decidable (a.createdAt.before b.createdAt = true))
  | .byStatus => inferInstanceAs (Decidable (a.status.name < b.status.name))

instance (field : SortField) (a b : Task) : Decidable (field.Precedes a b) :=
  inferInstanceAs (Decidable (_ ∨ _))

instance (field : SortField) (descending : Bool) (a b : Task) :
    Decidable (field.InOrder descending a b) :=
  inferInstanceAs (Decidable (if descending then _ else _))

end SortField

namespace Paging

instance (field : SortField) : Std.TransCmp (compareBy field) where
  eq_swap {a b} := by
    cases field with
    | byName => exact Std.OrientedOrd.eq_swap
    | byCreation => exact @Std.OrientedCmp.eq_swap _ Instant.compare _ _ _
    | byStatus => exact Std.OrientedOrd.eq_swap
  isLE_trans {a b c} hab hbc := by
    cases field with
    | byName => exact Std.TransOrd.isLE_trans hab hbc
    | byCreation => exact @Std.TransCmp.isLE_trans _ Instant.compare _ _ _ _ hab hbc
    | byStatus => exact Std.TransOrd.isLE_trans hab hbc

theorem compareAscending_eq (field : SortField) :
    compareAscending field = compareLex (compareBy field) (compareOn (·.id)) := rfl

instance (field : SortField) : Std.TransCmp (compareAscending field) := by
  rw [compareAscending_eq]
  infer_instance

theorem compareBy_eq_lt {field : SortField} {a b : Task} :
    compareBy field a b = .lt ↔ field.Before a b := by
  cases field with
  | byName => exact compareOfLessAndEq_eq_lt
  | byCreation =>
    simp only [compareBy, Instant.compare, SortField.Before]
    split
    · simp [*]
    · split <;> simp [*]
  | byStatus => exact compareOfLessAndEq_eq_lt

theorem compareBy_eq_eq {field : SortField} {a b : Task} :
    compareBy field a b = .eq ↔ ¬field.Before a b ∧ ¬field.Before b a := by
  have hgt : compareBy field b a = .lt ↔ compareBy field a b = .gt :=
    Std.OrientedCmp.gt_iff_lt.symm
  rw [← compareBy_eq_lt, ← compareBy_eq_lt, hgt]
  cases compareBy field a b <;> simp

theorem compareAscending_eq_lt {field : SortField} {a b : Task} :
    compareAscending field a b = .lt ↔ field.Precedes a b := by
  have hid : compare a.id b.id = .lt ↔ a.id < b.id := compareOfLessAndEq_eq_lt
  rw [compareAscending, Ordering.then_eq_lt, compareBy_eq_lt, compareBy_eq_eq, hid,
    SortField.Precedes]
  tauto

theorem compare_eq (p : Paging) :
    p.compare = fun a b =>
      if p.descending then compareAscending p.sortBy b a else compareAscending p.sortBy a b := by
  funext a b
  unfold Paging.compare
  split
  · exact Std.OrientedCmp.eq_swap.symm
  · rfl

instance (p : Paging) : Std.TransCmp p.compare := by
  rw [compare_eq]
  cases p.descending with
  | true => exact @Std.TransCmp.opposite _ (compareAscending p.sortBy) _
  | false => exact inferInstanceAs (Std.TransCmp (compareAscending p.sortBy))

theorem compare_eq_lt {p : Paging} {a b : Task} :
    p.compare a b = .lt ↔ p.sortBy.InOrder p.descending a b := by
  rw [compare_eq, SortField.InOrder]
  dsimp only
  split <;> exact compareAscending_eq_lt

theorem not_inOrder_swap {field : SortField} {descending : Bool} {a b : Task}
    (h : field.InOrder descending a b) : ¬field.InOrder descending b a := by
  intro h'
  let p : Paging := { sortBy := field, descending := descending }
  have hlt : p.compare a b = .lt := compare_eq_lt.2 h
  have hgt : p.compare a b = .gt := Std.OrientedCmp.gt_iff_lt.2 (compare_eq_lt.2 h')
  rw [hlt] at hgt
  cases hgt

/-- Tasks that compare as equal have the same id. -/
theorem id_eq_of_compare {p : Paging} {a b : Task} (h : p.compare a b = .eq) : a.id = b.id := by
  have hasc : compareAscending p.sortBy a b = .eq := by
    unfold Paging.compare at h
    split at h
    · exact Ordering.swap_eq_eq.1 h
    · exact h
  exact Std.LawfulEqOrd.eq_of_compare (Ordering.then_eq_eq.1 hasc).2

end Paging

/-! ### The list of the tasks that a filter leaves -/

/-- Every field that the filter has is that of the task. -/
structure TaskFilter.Fits (f : TaskFilter) (t : Task) : Prop where
  name : ∀ name ∈ f.name, t.name = name
  taskType : ∀ type ∈ f.taskType, t.type = type
  status : ∀ status ∈ f.status, t.status = status
  mode : ∀ mode ∈ f.mode, t.mode = mode
  initiatedByUser : ∀ user ∈ f.initiatedByUser, t.initiatedByUser = user

theorem agrees_eq_true {α : Type} [DecidableEq α] {wanted : Option α} {actual : α} :
    agrees wanted actual = true ↔ ∀ a ∈ wanted, actual = a := by
  cases wanted <;> simp [agrees]

theorem TaskFilter.accepts_iff {f : TaskFilter} {t : Task} : f.accepts t = true ↔ f.Fits t := by
  simp only [accepts, Bool.and_eq_true, agrees_eq_true]
  constructor
  · rintro ⟨⟨⟨⟨hname, htype⟩, hstatus⟩, hmode⟩, huser⟩
    exact ⟨hname, htype, hstatus, hmode, huser⟩
  · rintro ⟨hname, htype, hstatus, hmode, huser⟩
    exact ⟨⟨⟨⟨hname, htype⟩, hstatus⟩, hmode⟩, huser⟩

namespace Ledger

/-- All stored tasks that fit the filter, each of them once, in order. -/
structure Lists (l : Ledger) (f : TaskFilter) (field : SortField) (descending : Bool)
    (all : List Task) : Prop where
  mem : ∀ t, t ∈ all ↔ l.task? t.id = some t ∧ f.Fits t
  nodup : all.Nodup
  inOrder : all.Pairwise (field.InOrder descending)

variable {l : Ledger} {f : TaskFilter} {field : SortField} {descending : Bool}
  {all other : List Task}

theorem Lists.reverse (h : l.Lists f field descending all) :
    l.Lists f field (!descending) all.reverse where
  mem t := by rw [List.mem_reverse, h.mem]
  nodup := List.nodup_reverse.2 h.nodup
  inOrder := by
    rw [List.pairwise_reverse]
    refine h.inOrder.imp fun {a b} hab => ?_
    cases descending <;> exact hab

/-- There is only one such list. -/
theorem Lists.unique (h : l.Lists f field descending all)
    (h' : l.Lists f field descending other) : other = all := by
  have hperm : other.Perm all :=
    (List.perm_ext_iff_of_nodup h'.nodup h.nodup).2 fun t => by rw [h'.mem, h.mem]
  exact hperm.eq_of_pairwise
    (fun a b _ _ hab hba => absurd hba (Paging.not_inOrder_swap hab)) h'.inOrder h.inOrder

theorem Indexed.lists_sort (h : l.Indexed) (f : TaskFilter) (p : Paging) :
    l.Lists f p.sortBy p.descending (p.sort (l.tasks.values.filter f.accepts)) := by
  have hperm := List.mergeSort_perm (l.tasks.values.filter f.accepts)
    fun a b => (p.compare a b).isLE
  have hmem : ∀ t, t ∈ p.sort (l.tasks.values.filter f.accepts) ↔
      l.task? t.id = some t ∧ f.Fits t := by
    intro t
    rw [Paging.sort, hperm.mem_iff, List.mem_filter, TaskFilter.accepts_iff, h.tasks.mem_values]
    rfl
  have hnodup := hperm.nodup_iff.2 (h.tasks.nodup_values.filter f.accepts)
  refine ⟨hmem, hnodup, ?_⟩
  have hsorted : (p.sort (l.tasks.values.filter f.accepts)).Pairwise
      fun a b => (p.compare a b).isLE = true :=
    List.pairwise_mergeSort (fun _ _ _ => Std.TransCmp.isLE_trans)
      (fun a b => by
        rw [@Std.OrientedCmp.eq_swap _ p.compare _ b a]
        cases p.compare a b <;> rfl) _
  refine (hsorted.and hnodup).imp_of_mem fun {a b} ha hb ⟨hle, hne⟩ => ?_
  rcases Ordering.isLE_iff_eq_lt_or_eq_eq.1 hle with hlt | heq
  · exact Paging.compare_eq_lt.1 hlt
  · -- two stored tasks with the same id are the same
    have hsame := ((hmem a).1 ha).1
    rw [Paging.id_eq_of_compare heq, ((hmem b).1 hb).1] at hsame
    exact absurd (Option.some.inj hsame).symm hne

end Ledger

/-! ### Pages -/

namespace Paging

theorem limit_pos (p : Paging) : 0 < p.limit := Nat.le_max_left 1 _

end Paging

section

variable {α : Type}

/-- The first pages, put one after the other. -/
theorem flatten_pages (items : List α) (limit pages : Nat) :
    ((List.range pages).map fun i => (items.drop (i * limit)).take limit).flatten =
      items.take (pages * limit) := by
  induction pages with
  | zero => simp
  | succ pages ih =>
    rw [List.range_succ, List.map_append, List.flatten_append, ih, Nat.succ_mul, List.take_add]
    simp

end

/-- A page of the search for the tasks that a filter leaves. -/
def World.page (w : World) (f : TaskFilter) (p : Paging) (number : Nat) : Page Task :=
  ((Command.searchTasks f { p with currentPage := number }).run w).1

/-- The pages of a search show a list piece by piece, and tell how long it is if they are asked. -/
structure World.Shows (w : World) (f : TaskFilter) (p : Paging) (all : List Task) : Prop where
  unchanged : ∀ number, ((Command.searchTasks f { p with currentPage := number }).run w).2 = w
  limit : p.limit = min (max p.pageSize 1) 100
  slice : ∀ number, 1 ≤ number →
    (w.page f p number).data = (all.drop ((number - 1) * p.limit)).take p.limit
  zero : w.page f p 0 = w.page f p 1
  whole : ((List.range (all.length ⌈/⌉ p.limit)).map fun i => (w.page f p (i + 1)).data).flatten =
    all
  later : ∀ number, all.length ⌈/⌉ p.limit < number → (w.page f p number).data = []
  info : ∀ number, (w.page f p number).info =
    { currentPage := max 1 number
      pageSize := p.limit
      totalItems := if p.withTotal then some all.length else none
      totalPages := if p.withTotal then some (all.length ⌈/⌉ p.limit) else none }

/-- There is one list of the stored tasks that fit a filter, in the order of the paging. Read
backwards it is the one for the other direction, and the pages of a search show it piece by piece:
the first `all.length ⌈/⌉ p.limit` of them hold all of it, and later ones nothing. The pages that
are meant are those whose first position, `(number - 1) * p.limit`, has no more than 64 bits. -/
theorem World.pages_partition {w : World} (hw : w.Reachable) (f : TaskFilter) (p : Paging) :
    ∃ all, w.ledger.Lists f p.sortBy p.descending all ∧
      (∀ other, w.ledger.Lists f p.sortBy p.descending other → other = all) ∧
      w.ledger.Lists f p.sortBy (!p.descending) all.reverse ∧ w.Shows f p all := by
  have hlists := hw.consistent.indexed.lists_sort f p
  refine ⟨_, hlists, fun other h => hlists.unique h, hlists.reverse, ?_⟩
  generalize hall : p.sort (w.ledger.tasks.values.filter f.accepts) = all
  have hpage : ∀ number, w.page f p number =
      Page.ofSorted all { p with currentPage := number } := fun number => by rw [← hall]; rfl
  have hdata : ∀ number, (w.page f p number).data =
      (all.drop ((number - 1) * p.limit)).take p.limit := fun number => by rw [hpage]; rfl
  have hceil : all.length ≤ p.limit * (all.length ⌈/⌉ p.limit) :=
    (ceilDiv_le_iff_le_mul p.limit_pos).1 (Nat.le_refl _)
  exact
    { unchanged := fun _ => rfl
      limit := by
        unfold Paging.limit Paging.largestPage
        omega
      slice := fun number _ => hdata number
      zero := by rw [hpage, hpage]; rfl
      whole := by
        simp only [hdata, Nat.add_sub_cancel]
        rw [flatten_pages, List.take_of_length_le (by rwa [Nat.mul_comm])]
      later := fun number hnumber => by
        have hmul := Nat.mul_le_mul_left p.limit (Nat.le_sub_one_of_lt hnumber)
        rw [hdata, List.drop_eq_nil_of_le (by rw [Nat.mul_comm]; omega), List.take_nil]
      info := fun number => by rw [hpage]; rfl }

namespace Pages.Sample

def task (number : Nat) (name : String) (status : TaskStatus) : Task where
  id := FreshId.text number
  name := name
  status := status
  mode := .enabled
  initiatedByUser := "ada"
  metadata := ⟨.epoch, none, none, none, none, none, none⟩
  work := .sync
  attributes := .empty
  createdAt := .epoch
  updatedAt := .epoch

/-- Three tasks, two of which are done. -/
def world : World :=
  let reserved := ((Command.reserve 3).run (.new 8 .epoch)).2
  let first := ((Command.createTask (task 3 "roof" .done)).run reserved).2
  let second := ((Command.createTask (task 1 "hall" .failed)).run first).2
  ((Command.createTask (task 2 "yard" .done)).run second).2

theorem idsAre_task {w : World} {number : Nat} (h : number < w.nextNumber) (name : String)
    (status : TaskStatus) : (task number name status).IdsAre w.Old :=
  ⟨World.old_text h, fun _ he => by cases he⟩

theorem world_reachable : world.Reachable := by
  have hreserved := World.Reachable.command (c := .reserve 3) (.new 8 .epoch) trivial
  have hfirst := hreserved.command (c := .createTask (task 3 "roof" .done))
    ⟨rfl, idsAre_task (by decide) _ _⟩
  have hsecond := hfirst.command (c := .createTask (task 1 "hall" .failed))
    ⟨rfl, idsAre_task (by decide) _ _⟩
  exact hsecond.command (c := .createTask (task 2 "yard" .done))
    ⟨rfl, idsAre_task (by decide) _ _⟩

/-- Two tasks to a page, by their status. -/
def paging : Paging := { pageSize := 2, sortBy := .byStatus, withTotal := true }

end Pages.Sample

open Pages.Sample

/-- The tasks that are done come first, and of these the one with the smaller id, although it was
created last. The third task is alone on the second page. -/
theorem World.pages_of_three :
    let all := [task 2 "yard" .done, task 3 "roof" .done, task 1 "hall" .failed]
    world.Reachable ∧ world.ledger.Lists {} .byStatus false all ∧ world.Shows {} paging all ∧
      (world.page {} paging 2).data = [task 1 "hall" .failed] ∧
      (world.page {} paging 2).info = ⟨2, 2, some 3, some 2⟩ := by
  intro all
  obtain ⟨shown, -, hunique, -, hshows⟩ := World.pages_partition world_reachable {} paging
  have hvalues : world.ledger.tasks.values =
      [task 3 "roof" .done, task 1 "hall" .failed, task 2 "yard" .done] := rfl
  have hall : world.ledger.Lists {} .byStatus false all := by
    refine ⟨fun t => ?_, ?_, by decide +kernel⟩
    · have hperm : all.Perm world.ledger.tasks.values := by
        rw [hvalues]
        exact @List.perm_append_comm _ [task 2 "yard" .done] _
      rw [← TaskFilter.accepts_iff, hperm.mem_iff]
      exact world_reachable.consistent.indexed.tasks.mem_values.trans (and_iff_left rfl).symm
    · exact List.Nodup.of_map (·.id) (by decide +kernel)
  obtain rfl := hunique all hall
  refine ⟨world_reachable, hall, hshows, ?_, ?_⟩
  · exact hshows.slice 2 (by decide)
  · exact (hshows.info 2).trans (by decide +kernel)

end SensorTasks

import Mathlib.GroupTheory.Perm.ViaEmbedding
import SensorTasks.Proofs.Grounding
import SensorTasks.Proofs.Lockstep

/-!
What a report or a failure does depends on what it looks at: its task, the sensors, and the part of
the index that leads to the files of the task. A message about another task spares all of this. So
after such a message it does what it would have done before, and gives out as many ids. Only the ids
themselves are others, since some have been given out in between.
-/

namespace SensorTasks

open Message Inbox Ledger

/-! ### Names of what is new -/

namespace FreshId

variable {n a b i : Nat}

/-- From the number `n` on, a block of `a` numbers and one of `b` numbers that change places. -/
def swapBlocks (n a b : Nat) : Equiv.Perm Nat where
  toFun i := if i < n then i else if i < n + a then i + b else if i < n + a + b then i - a else i
  invFun i := if i < n then i else if i < n + b then i + a else if i < n + a + b then i - b else i
  left_inv i := by simp only; split_ifs <;> omega
  right_inv i := by simp only; split_ifs <;> omega

theorem swapBlocks_apply : swapBlocks n a b i =
    if i < n then i else if i < n + a then i + b else if i < n + a + b then i - a else i :=
  rfl

theorem swapBlocks_before (h : i < n) : swapBlocks n a b i = i := if_pos h

theorem swapBlocks_first (h : i < a) : swapBlocks n a b (n + i) = n + b + i := by
  rw [swapBlocks_apply]
  split_ifs <;> omega

theorem swapBlocks_second (h : i < b) : swapBlocks n a b (n + a + i) = n + i := by
  rw [swapBlocks_apply]
  split_ifs <;> omega

theorem swapBlocks_after (h : n + a + b ≤ i) : swapBlocks n a b i = i := by
  rw [swapBlocks_apply]
  split_ifs <;> omega

end FreshId

namespace Difference

variable {u : World} {a b : Nat} {times times' : List Instant}

/-- The names when `a` ids and then `b` ids are given out in the one store, and in the other one the
`b` ids come first. -/
noncomputable def swapping (u : World) (a b : Nat) (times times' : List Instant) : Difference where
  known := u.Old
  names := (FreshId.swapBlocks u.nextNumber a b).viaEmbedding
    ⟨FreshId.text, fun _ _ => FreshId.text_injective⟩
  names_of_known {id} hid := by
    by_cases hmem : id ∈ Set.range FreshId.text
    · obtain ⟨i, rfl⟩ := hmem
      refine (Equiv.Perm.viaEmbedding_apply _ _ i).trans (congrArg FreshId.text ?_)
      exact FreshId.swapBlocks_before (hid i rfl)
    · exact Equiv.Perm.viaEmbedding_apply_of_notMem _ _ id hmem
  times := times
  times' := times'

theorem names_swapping (i : Nat) : (swapping u a b times times').names (FreshId.text i) =
    FreshId.text (FreshId.swapBlocks u.nextNumber a b i) :=
  Equiv.Perm.viaEmbedding_apply _ _ i

theorem aligns_first : (swapping u a b times times').Aligns u.nextNumber (u.nextNumber + b)
    (u.nextNumber + a) := by
  intro i hi
  refine ⟨World.not_old_text (Nat.le_add_right _ i), ?_⟩
  rw [names_swapping, FreshId.swapBlocks_first (Nat.lt_of_add_lt_add_left hi)]

theorem aligns_second : (swapping u a b times times').Aligns (u.nextNumber + a) u.nextNumber
    (u.nextNumber + a + b) := by
  intro i hi
  refine ⟨World.not_old_text (by omega), ?_⟩
  rw [names_swapping, FreshId.swapBlocks_second (Nat.lt_of_add_lt_add_left hi)]

/-- What has not been given out yet when both are done has one name. -/
theorem names_swapping_of_le {i : Nat} (h : u.nextNumber + a + b ≤ i) :
    (swapping u a b times times').names (FreshId.text i) = FreshId.text i := by
  rw [names_swapping, FreshId.swapBlocks_after h]

end Difference

/-! ### What a message looks at -/

theorem Difference.names_of_old {d : Difference} {u : World} (hd : d.known = u.Old) {id : String}
    (hid : u.Old id) : d.names id = id :=
  d.names_of_known (by rwa [hd])

namespace World

variable {ids ids' : List TaskId} {change : File → File} {u w w' : World} {d : Difference}

/-- The files in the index have been given out. -/
theorem Consistent.index_old (hu : u.Consistent) {key : String} {id : FileId}
    (h : u.ledger.fileIndex.get? key = some id) : u.Old id := by
  obtain ⟨f, hf, -⟩ := hu.indexed.fileIndex h
  exact hu.indexed.file_id hf ▸ hu.old.files _ f hf

/-- All that the index leads to has kept its name. -/
theorem Consistent.index_names (hu : u.Consistent) (hd : d.known = u.Old) (key : String) :
    (u.ledger.fileIndex.get? key).map d.names = u.ledger.fileIndex.get? key := by
  cases hf : u.ledger.fileIndex.get? key with
  | none => rfl
  | some f => exact congrArg some (d.names_of_old hd (hu.index_old hf))

/-- All that a task names has kept its name. -/
theorem Grounded.work_names (hu : u.Grounded) (hd : d.known = u.Old) {id : TaskId} {t : Task}
    (ht : u.ledger.task? id = some t) : t.work.withNames d.names = t.work := by
  refine Task.work_withNames_iff.2 ?_
  refine (List.map_congr_left fun e he => ?_).trans (List.map_id t.entries)
  have hfile : e.fileId.map d.names = e.fileId := by
    cases hf : e.fileId with
    | none => rfl
    | some f => exact congrArg some (d.names_of_old hd (hu.consistent.entry_old ht he hf))
  show { e with dataId := d.names e.dataId, fileId := e.fileId.map d.names } = e
  rw [d.names_of_old hd ((hu.task ht).dataId e he), hfile]

theorem Grounded.alike_task (hu : u.Grounded) (hd : d.known = u.Old) (id : TaskId) :
    Option.Rel (Task.Alike d) (u.ledger.task? id) (u.ledger.task? id) := by
  cases ht : u.ledger.task? id with
  | none => exact .none
  | some t => exact .some (.refl (hu.work_names hd ht))

/-- The second world comes of the first one, and what messages about the listed tasks look at has
stayed. -/
structure Spares (ids : List TaskId) (u w : World) : Prop where
  consistent : w.Consistent
  number : u.nextNumber ≤ w.nextNumber
  sensors : w.ledger.sensors = u.ledger.sensors
  task : ∀ id ∈ ids, w.ledger.task? id = u.ledger.task? id
  index : ∀ id ∈ ids, Key.Plain id → ∀ sensor name,
    w.ledger.fileIndex.get? (Key.fileOf id sensor name) =
      u.ledger.fileIndex.get? (Key.fileOf id sensor name)

theorem Spares.refl (hu : u.Consistent) : Spares ids u u :=
  ⟨hu, Nat.le_refl _, rfl, fun _ _ => rfl, fun _ _ _ _ _ => rfl⟩

/-- A message spares what messages about other tasks look at. -/
theorem Affects.spares (h : u.Affects ids change w) (hdisjoint : ids.Disjoint ids') :
    Spares ids' u w where
  consistent := h.consistent
  number := h.number
  sensors := show w.ledger.others.sensors = u.ledger.others.sensors by rw [h.others]
  task id hid := h.task id fun hmem => hdisjoint hmem hid
  index id hid hplain sensor name := (h.index _).resolve_left fun hkey =>
    hkey.not_of_disjoint hdisjoint ⟨id, hid, hplain, sensor, name, rfl⟩

/-- Worlds that have spared what a message looks at look alike to it. -/
theorem Spares.abreast (h : Spares ids u w) (hu : u.Grounded) (hd : d.known = u.Old)
    (h' : Spares ids u w') {c c' : Instant} (hclock : d.SameTime c c') :
    Abreast d ids w.nextNumber w'.nextNumber { w with clock := c } { w' with clock := c' } where
  consistent := h.consistent.outside rfl (Nat.le_refl _)
  consistent' := h'.consistent.outside rfl (Nat.le_refl _)
  clock := hclock
  number := ⟨0, rfl, rfl⟩
  sensors := h'.sensors.trans h.sensors.symm
  task id hid := by
    show Option.Rel (Task.Alike d) (w.ledger.task? id) (w'.ledger.task? id)
    rw [h.task id hid, h'.task id hid]
    exact hu.alike_task hd id
  index id hid hplain sensor name := by
    show w'.ledger.fileIndex.get? _ = (w.ledger.fileIndex.get? _).map d.names
    rw [h.index id hid hplain, h'.index id hid hplain, hu.consistent.index_names hd]
  file i := by
    show Option.Rel (File.Alike d) (w.ledger.file? _) (w'.ledger.file? _)
    rw [h.consistent.file_new (not_old_text (Nat.le_add_right _ i)),
      h'.consistent.file_new (not_old_text (Nat.le_add_right _ i))]
    exact .none

theorem Spares.meets (h : Spares ids u w) (hu : u.Grounded) (hd : d.known = u.Old)
    (h' : Spares ids u w') {c c' : Instant} (hclock : d.SameTime c c') :
    TaskMessage.Meets d ids { w with clock := c } { w' with clock := c' } where
  abreast := h.abreast hu hd h' hclock
  same id hid := (h'.task id hid).trans (h.task id hid).symm
  plain id hid _ ht := (hu.task ((h.task id hid).symm.trans ht)).plain
  named id hid _ ht := hu.work_names hd ((h.task id hid).symm.trans ht)

end World

/-! ### Messages that come in -/

namespace Inbox.TaskMessage

variable {u : World} {m : TaskMessage}

theorem upload?_congr {l l' : Ledger} (h : ∀ id ∈ m.names, l'.task? id = l.task? id) :
    m.upload? l' = m.upload? l := by
  cases m with
  | report m =>
    simp only [upload?]
    rw [h m.taskId (List.mem_singleton_self _)]
  | failure f => rfl
  | modes m => rfl

/-- The files of an upload that is reported to be done were given out. -/
theorem old_of_upload? (hu : u.Grounded) {x : UploadWork} (hx : m.upload? u.ledger = some x) :
    ∀ f ∈ x.files, u.Old f.fileId := by
  cases m with
  | report m =>
    simp only [upload?] at hx
    split at hx
    · cases hx
    · rename_i t ht
      split at hx
      · cases hc : Report.content m with
        | uploaded =>
          rw [hc] at hx
          exact (hu.task ht).upload x hx
        | _ =>
          rw [hc] at hx
          cases hx
      · cases hx
  | failure f => cases hx
  | modes m => cases hx

end Inbox.TaskMessage

open TaskMessage

namespace Arrival

variable {r : Registry} {u w w' : World} {a : Arrival} {m : TaskMessage}

/-- What comes in reports on a task or tells that it has failed. It brings no objects of a platform,
and its results name no `dataId` that is still to be given out: whoever sends it cannot know one. -/
structure Reports (r : Registry) (w : World) (a : Arrival) : Prop where
  key : isReport a.key = true ∨ a.key = .taskStatusFailed
  objects : ∀ m, received? r a.key a.payload = some (.report m) →
    ∀ j, Report.content m ≠ .objects j
  known : ∀ m, received? r a.key a.payload = some (.report m) → Report.NamesOnly w.Old m

theorem Reports.delayed (h : a.Reports r w) (c : Instant) : Reports r w { a with clock := c } :=
  ⟨h.key, h.objects, h.known⟩

abbrev names (r : Registry) (a : Arrival) : List TaskId := namedBy r a.key a.payload

/-- The upload that is reported to be done. -/
def upload? (r : Registry) (l : Ledger) (a : Arrival) : Option UploadWork :=
  (received? r a.key a.payload).bind (·.upload? l)

theorem Reports.simple (h : a.Reports r w) (hm : received? r a.key a.payload = some m) :
    m.Simple := by
  cases m with
  | report m => exact h.objects m hm
  | failure f => trivial
  | modes m =>
    unfold received? at hm
    split at hm
    · cases hm
    · split at hm
      · cases hm
      · have hkey := h.key
        cases hk : a.key <;> simp [hk, ofDocument?, isReport] at hm hkey

theorem Reports.namesOnly (h : a.Reports r w) (hm : received? r a.key a.payload = some m) :
    m.NamesOnly w.Old := by
  cases m with
  | report m => exact h.known m hm
  | failure f => trivial
  | modes m => trivial

/-- What brings no message leaves everything as it is. -/
theorem Reports.receive_of_none (h : a.Reports r u) (hm : received? r a.key a.payload = none)
    (w : World) : w.receive r a = { w with clock := a.clock } := by
  have huses : (process r a.key a.payload).Uses (fun _ => False) fun _ => True := by
    refine uses_process hm fun m hresult => ?_
    have hkey := h.key
    unfold VisibilityResult.received? at hresult
    split at hresult
    · rename_i j hk hread
      rw [hk] at hkey
      simp [isReport] at hkey
    · cases hresult
  exact (Program.Uses.run (K := (· = { w with clock := a.clock })) huses
    (fun _ _ h => h.elim) rfl).1

theorem names_of_some (hm : received? r a.key a.payload = some m) : a.names r = m.names := by
  simp only [names, namedBy, hm]

/-- What a message changes is told by what it looks at. -/
theorem Reports.affects (ha : a.Reports r u) (hu : u.Grounded) (h : World.Spares (a.names r) u w) :
    w.Affects (a.names r) (File.exposedBy (a.upload? r u.ledger) a.clock) (w.receive r a) := by
  have hw : World.Consistent { w with clock := a.clock } :=
    h.consistent.outside rfl (Nat.le_refl _)
  cases hm : received? r a.key a.payload with
  | none =>
    rw [ha.receive_of_none hm, upload?, hm]
    have hself : w.Affects (a.names r) id w := .refl h.consistent
    exact ⟨hw, hself.number, hself.task, hself.file, hself.index, hself.others⟩
  | some m =>
    rw [names_of_some hm] at h ⊢
    have haffects := TaskMessage.affects hw (ha.simple hm) fun id hid t ht =>
      (hu.task ((h.task id hid).symm.trans ht)).plain
    rw [upload?_congr (l := u.ledger) h.task] at haffects
    rw [World.receive, process_run hm, upload?, hm]
    exact ⟨haffects.consistent, haffects.number, haffects.task, haffects.file, haffects.index,
      haffects.others⟩

theorem old_of_upload? (hu : u.Grounded) {x : UploadWork} (hx : a.upload? r u.ledger = some x) :
    ∀ f ∈ x.files, u.Old f.fileId := by
  obtain ⟨m, -, hm⟩ := Option.bind_eq_some_iff.1 hx
  exact TaskMessage.old_of_upload? hu hm

/-- A message does the same wherever what it looks at has stayed. -/
theorem Reports.lockstep {d : Difference} (ha : a.Reports r u) (hu : u.Grounded)
    (hd : d.known = u.Old) (h : World.Spares (a.names r) u w) (h' : World.Spares (a.names r) u w')
    {c : Instant} (hclock : d.SameTime a.clock c)
    (halign : d.Aligns w.nextNumber w'.nextNumber (w.receive r a).nextNumber) :
    World.Abreast d (a.names r) w.nextNumber w'.nextNumber (w.receive r a)
      (w'.receive r { a with clock := c }) := by
  have hmeets := h.meets hu hd h' hclock
  cases hm : received? r a.key a.payload with
  | none =>
    rw [ha.receive_of_none hm, (ha.delayed c).receive_of_none hm]
    exact hmeets.abreast
  | some m =>
    rw [names_of_some hm] at hmeets ⊢
    unfold World.receive at halign ⊢
    rw [process_run hm] at halign ⊢
    rw [process_run hm]
    exact TaskMessage.lockstep (ha.simple hm) (hd ▸ ha.namesOnly hm) hmeets halign

/-- A message gives out as many ids wherever what it looks at has stayed. -/
theorem Reports.number (ha : a.Reports r u) (hu : u.Grounded)
    (h : World.Spares (a.names r) u w) (c : Instant) :
    ∃ k, (u.receive r a).nextNumber = u.nextNumber + k ∧
      (w.receive r { a with clock := c }).nextNumber = w.nextNumber + k := by
  have hself : World.Spares (a.names r) u u := .refl hu.consistent
  obtain ⟨k, hk⟩ := Nat.le.dest (ha.affects hu hself).number
  obtain ⟨j, hj⟩ := Nat.le.dest h.number
  -- `j` ids have been given out in between, so what is new here has the next `k` ids there
  let d := Difference.swapping u k j [a.clock] [c]
  have halign : d.Aligns u.nextNumber w.nextNumber (u.receive r a).nextNumber := by
    rw [← hj, ← hk]
    exact Difference.aligns_first
  exact (ha.lockstep hu (d := d) rfl hself h
    (Or.inr ⟨List.mem_singleton_self _, List.mem_singleton_self _⟩) halign).number

end Arrival

end SensorTasks

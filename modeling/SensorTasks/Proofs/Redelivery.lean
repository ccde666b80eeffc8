import SensorTasks.Proofs.Handling

/-!
The same results handled twice. The first handling has found or created the files of all results, so
the second one merges the same resolved results once more. Whether that leaves the entries as they
are depends on whether the results of one message get in each other's way: an entry that one result
has found by its file may lose that file to a later result that names it, and the first of the two
then makes a new entry when the message comes again.
-/

namespace SensorTasks

open Message Inbox Merge

namespace FetchReport

/-- Handling a message once more leaves the entries of its task as they are just if they are
settled: every result with a file belongs to an entry when it comes, and every entry has what the
last of the results that belong to it brings. -/
theorem redelivery_iff_settled {w : World} (hw : w.Reachable) (m : FetchReport) {t : Task}
    (ht : w.ledger.task? m.task = some t) (htype : t.type = .dataFetch) :
    let once := (m.handle.run w).2
    let twice := (m.handle.run once).2
    twice.entries m.task = once.entries m.task ↔
      Settled (once.entries m.task) (m.results.map (once.resolution m.task)) := by
  intro once twice
  obtain ⟨honce, hresolves, t₁, -, ht₁, htype₁, -, -⟩ := m.handle_run hw.consistent ht htype
  obtain ⟨htwice, -, t₂, fresh, ht₂, -, -, hentries⟩ := m.handle_run honce.consistent ht₁ htype₁
  -- the files of the results are the same the second time
  have hsame : m.results.map (twice.resolution m.task) =
      m.results.map (once.resolution m.task) :=
    List.map_congr_left fun r hr => htwice.resolution (hresolves r hr)
  have h₁ : once.entries m.task = t₁.entries := by
    unfold World.entries
    rw [ht₁]
  have h₂ : twice.entries m.task = t₂.entries := by
    unfold World.entries
    rw [ht₂]
  rw [h₁, h₂, hentries, hsame]
  exact mergeResults_eq_self fresh

open Sample

/-- A result without a `dataId` gets an entry of its own, which it finds when it comes again. -/
theorem redelivery_of_late :
    let once := (late.handle.run world).2
    let twice := (late.handle.run once).2
    (once.entries late.task).length = 2 ∧ twice.entries late.task = once.entries late.task ∧
      Settled (once.entries late.task) (late.results.map (once.resolution late.task)) := by
  have hsame : (late.handle.run (late.handle.run world).2).2.entries late.task =
      (late.handle.run world).2.entries late.task := by decide +kernel
  have ht : world.ledger.task? late.task = some fetching := late_task ▸ world_task
  exact ⟨by decide +kernel, hsame, (redelivery_iff_settled world_reachable late ht rfl).1 hsame⟩

/-- After another report, the result finds the entry that the next result takes away from it, and
when it comes again it gets a new one. -/
theorem redelivery_inserts :
    ¬∀ (w : World) (m : FetchReport) (t : Task), w.Reachable → w.ledger.task? m.task = some t →
      t.type = .dataFetch →
        (m.handle.run (m.handle.run w).2).2.entries m.task = (m.handle.run w).2.entries m.task := by
  intro h
  obtain ⟨-, -, t, -, ht, htype, -⟩ := early.handle_run world_reachable.consistent world_task rfl
  have hw := handle_reachable world_reachable world_task rfl
  have hsame := h (early.handle.run world).2 late t hw (late_task ▸ ht) htype
  exact absurd hsame (by decide +kernel)

end FetchReport

end SensorTasks

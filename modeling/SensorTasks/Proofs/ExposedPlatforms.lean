import SensorTasks.Proofs.FileVisibility

/-!
The platforms that a file lists. An upload adds its platform to a list that does not have it yet,
and a result for a file puts the list that it brings in the place of the one before, as it is. So
what a file lists is the last list that a result has brought, and after it the platforms of later
uploads, each of them once; and a platform is listed twice exactly if the last list repeats one.
-/

namespace SensorTasks

open Message Inbox

namespace Running

/-! ### Lists that are replaced -/

/-- The list that a step puts in the place of that of a stored file: it handles a result for the
file that has no error, but brings a list. -/
def replaced? (r? : Option Running) (w : World) : Option (FileId × List Platform) :=
  match r?.bind fun r => r.op.result? with
  | none => none
  | some m =>
    match m.error, m.visibility.bind (·.exposedTo), w.ledger.file? m.fileId with
    | none, some platforms, some _ => some (m.fileId, platforms)
    | _, _, _ => none

/-- The runs that begin without files, with the lists that were put in the place of others, the last
one first. -/
inductive Run : List (FileId × List Platform) → State → Prop where
  | start {w : World} (h : w.ledger.files = .empty) : Run [] ([], w)
  | step {lists : List (FileId × List Platform)} {s s' : State} {r? : Option Running}
    (h : Run lists s) (hs : Step s r? s') : Run ((replaced? r? s.2).toList ++ lists) s'

variable {lists : List (FileId × List Platform)} {s s' : State} {r? : Option Running}
  {v w : World} {op : Operation} {past : List Event} {c : Command} {id : FileId} {g : File}

theorem Run.reachable (h : Run lists s) : Reachable s := by
  induction h with
  | start h => exact .start h
  | step _ hs ih => exact .step ih hs

theorem Reachable.exists_run (h : Reachable s) : ∃ lists, Run lists s := by
  induction h with
  | start h => exact ⟨[], .start h⟩
  | step _ hs ih =>
    obtain ⟨lists, ih⟩ := ih
    exact ⟨_, .step ih hs⟩

theorem replaced?_of_no_result (h : ∀ r, r? = some r → r.op.result? = none) (w : World) :
    replaced? r? w = none := by
  unfold replaced?
  cases r? with
  | none => rfl
  | some r => rw [Option.bind_some, h r rfl]

/-- Only the list of a stored file is replaced. -/
theorem stored_of_replaced {platforms : List Platform}
    (h : replaced? r? w = some (id, platforms)) : ∃ f, w.ledger.file? id = some f := by
  unfold replaced? at h
  split at h
  · cases h
  · split at h
    · rename_i hf
      obtain ⟨rfl, -⟩ := Prod.mk.inj (Option.some.inj h)
      exact ⟨_, hf⟩
    · cases h

/-! ### One step -/

/-- What a stored file lists after a step. -/
inductive Lists (r? : Option Running) (w : World) (id : FileId) (g : File) : Prop where
  | created (hnew : ¬w.Old id) (h : g.visibility.exposedTo = [])
  | replaced {platforms : List Platform} (hr : replaced? r? w = some (id, platforms))
    (h : g.visibility.exposedTo = platforms)
  | kept {f : File} (hf : w.ledger.file? id = some f)
    (hr : ∀ platforms, replaced? r? w ≠ some (id, platforms))
    (h : g.visibility.exposedTo = f.visibility.exposedTo)
  | added {f : File} {p : Platform} (hf : w.ledger.file? id = some f)
    (hr : ∀ platforms, replaced? r? w ≠ some (id, platforms)) (hp : p ∉ f.visibility.exposedTo)
    (h : g.visibility.exposedTo = f.visibility.exposedTo ++ [p])

/-- A command that handles no result, and does not touch the list of any stored file. -/
theorem lists_of_kept (hr : replaced? r? w = none)
    (h : (∃ f, w.ledger.file? id = some f ∧ g.visibility.exposedTo = f.visibility.exposedTo) ∨
      ¬w.Old id ∧ g.visibility = .hidden) : Lists r? w id g := by
  rcases h with ⟨f, hf, h⟩ | ⟨hnew, h⟩
  · exact .kept hf (fun _ => by simp [hr]) h
  · exact .created hnew (by rw [h]; rfl)

theorem lists_of_keepsVisibility (hr : replaced? r? w = none) (hc : c.keepsVisibility = true)
    (hg : (c.run w).2.ledger.file? id = some g) : Lists r? w id g := by
  refine lists_of_kept hr ?_
  rcases Command.file_of_keepsVisibility hc hg with hg | ⟨hnew, -, -, hhidden⟩
  · exact Or.inl ⟨g, hg, rfl⟩
  · exact Or.inr ⟨hnew, hhidden⟩

/-- A patch without a list leaves all lists. -/
theorem lists_of_patch (hw : w.FilesKnown) {p : FilePatch} (hp : p.exposedTo = none) {i : FileId}
    (hr : replaced? r? w = none)
    (hg : ((Command.updateFile i p).run w).2.ledger.file? id = some g) : Lists r? w id g := by
  refine lists_of_kept hr (Or.inl ?_)
  rcases hw.updateFile_run i p with ⟨hsame, -⟩ | ⟨f, hf, -, hfiles⟩
  · rw [hsame] at hg
    exact ⟨g, hg, rfl⟩
  · rw [hfiles] at hg
    split at hg
    · rename_i hi
      obtain rfl := Option.some.inj hg
      subst hi
      refine ⟨f, hf, ?_⟩
      simp [FilePatch.apply, hp]
    · exact ⟨g, hg, rfl⟩

/-- A result that brings a list puts it in the place of the one of its file. -/
theorem lists_of_settle (hw : w.FilesKnown) {r : Running} {m : VisibilityResult} {p : FilePatch}
    (hop : r.op.result? = some m) (hp : Report.visibilityPatch? m = some p)
    (hg : ((Command.updateFile m.fileId p).run w).2.ledger.file? id = some g) :
    Lists (some r) w id g := by
  rcases Report.visibilityPatch?_cases hp with ⟨e, he, rfl⟩ | ⟨he, v, hv, rfl⟩
  · exact lists_of_patch hw rfl (by simp [replaced?, hop, he]) hg
  · cases hlist : v.exposedTo with
    | none => exact lists_of_patch hw hlist (by simp [replaced?, hop, he, hv, hlist]) hg
    | some platforms =>
      rcases hw.updateFile_run m.fileId _ with ⟨hsame, hmissing⟩ | ⟨f, hf, -, hfiles⟩
      · rw [hsame] at hg
        have hr : replaced? (some r) w = none := by simp [replaced?, hop, he, hmissing]
        exact lists_of_kept hr (Or.inl ⟨g, hg, rfl⟩)
      · have hr : replaced? (some r) w = some (m.fileId, platforms) := by
          simp [replaced?, hop, he, hv, hlist, hf]
        rw [hfiles] at hg
        split at hg
        · rename_i hid
          obtain rfl := Option.some.inj hg
          exact .replaced (hid ▸ hr) (by simp [FilePatch.apply, hlist])
        · rename_i hid
          refine .kept hg (fun platforms' hr' => hid ?_) rfl
          rw [hr] at hr'
          exact (Prod.mk.inj (Option.some.inj hr')).1.symm

/-- An upload adds its platform to the lists that do not have it. -/
theorem lists_of_expose (hw : w.FilesKnown) (hr : replaced? r? w = none) {ids : List FileId}
    {p : Platform} (hg : ((Command.exposeFiles ids p).run w).2.ledger.file? id = some g) :
    Lists r? w id g := by
  have hnone : ∀ platforms, replaced? r? w ≠ some (id, platforms) := fun _ => by simp [hr]
  rw [Command.run, Ledger.file?_exposeFiles hw.id] at hg
  obtain ⟨f, hf, rfl⟩ := Option.map_eq_some_iff.1 hg
  split
  · rename_i hlisted
    refine .added hf hnone (p := p) ?_ ?_
    · simpa [Visibility.isExposedTo] using hlisted.2
    · simp [Visibility.exposeTo, hlisted.2]
  · exact .kept hf hnone rfl

theorem lists_of_step (h : Lawful s) (hs : Step s r? s') (hg : s'.2.ledger.file? id = some g) :
    Lists r? s.2 id g := by
  have hw := h.marked.toFilesKnown
  cases hs with
  | begin op => exact lists_of_kept (replaced?_of_no_result (by simp) _) (Or.inl ⟨g, hg, rfl⟩)
  | @act rs w i op past c next hi =>
    obtain ⟨hc, -⟩ := h.obeys _ (List.mem_of_getElem? hi) w trivial trivial
    have hnone : op.result? = none → replaced? (some ⟨op, past, .call c next⟩) w = none :=
      fun hop => replaced?_of_no_result (fun r hr => Option.some.inj hr ▸ hop) w
    cases hc with
    | other hc hop => exact lists_of_keepsVisibility (hnone hop) hc hg
    | beginChange i hop => exact lists_of_patch hw rfl (hnone hop) hg
    | endChange i hop => exact lists_of_patch hw rfl (hnone hop) hg
    | settle hop hp => exact lists_of_settle hw hop hp hg
    | expose hop => exact lists_of_expose hw (hnone hop.result_eq_none) hg
  | @create rs w new =>
    have hc : (Command.createFile new).keepsVisibility = true := rfl
    exact lists_of_keepsVisibility (replaced?_of_no_result (by simp) _) hc hg
  | @outside rs w v hf hn =>
    rw [Ledger.file?, hf] at hg
    exact lists_of_kept (replaced?_of_no_result (by simp) _) (Or.inl ⟨g, hg, rfl⟩)

theorem Step.le_nextNumber (hs : Step s r? s') : s.2.nextNumber ≤ s'.2.nextNumber := by
  cases hs with
  | begin op => exact Nat.le_refl _
  | @act rs w i op past c next hi => exact c.le_nextNumber w
  | @create rs w new => exact (Command.createFile new).le_nextNumber w
  | outside hf hn => exact hn

/-! ### All runs -/

/-- The last list that was put in the place of that of a file; there is none at first. -/
def base (lists : List (FileId × List Platform)) (id : FileId) : List Platform :=
  (lists.lookup id).getD []

/-- What is listed are the base and platforms that were added once. -/
def Adds (base listed : List Platform) : Prop :=
  ∃ added, listed = base ++ added ∧ added.Nodup ∧ ∀ p ∈ added, p ∉ base

theorem Adds.refl (l : List Platform) : Adds l l := ⟨[], by simp, by simp, by simp⟩

theorem Adds.concat {base listed : List Platform} (h : Adds base listed) {p : Platform}
    (hp : p ∉ listed) : Adds base (listed ++ [p]) := by
  obtain ⟨added, rfl, hnodup, hnew⟩ := h
  rw [List.mem_append, not_or] at hp
  refine ⟨added ++ [p], List.append_assoc base added [p], ?_, fun q hq => ?_⟩
  · exact List.nodup_append.2 ⟨hnodup, List.nodup_singleton p, fun a ha b hb hab =>
      hp.2 (List.mem_singleton.1 hb ▸ hab ▸ ha)⟩
  · rcases List.mem_append.1 hq with hq | hq
    · exact hnew q hq
    · exact List.mem_singleton.1 hq ▸ hp.1

theorem Adds.nodup_iff {base listed : List Platform} (h : Adds base listed) :
    listed.Nodup ↔ base.Nodup := by
  obtain ⟨added, rfl, hnodup, hnew⟩ := h
  refine ⟨fun h => (List.nodup_append.1 h).1, fun h => ?_⟩
  exact List.nodup_append.2 ⟨h, hnodup, fun a ha b hb hab => hnew b hb (hab ▸ ha)⟩

/-- The lists are those of files whose ids have been given out. -/
theorem Run.old (h : Run lists s) {x : FileId × List Platform} (hx : x ∈ lists) : s.2.Old x.1 := by
  induction h with
  | start h => cases hx
  | @step lists s s' r? h hs ih =>
    refine World.Old.mono ?_ hs.le_nextNumber
    rcases List.mem_append.1 hx with hx | hx
    · obtain ⟨f, hf⟩ := stored_of_replaced (Option.mem_toList.1 hx)
      exact h.reachable.lawful.marked.old hf
    · exact ih hx

/-- What a stored file lists in the end. -/
theorem Run.adds (h : Run lists s) (hg : s.2.ledger.file? id = some g) :
    Adds (base lists id) g.visibility.exposedTo := by
  induction h generalizing id g with
  | start h =>
    rw [Ledger.file?, h] at hg
    cases hg
  | @step lists s s' r? h hs ih =>
    have hother : (∀ platforms, replaced? r? s.2 ≠ some (id, platforms)) →
        base ((replaced? r? s.2).toList ++ lists) id = base lists id := by
      intro hr
      cases hlist : replaced? r? s.2 with
      | none => rfl
      | some x =>
        obtain ⟨i, platforms⟩ := x
        have hne : id ≠ i := fun he => hr platforms (he ▸ hlist)
        simp [base, List.lookup_cons, beq_eq_false_iff_ne.2 hne]
    cases lists_of_step h.reachable.lawful hs hg with
    | created hnew hlist =>
      -- no list was brought for an id that had not been given out
      have hnone : ((replaced? r? s.2).toList ++ lists).lookup id = none := by
        refine List.lookup_eq_none_iff.2 fun x hx => bne_iff_ne.2 fun he => hnew ?_
        rw [he]
        rcases List.mem_append.1 hx with hx | hx
        · obtain ⟨f, hf⟩ := stored_of_replaced (Option.mem_toList.1 hx)
          exact h.reachable.lawful.marked.old hf
        · exact h.old hx
      rw [hlist, base, hnone]
      exact .refl []
    | replaced hr hlist =>
      rw [hlist, hr]
      simpa [base] using Adds.refl _
    | kept hf hr hlist =>
      rw [hlist, hother hr]
      exact ih hf
    | added hf hr hp hlist =>
      rw [hlist, hother hr]
      exact (ih hf).concat hp

/-- A stored file lists no platform twice exactly if the last list that a result has brought for it,
if any has, repeats none. -/
theorem nodup_exposedTo_iff (h : Run lists s) {f : File} (hf : s.2.ledger.file? id = some f) :
    f.visibility.exposedTo.Nodup ↔ ∀ platforms, lists.lookup id = some platforms →
      platforms.Nodup := by
  rw [(h.adds hf).nodup_iff, base]
  cases lists.lookup id with
  | none => simp
  | some platforms => simp

/-! ### A list from outside -/

namespace Sample

def portal : Platform := ⟨"open-data"⟩

/-- That the file is published now, and on which platforms. -/
def resultWith (platforms : List Platform) : VisibilityResult :=
  ⟨file, some ⟨true, some platforms⟩, none, none⟩

def handlingOf (platforms : List Platform) : Operation :=
  .handle .standard .fileResultVisibilityState (.document (resultWith platforms).toJson)

def patchWith (platforms : List Platform) : FilePatch where
  published := some true
  stateChanging := some false
  exposedTo := some platforms
  errorMessage := some none

/-- A file is created, and then a result for it is handled. -/
theorem run_of_result (platforms : List Platform)
    (hop : (handlingOf platforms).result? = some (resultWith platforms)) :
    ∃ s f, Run [(file, platforms)] s ∧ s.2.ledger.file? file = some f ∧
      f.visibility.exposedTo = platforms := by
  let w : World := ((Command.createFile new).run (.new 8 .epoch)).2
  have hcreated : Run [] ([], w) := Run.step (.start rfl) (.create (w := .new 8 .epoch) new)
  obtain ⟨next, hprogram⟩ : ∃ next, (handlingOf platforms).program =
      .call (.updateFile file (patchWith platforms)) next :=
    Operation.program_of_result hop rfl
  let r : Running :=
    ⟨handlingOf platforms, [], .call (.updateFile file (patchWith platforms)) next⟩
  have hbegun : Run [] ([r], w) := by
    have hbegin := Run.step hcreated (.begin (handlingOf platforms))
    rw [hprogram] at hbegin
    exact hbegin
  have hreplaced : replaced? (some r) w = some (file, platforms) := by
    unfold replaced?
    rw [Option.bind_some, hop]
    rfl
  have hdone := Run.step hbegun (.act (i := 0) rfl)
  rw [hreplaced] at hdone
  exact ⟨_, _, hdone, rfl, rfl⟩

end Sample

/-- A result that lists one platform once leaves a list without repetitions. -/
theorem nodup_exposedTo_of_result :
    ∃ s f, Run [(Sample.file, [Sample.portal])] s ∧ s.2.ledger.file? Sample.file = some f ∧
      f.visibility.exposedTo = [Sample.portal] ∧ f.visibility.exposedTo.Nodup := by
  obtain ⟨s, f, hrun, hf, hlist⟩ := Sample.run_of_result [Sample.portal] rfl
  refine ⟨s, f, hrun, hf, hlist, (nodup_exposedTo_iff hrun hf).2 fun platforms h => ?_⟩
  obtain rfl : [Sample.portal] = platforms := by simpa [List.lookup_cons] using h
  exact List.nodup_singleton _

/-- A result that lists a platform twice makes its file do the same. -/
theorem exposedTo_repeats :
    ∃ s f, Reachable s ∧ s.2.ledger.file? Sample.file = some f ∧
      f.visibility.exposedTo = [Sample.portal, Sample.portal] ∧ ¬f.visibility.exposedTo.Nodup := by
  obtain ⟨s, f, hrun, hf, hlist⟩ := Sample.run_of_result [Sample.portal, Sample.portal] rfl
  refine ⟨s, f, hrun.reachable, hf, hlist, ?_⟩
  rw [hlist]
  decide

end Running

end SensorTasks

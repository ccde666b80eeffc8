import SensorTasks.Proofs.TaskMessage

/-!
What commands do to files that stay. Only patches and exposures change such files, and which of them
they change and how is told for each. Files that are marked as changing have no error in the worlds
that are called marked here, and every command but patches keeps a world so.
-/

namespace SensorTasks

open Message Inbox

/-! ### Commands -/

namespace Command

/-- The command leaves the files as they are. -/
def keepsFiles : Command → Bool
  | createFile _ | updateFile .. | exposeFiles .. | deleteFile _ => false
  | _ => true

/-- The command changes no file that stays. -/
def keepsVisibility : Command → Bool
  | updateFile .. | exposeFiles .. => false
  | _ => true

variable {c : Command}

theorem keepsVisibility_of_isLookup (h : c.isLookup = true) : c.keepsVisibility = true := by
  cases c <;> first | rfl | cases h

theorem keepsVisibility_of_takesOver (h : c.takesOver = true) : c.keepsVisibility = true := by
  cases c <;> first | rfl | cases h

theorem keepsFiles_iff : c.keepsFiles = true ↔ c.writes? ≠ some .file := by
  cases c <;> simp [keepsFiles, writes?]

theorem files_of_keepsFiles (h : c.keepsFiles = true) (w : World) :
    (c.run w).2.ledger.files = w.ledger.files :=
  ((c.agreesBut_run w).files (keepsFiles_iff.1 h)).1

end Command

namespace Ledger

/-- Putting files again that are stored, with changes that keep their ids, changes just these. -/
theorem file?_foldl_putFile {l₀ l : Ledger} {fs : List File} (change : File → File)
    (hid : ∀ f, (change f).id = f.id) (hfs : ∀ f ∈ fs, l₀.file? f.id = some f) (id : FileId) :
    (fs.foldl (fun l f => l.putFile (change f)) l).file? id =
      if id ∈ fs.map (·.id) then (l₀.file? id).map change else l.file? id := by
  induction fs generalizing l with
  | nil => simp
  | cons f fs ih =>
    rw [List.foldl_cons, ih fun g hg => hfs g (List.mem_cons_of_mem f hg), file?_putFile, hid,
      List.map_cons]
    by_cases hmem : id ∈ fs.map (·.id)
    · rw [if_pos hmem, if_pos (List.mem_cons_of_mem _ hmem)]
    · by_cases he : id = f.id
      · rw [if_neg hmem, if_pos he, if_pos (he ▸ List.mem_cons_self), he,
          hfs f List.mem_cons_self, Option.map_some]
      · rw [if_neg hmem, if_neg he, if_neg (List.not_mem_cons_of_ne_of_not_mem he hmem)]

/-- Exposing files to a platform changes the listed files that are not exposed to it. -/
theorem file?_exposeFiles {l : Ledger} (hid : ∀ {id f}, l.file? id = some f → f.id = id)
    (ids : List FileId) (p : Platform) (now : Instant) (id : FileId) :
    (l.exposeFiles ids p now).2.file? id = (l.file? id).map fun f =>
      if id ∈ ids ∧ f.visibility.isExposedTo p = false then
        { f with visibility := f.visibility.exposeTo p, updatedAt := now }
      else f := by
  have hknown : ∀ f ∈ (l.filesOf ids).filter fun f => !f.visibility.isExposedTo p,
      l.file? f.id = some f ∧ f.id ∈ ids ∧ f.visibility.isExposedTo p = false := by
    intro f hf
    obtain ⟨hmem, hexposed⟩ := List.mem_filter.1 hf
    obtain ⟨i, hi, hf⟩ := List.mem_filterMap.1 hmem
    rw [hid hf]
    exact ⟨hf, hi, by simpa using hexposed⟩
  have hfold := file?_foldl_putFile (l := l)
    (fun f => { f with visibility := f.visibility.exposeTo p, updatedAt := now }) (fun _ => rfl)
    (fun f hf => (hknown f hf).1) id
  refine hfold.trans ?_
  cases hf : l.file? id with
  | none => simp
  | some f =>
    simp only [Option.map_some]
    by_cases hchanged : id ∈ ids ∧ f.visibility.isExposedTo p = false
    · have hmem : id ∈ ((l.filesOf ids).filter fun f => !f.visibility.isExposedTo p).map (·.id) :=
        List.mem_map.2 ⟨f, List.mem_filter.2 ⟨List.mem_filterMap.2 ⟨id, hchanged.1, hf⟩,
          by simp [hchanged.2]⟩, hid hf⟩
      rw [if_pos hmem, if_pos hchanged]
    · rw [if_neg hchanged, if_neg]
      intro hmem
      obtain ⟨g, hg, rfl⟩ := List.mem_map.1 hmem
      obtain ⟨hg', hlisted, hexposed⟩ := hknown g hg
      obtain rfl := Option.some.inj (hf.symm.trans hg')
      exact hchanged ⟨hlisted, hexposed⟩

end Ledger

/-- A command that patches no file and exposes none leaves files that were there, or brings a hidden
one with a new id. -/
theorem Command.file_of_keepsVisibility {c : Command} {w : World} (hc : c.keepsVisibility = true)
    {id : FileId} {g : File} (hg : (c.run w).2.ledger.file? id = some g) :
    w.ledger.file? id = some g ∨
      ¬w.Old id ∧ g.id = id ∧ (c.run w).2.Old id ∧ g.visibility = .hidden := by
  by_cases hk : c.keepsFiles = true
  · rw [Ledger.file?, files_of_keepsFiles hk] at hg
    exact Or.inl hg
  · cases c with
    | createFile new =>
      rw [Command.run, Ledger.file?_createFile] at hg
      split at hg
      · rename_i hid
        obtain rfl := Option.some.inj hg
        subst hid
        exact Or.inr ⟨World.not_old_text (Nat.le_refl _), rfl,
          World.old_text (Nat.lt_succ_self _), rfl⟩
      · exact Or.inl hg
    | deleteFile i =>
      simp only [Command.run, Ledger.deleteFile] at hg
      cases hf : w.ledger.file? i with
      | none =>
        rw [hf] at hg
        exact Or.inl hg
      | some f =>
        rw [hf] at hg
        rw [Ledger.file?, Table.get?_erase] at hg
        split at hg
        · cases hg
        · exact Or.inl hg
    | updateFile i p => cases hc
    | exposeFiles ids p => cases hc
    | _ => exact absurd rfl hk

/-! ### Known files -/

/-- Files are stored under their ids, which have been given out. -/
structure World.FilesKnown (w : World) : Prop where
  id : ∀ {id f}, w.ledger.file? id = some f → f.id = id
  old : ∀ {id f}, w.ledger.file? id = some f → w.Old id

namespace World.FilesKnown

variable {v w : World}

theorem missing (h : w.FilesKnown) {id : FileId} (hid : ¬w.Old id) : w.ledger.file? id = none := by
  cases hf : w.ledger.file? id with
  | none => rfl
  | some f => exact absurd (h.old hf) hid

/-- A patch changes the file that it is for, if that is stored. -/
theorem updateFile_run (h : w.FilesKnown) (id : FileId) (p : FilePatch) :
    ((Command.updateFile id p).run w).2 = w ∧ w.ledger.file? id = none ∨
      ∃ f, w.ledger.file? id = some f ∧ ((Command.updateFile id p).run w).2 =
        { w with ledger := w.ledger.putFile (p.apply w.clock f) } ∧
        ∀ i, ((Command.updateFile id p).run w).2.ledger.file? i =
          if i = id then some (p.apply w.clock f) else w.ledger.file? i := by
  simp only [Command.run, Ledger.updateFile]
  cases hf : w.ledger.file? id with
  | none => exact Or.inl ⟨rfl, rfl⟩
  | some f =>
    refine Or.inr ⟨f, rfl, rfl, fun i => ?_⟩
    have hput := Ledger.file?_putFile w.ledger (p.apply w.clock f) i
    rwa [show (p.apply w.clock f).id = f.id from rfl, h.id hf] at hput

/-- Where a file comes from that is stored after a command. -/
inductive After (w : World) (c : Command) (id : FileId) (g : File) : Prop where
  | same (h : w.ledger.file? id = some g) : After w c id g
  | created (hnew : ¬w.Old id) (hid : g.id = id) (hold : (c.run w).2.Old id)
    (hhidden : g.visibility = .hidden) : After w c id g
  | patched {f : File} {p : FilePatch} (hc : c = .updateFile id p) (hf : w.ledger.file? id = some f)
    (hg : g = p.apply w.clock f) : After w c id g
  | exposed {f : File} {ids : List FileId} {p : Platform} (hc : c = .exposeFiles ids p)
    (hf : w.ledger.file? id = some f) (hid : id ∈ ids) (hnot : f.visibility.isExposedTo p = false)
    (hg : g = { f with visibility := f.visibility.exposeTo p, updatedAt := w.clock }) :
    After w c id g

theorem after_run (h : w.FilesKnown) (c : Command) {id : FileId} {g : File}
    (hg : (c.run w).2.ledger.file? id = some g) : After w c id g := by
  by_cases hc : c.keepsVisibility = true
  · rcases Command.file_of_keepsVisibility hc hg with hg | ⟨hnew, hid, hold, hhidden⟩
    · exact .same hg
    · exact .created hnew hid hold hhidden
  · cases c with
    | updateFile i p =>
      rcases h.updateFile_run i p with ⟨hsame, -⟩ | ⟨f, hf, -, hfiles⟩
      · exact .same (hsame ▸ hg)
      · rw [hfiles] at hg
        split at hg
        · rename_i hi
          subst hi
          exact .patched rfl hf (Option.some.inj hg).symm
        · exact .same hg
    | exposeFiles ids p =>
      rw [Command.run, Ledger.file?_exposeFiles h.id] at hg
      obtain ⟨f, hf, rfl⟩ := Option.map_eq_some_iff.1 hg
      split
      · rename_i hlisted
        exact .exposed rfl hf hlisted.1 hlisted.2 rfl
      · exact .same hf
    | _ => exact absurd rfl hc

/-- A patch without such a field leaves what is stored, published and exposed. -/
theorem kept_of_patch (h : w.FilesKnown) {p : FilePatch} (hp : p.published = none)
    (hs : p.storage = none) (he : p.exposedTo = none) {id i : FileId} {f g : File}
    (hf : w.ledger.file? i = some f)
    (hg : ((Command.updateFile id p).run w).2.ledger.file? i = some g) :
    g.visibility.published = f.visibility.published ∧ g.storage = f.storage ∧
      g.visibility.exposedTo = f.visibility.exposedTo := by
  cases h.after_run _ hg with
  | same hg =>
    obtain rfl := Option.some.inj (hf.symm.trans hg)
    exact ⟨rfl, rfl, rfl⟩
  | created hnew => exact absurd (h.old hf) hnew
  | patched hc hf' hg =>
    cases hc
    obtain rfl := Option.some.inj (hf.symm.trans hf')
    subst hg
    simp [FilePatch.apply, hp, hs, he]
  | exposed hc => cases hc

/-- Whatever is done, the files stay known. -/
theorem run (h : w.FilesKnown) (c : Command) : (c.run w).2.FilesKnown := by
  have hn := c.le_nextNumber w
  have hall : ∀ id g, (c.run w).2.ledger.file? id = some g → g.id = id ∧ (c.run w).2.Old id := by
    intro id g hg
    cases h.after_run c hg with
    | same hg => exact ⟨h.id hg, (h.old hg).mono hn⟩
    | created _ hid hold => exact ⟨hid, hold⟩
    | patched _ hf hg =>
      subst hg
      exact ⟨(h.id hf : _ = id), (h.old hf).mono hn⟩
    | exposed _ hf _ _ hg =>
      subst hg
      exact ⟨(h.id hf : _ = id), (h.old hf).mono hn⟩
  exact ⟨fun hg => (hall _ _ hg).1, fun hg => (hall _ _ hg).2⟩

end World.FilesKnown

/-! ### Marked files -/

/-- Files that are changing have no error. -/
structure World.Marked (w : World) : Prop extends w.FilesKnown where
  error : ∀ {id f}, w.ledger.file? id = some f → f.visibility.stateChanging = true →
    f.visibility.errorMessage = none

namespace World.Marked

variable {v w : World}

theorem of_empty (h : w.ledger.files = .empty) : w.Marked := by
  have hnone : ∀ {id f}, w.ledger.file? id ≠ some f := by
    intro id f hf
    rw [Ledger.file?, h] at hf
    cases hf
  exact ⟨⟨fun hf => absurd hf hnone, fun hf => absurd hf hnone⟩, fun hf => absurd hf hnone⟩

theorem outside (h : w.Marked) (hf : v.ledger.files = w.ledger.files)
    (hn : w.nextNumber ≤ v.nextNumber) : v.Marked := by
  have hfile : ∀ {id g}, v.ledger.file? id = some g → w.ledger.file? id = some g := by
    intro id g hg
    rwa [Ledger.file?, hf] at hg
  exact ⟨⟨fun hg => h.id (hfile hg), fun hg => (h.old (hfile hg)).mono hn⟩,
    fun hg => h.error (hfile hg)⟩

/-- A command keeps this, if it is no patch that sets an error along with the mark. -/
theorem run (h : w.Marked) {c : Command} (hc : ∀ id p, c = .updateFile id p → ∀ f,
      (p.apply w.clock f).visibility.stateChanging = true →
        (p.apply w.clock f).visibility.errorMessage = none) : (c.run w).2.Marked := by
  have hmarks : ∀ (v : Visibility) p, (v.exposeTo p).stateChanging = v.stateChanging ∧
      (v.exposeTo p).errorMessage = v.errorMessage := by
    intro v p
    unfold Visibility.exposeTo
    split <;> exact ⟨rfl, rfl⟩
  refine ⟨h.toFilesKnown.run c, fun {id g} hg hchanging => ?_⟩
  cases h.after_run c hg with
  | same hg => exact h.error hg hchanging
  | created _ _ _ hhidden =>
    rw [hhidden]
    rfl
  | patched hc' _ hg =>
    subst hg
    exact hc _ _ hc' _ hchanging
  | @exposed f _ p _ hf _ _ hg =>
    subst hg
    obtain ⟨hs, he⟩ := hmarks f.visibility p
    exact he.trans (h.error hf (hs.symm.trans hchanging))

end World.Marked

/-- A result brings an error or, if it has none, a state. -/
theorem Inbox.Report.visibilityPatch?_cases {m : VisibilityResult} {p : FilePatch}
    (h : visibilityPatch? m = some p) :
    (∃ e, m.error = some e ∧ p = { stateChanging := some false, errorMessage := some (some e) }) ∨
      m.error = none ∧ ∃ v, m.visibility = some v ∧ p =
        { published := some v.published
          exposedTo := v.exposedTo
          storage := m.storage
          stateChanging := some false
          errorMessage := some none } := by
  unfold visibilityPatch? at h
  split at h
  · rename_i e he
    exact Or.inl ⟨e, he, (Option.some.inj h).symm⟩
  · rename_i v he hv
    exact Or.inr ⟨he, v, hv, (Option.some.inj h).symm⟩
  · cases h

end SensorTasks

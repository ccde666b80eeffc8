import SensorTasks.Proofs.FailedRequest
import SensorTasks.Proofs.FileDeletion

/-!
What a request to delete several files announces, and what it removes. The files are looked up, the
deletion of those that are stored is announced in one message, and then their documents are removed
one after the other. What is removed is what was announced, where it was stored, and nothing else is
touched; a request that is refused has not removed anything. But a file that is listed twice is also
announced twice, while it is removed, and counted, once.
-/

namespace SensorTasks

open Message Ledger

/-! ### What is published -/

/-- A message as it is handed to the bus. -/
structure Posting where
  exchange : String
  key : RoutingKey
  payload : Payload

/-- The message that a command publishes, if it publishes one. -/
def Command.posting? : Command → Option Posting
  | .publish exchange key payload => some ⟨exchange, key, payload⟩
  | _ => none

/-- The messages that a program publishes when it runs alone, in their order. -/
def Program.postings {α : Type} : Program α → World → List Posting
  | .done _, _ => []
  | .call c next, w => c.posting?.toList ++ (next (c.run w).1).postings (c.run w).2

theorem Program.postings_bind {α β : Type} (p : Program α) (f : α → Program β) (w : World) :
    (p >>= f).postings w = p.postings w ++ (f (p.run w).1).postings (p.run w).2 := by
  induction p generalizing w with
  | done a => rfl
  | call c next ih =>
    exact (congrArg (c.posting?.toList ++ ·) (ih _ _)).trans (List.append_assoc _ _ _).symm

/-! ### Removing documents -/

namespace Table

variable {α : Type}

/-- A table loses one row with a key that is there. -/
theorem size_erase {t : Table α} {key : String} {a : α} (h : t.get? key = some a) :
    t.size = (t.erase key).size + 1 := by
  obtain ⟨rows, distinct⟩ := t
  simp only [size, erase, get?] at h ⊢
  induction rows with
  | nil => cases h
  | cons row rows ih =>
    obtain ⟨k, b⟩ := row
    rw [List.map_cons, List.nodup_cons] at distinct
    rw [List.lookup_cons] at h
    by_cases hk : k = key
    · subst hk
      -- no other row has this key
      have hrest : dropRow k rows = rows := by
        refine List.filter_eq_self.2 fun row hrow => bne_iff_ne.2 fun he => distinct.1 ?_
        exact List.mem_map.2 ⟨row, hrow, he⟩
      have hdrop : dropRow k ((k, b) :: rows) = rows := by
        rw [dropRow, List.filter_cons_of_neg (by simp)]
        exact hrest
      rw [hdrop, List.length_cons]
    · rw [beq_eq_false_iff_ne.2 (Ne.symm hk)] at h
      have hne : (k != key) = true := bne_iff_ne.2 hk
      have hrest := ih distinct.2 h
      simp only [dropRow, List.filter_cons, hne, if_true, List.length_cons] at hrest ⊢
      omega

end Table

namespace Ledger

variable {l : Ledger} {fs : List File} {id : FileId}

/-- Removes files one after the other, and counts those that were there. -/
def deleteAll (l : Ledger) : List File → Nat × Ledger
  | [] => (0, l)
  | f :: fs =>
    let rest := (l.deleteFile f.id).2.deleteAll fs
    (if (l.deleteFile f.id).1 then rest.1 + 1 else rest.1, rest.2)

theorem deleteFile_found (l : Ledger) (id : FileId) :
    (l.deleteFile id).1 = (l.file? id).isSome := by
  unfold deleteFile
  cases l.file? id <;> rfl

/-- Deleting a file touches the files and their index only. -/
theorem deleteFile_others (l : Ledger) (id : FileId) :
    (l.deleteFile id).2 = { l with
      files := (l.deleteFile id).2.files
      fileIndex := (l.deleteFile id).2.fileIndex } := by
  unfold deleteFile
  cases l.file? id <;> rfl

theorem size_deleteFile (l : Ledger) (id : FileId) :
    l.files.size = (l.deleteFile id).2.files.size + if (l.deleteFile id).1 then 1 else 0 := by
  rw [deleteFile_found]
  unfold deleteFile
  cases hf : l.file? id with
  | none => rfl
  | some f => exact Table.size_erase hf

theorem file?_deleteAll (l : Ledger) (fs : List File) (id : FileId) :
    (l.deleteAll fs).2.file? id = if id ∈ fs.map (·.id) then none else l.file? id := by
  induction fs generalizing l with
  | nil => simp [deleteAll]
  | cons f fs ih =>
    rw [deleteAll, ih, file?_deleteFile]
    by_cases hf : id = f.id <;> by_cases hfs : id ∈ fs.map (·.id) <;> simp [hf, hfs]

theorem deleteAll_others (l : Ledger) (fs : List File) :
    (l.deleteAll fs).2 = { l with
      files := (l.deleteAll fs).2.files
      fileIndex := (l.deleteAll fs).2.fileIndex } := by
  induction fs generalizing l with
  | nil => rfl
  | cons f fs ih =>
    rw [deleteAll, ih, deleteFile_others]

/-- What is counted is how many files fewer there are. -/
theorem size_deleteAll (l : Ledger) (fs : List File) :
    l.files.size = (l.deleteAll fs).2.files.size + (l.deleteAll fs).1 := by
  induction fs generalizing l with
  | nil => rfl
  | cons f fs ih =>
    rw [l.size_deleteFile f.id, ih]
    simp only [deleteAll]
    split <;> omega

theorem isSome_deleteFile {l : Ledger} {id b : FileId} :
    ((l.deleteFile id).2.file? b).isSome ↔ b ≠ id ∧ (l.file? b).isSome := by
  rw [file?_deleteFile]
  split <;> simp [*]

theorem deleteAll_le_length (l : Ledger) (fs : List File) : (l.deleteAll fs).1 ≤ fs.length := by
  induction fs generalizing l with
  | nil => exact Nat.le_refl 0
  | cons f fs ih =>
    have hrest := ih (l.deleteFile f.id).2
    simp only [deleteAll, List.length_cons]
    split <;> omega

/-- All of a list are counted just if all are there, none of them twice. -/
theorem deleteAll_eq_length_iff (l : Ledger) (fs : List File) :
    (l.deleteAll fs).1 = fs.length ↔
      (fs.map (·.id)).Nodup ∧ ∀ f ∈ fs, (l.file? f.id).isSome := by
  induction fs generalizing l with
  | nil => simp [deleteAll]
  | cons f fs ih =>
    -- what is counted after the first file is what was there before and is not that file
    have hrest : ((l.deleteFile f.id).2.deleteAll fs).1 = fs.length ↔
        (fs.map (·.id)).Nodup ∧ f.id ∉ fs.map (·.id) ∧ ∀ g ∈ fs, (l.file? g.id).isSome := by
      rw [ih]
      simp only [isSome_deleteFile, forall₂_and, List.mem_map, not_exists, not_and]
    have hle := deleteAll_le_length (l.deleteFile f.id).2 fs
    rw [List.map_cons, List.nodup_cons, List.forall_mem_cons, List.length_cons]
    simp only [deleteAll, deleteFile_found]
    cases hf : (l.file? f.id).isSome with
    | true =>
      rw [if_pos rfl, Nat.add_right_cancel_iff, hrest]
      exact ⟨fun ⟨hnodup, hne, hall⟩ => ⟨⟨hne, hnodup⟩, rfl, hall⟩,
        fun ⟨⟨hne, hnodup⟩, _, hall⟩ => ⟨hnodup, hne, hall⟩⟩
    | false =>
      rw [if_neg Bool.false_ne_true]
      exact iff_of_false (by omega) fun h => Bool.false_ne_true h.2.1

end Ledger

/-- Every announcement of a deletion can be sent. -/
theorem Message.FileDeletion.validate_toJson {m : FileDeletion} (h : m.files ≠ []) :
    Registry.standard.validate .fileStatusDeletion m.toJson = .ok () := by
  have hcheck : m.check = .ok () := require_eq_ok.2 (by simpa using h)
  exact validate_standard.2 ⟨_, List.mem_singleton_self _,
    typed_eq_ok.2 ⟨m, (faithful.reads _ m m).2 ⟨trivial, rfl⟩, hcheck⟩⟩

namespace Deletion

variable {o : Outbox} {ids : List FileId} {w v : World} {r : Except FileError Nat}
  {posted : List Posting} {places : List FileLocation}

/-! ### How a request ends -/

/-- What announces the deletion of files from these places: one message, and none for no file. -/
def announcement (o : Outbox) (places : List FileLocation) : List Posting :=
  if places = [] then []
  else [⟨o.exchange, .fileStatusDeletion, .document (FileDeletion.toJson ⟨places⟩)⟩]

/-- Two announcements that are the same are about the same places. -/
theorem announcement_injective {a b : List FileLocation}
    (h : announcement o a = announcement o b) : a = b := by
  unfold announcement at h
  split at h <;> rename_i ha <;> split at h <;> rename_i hb
  · rw [ha, hb]
  · cases h
  · cases h
  · simp only [List.cons.injEq, Posting.mk.injEq, Payload.document.injEq, true_and, and_true] at h
    have hread : FileDeletion.decoder .value (FileDeletion.toJson ⟨b⟩).tree = .ok ⟨a⟩ :=
      h ▸ (FileDeletion.faithful.reads .value ⟨a⟩ ⟨a⟩).2 ⟨trivial, rfl⟩
    exact congrArg FileDeletion.files ((FileDeletion.faithful.reads .value ⟨b⟩ ⟨a⟩).1 hread).2.symm

/-- The ends of a request, each with the world that it leaves and what it has published. If no file
is stored, nothing is announced, and nothing removed. -/
inductive Ends (o : Outbox) (ids : List FileId) (w : World) :
    Except FileError Nat × World → List Posting → Prop where
  | refused {e : MessagingError} (hsome : w.ledger.filesOf ids ≠ [])
    (he : o.refusal? .fileStatusDeletion
      (FileDeletion.toJson ⟨(w.ledger.filesOf ids).map FileLocation.of⟩) = some e) :
    Ends o ids w (.error (.messaging e), w) []
  | removed {v : World} (hv : v.ledger = (w.ledger.deleteAll (w.ledger.filesOf ids)).2) :
    Ends o ids w (.ok (w.ledger.deleteAll (w.ledger.filesOf ids)).1, v)
      (announcement o ((w.ledger.filesOf ids).map FileLocation.of))

theorem removeAll_run {ε : Type} (fs : List File) (w : World) :
    (removeAll fs : Action ε Nat).run.run w =
      (.ok (w.ledger.deleteAll fs).1, { w with ledger := (w.ledger.deleteAll fs).2 }) := by
  induction fs generalizing w with
  | nil => rfl
  | cons f fs ih =>
    rw [removeAll, Action.run_perform_bind, Program.run_call, Action.run_bind, Program.run_bind,
      ih]
    rfl

theorem removeAll_postings {ε : Type} (fs : List File) (w : World) :
    (removeAll fs : Action ε Nat).run.postings w = [] := by
  induction fs generalizing w with
  | nil => rfl
  | cons f fs ih =>
    rw [removeAll, Action.run_perform_bind]
    simp only [Program.postings, Action.run_bind, Program.postings_bind, ih, removeAll_run]
    rfl

/-- The commands of a request. -/
theorem deleteFiles_eq (o : Outbox) (hids : ids ≠ []) :
    (deleteFiles o ids).run = .call (.findFiles ids) fun fs =>
      if fs.isEmpty then .done (.ok 0)
      else
        match o.refusal? .fileStatusDeletion (FileDeletion.toJson ⟨fs.map FileLocation.of⟩) with
        | some e => .done (.error (.messaging e))
        | none =>
          .call (.publish o.exchange .fileStatusDeletion
            (.document (FileDeletion.toJson ⟨fs.map FileLocation.of⟩))) fun _ =>
              .call (.count .messagesPublished) fun _ => (removeAll fs).run := by
  unfold deleteFiles
  rw [if_neg (by simpa using hids), Action.run_perform_bind]
  refine congrArg _ (funext fun fs => ?_)
  split
  · rfl
  · simp only [o.send_eq]
    cases o.refusal? .fileStatusDeletion _ <;> rfl

theorem deleteFiles_ends (o : Outbox) (hids : ids ≠ []) (w : World) :
    Ends o ids w ((deleteFiles o ids).run.run w) ((deleteFiles o ids).run.postings w) := by
  have hfind : (Command.findFiles ids).run w = (w.ledger.filesOf ids, w) := rfl
  have hremoved {v : World} (hv : v.ledger = (w.ledger.deleteAll (w.ledger.filesOf ids)).2) :=
    Ends.removed (o := o) hv
  rw [deleteFiles_eq o hids, Program.run_call, Program.postings, hfind]
  dsimp only [Command.posting?, Option.toList_none, List.nil_append]
  split
  · rename_i hnone
    rw [List.isEmpty_iff.1 hnone] at hremoved
    exact hremoved rfl
  · rename_i hempty
    have hsome : w.ledger.filesOf ids ≠ [] := by simpa using hempty
    split
    · rename_i e he
      exact .refused hsome he
    · have hplaces : (w.ledger.filesOf ids).map FileLocation.of ≠ [] := by simpa using hsome
      simp only [Program.run_call, Program.postings, removeAll_run, removeAll_postings]
      rw [announcement, if_neg hplaces] at hremoved
      exact hremoved rfl

/-- With all schemas every announcement passes, so that no request fails. -/
theorem deleteFiles_standard (exchange : String) (hids : ids ≠ []) (w : World) :
    ∃ v, (deleteFiles ⟨.standard, exchange⟩ ids).run.run w =
        (.ok (w.ledger.deleteAll (w.ledger.filesOf ids)).1, v) ∧
      v.ledger = (w.ledger.deleteAll (w.ledger.filesOf ids)).2 ∧
      (deleteFiles ⟨.standard, exchange⟩ ids).run.postings w =
        announcement ⟨.standard, exchange⟩ ((w.ledger.filesOf ids).map FileLocation.of) := by
  have hends := deleteFiles_ends ⟨.standard, exchange⟩ hids w
  generalize (deleteFiles ⟨.standard, exchange⟩ ids).run.run w = ended at hends ⊢
  generalize (deleteFiles ⟨.standard, exchange⟩ ids).run.postings w = posted at hends ⊢
  cases hends with
  | refused hsome he =>
    have hpasses : Registry.standard.validate .fileStatusDeletion
        (FileDeletion.toJson ⟨(w.ledger.filesOf ids).map FileLocation.of⟩) = .ok () :=
      FileDeletion.validate_toJson (by simpa using hsome)
    have hcontains : Registry.standard.contains .fileStatusDeletion = true := rfl
    simp [Outbox.refusal?, hcontains, hpasses] at he
  | removed hv => exact ⟨_, rfl, hv, rfl⟩

/-! ### What is announced and what is removed -/

/-- A request has taken `n` files out of the ledger, and these are the places announced. -/
structure Removal (ids : List FileId) (w v : World) (n : Nat) (places : List FileLocation) :
    Prop where
  /-- What is counted is how many files fewer there are. -/
  counted : w.ledger.files.size = v.ledger.files.size + n
  /-- What is announced are the files that are gone, and where they were. -/
  announced : ∀ p, p ∈ places ↔ ∃ id f, w.ledger.file? id = some f ∧
    v.ledger.file? id = none ∧ p = ⟨id, f.storage.bucket, f.storage.path⟩
  /-- Gone are the files that were listed, and all others are as before. -/
  files : ∀ id, v.ledger.file? id = if id ∈ ids then none else w.ledger.file? id
  /-- So is everything else but the index of the files. -/
  others : v.ledger =
    { w.ledger with files := v.ledger.files, fileIndex := v.ledger.fileIndex }

/-- The files that are gone have been announced in one message, if there are any; a request that
fails has left everything as it was. -/
def Announced (o : Outbox) (ids : List FileId) (w v : World) (posted : List Posting) :
    Except FileError Nat → Prop
  | .ok n => ∃ places, posted = announcement o places ∧ Removal ids w v n places
  | .error _ => v = w ∧ posted = []

/-- What is more, as many places have been announced as files are gone. -/
def AnnouncedOnce (o : Outbox) (ids : List FileId) (w v : World) (posted : List Posting) :
    Except FileError Nat → Prop
  | .ok n => ∃ places, posted = announcement o places ∧ Removal ids w v n places ∧
      places.length = n
  | .error _ => v.ledger = w.ledger

/-- The ids in the list that files are stored under, as often as they are listed. -/
def storedIds (w : World) (ids : List FileId) : List FileId :=
  ids.filter fun id => (w.ledger.file? id).isSome

theorem mem_filesOf {f : File} :
    f ∈ w.ledger.filesOf ids ↔ ∃ id ∈ ids, w.ledger.file? id = some f :=
  List.mem_filterMap

/-- Files are found under their ids. -/
theorem map_id_filesOf (hid : ∀ {i f}, w.ledger.file? i = some f → f.id = i) (ids : List FileId) :
    (w.ledger.filesOf ids).map (·.id) = storedIds w ids := by
  unfold Ledger.filesOf storedIds
  induction ids with
  | nil => rfl
  | cons id ids ih =>
    cases hf : w.ledger.file? id with
    | none => simpa [hf] using ih
    | some f => simpa [hf, hid hf] using ih

/-- What a request that goes through removes, and announces. -/
theorem removal_deleteAll (hid : ∀ {i f}, w.ledger.file? i = some f → f.id = i)
    (hv : v.ledger = (w.ledger.deleteAll (w.ledger.filesOf ids)).2) :
    Removal ids w v (w.ledger.deleteAll (w.ledger.filesOf ids)).1
      ((w.ledger.filesOf ids).map FileLocation.of) := by
  have hfiles (id : FileId) :
      v.ledger.file? id = if id ∈ ids then none else w.ledger.file? id := by
    rw [hv, file?_deleteAll, map_id_filesOf hid, storedIds]
    simp only [List.mem_filter]
    by_cases hlisted : id ∈ ids
    · cases hf : w.ledger.file? id <;> simp [hlisted]
    · simp [hlisted]
  refine ⟨hv ▸ size_deleteAll _ _, fun p => ?_, hfiles, hv ▸ deleteAll_others _ _⟩
  simp only [List.mem_map, mem_filesOf]
  constructor
  · rintro ⟨f, ⟨id, hlisted, hf⟩, rfl⟩
    exact ⟨id, f, hf, by rw [hfiles, if_pos hlisted], by rw [FileLocation.of, hid hf]⟩
  · rintro ⟨id, f, hf, hgone, rfl⟩
    have hlisted : id ∈ ids := by
      by_contra hnot
      rw [hfiles, if_neg hnot, hf] at hgone
      cases hgone
    exact ⟨f, ⟨id, hlisted, hf⟩, by rw [FileLocation.of, hid hf]⟩

/-- Each file is announced once if it is listed once. -/
theorem announced_length_iff (hid : ∀ {i f}, w.ledger.file? i = some f → f.id = i) :
    ((w.ledger.filesOf ids).map FileLocation.of).length =
      (w.ledger.deleteAll (w.ledger.filesOf ids)).1 ↔ (storedIds w ids).Nodup := by
  have hstored : ∀ f ∈ w.ledger.filesOf ids, (w.ledger.file? f.id).isSome := by
    intro f hf
    obtain ⟨id, -, hf⟩ := mem_filesOf.1 hf
    rw [hid hf, hf]
    rfl
  rw [List.length_map, eq_comm, deleteAll_eq_length_iff, map_id_filesOf hid]
  exact and_iff_left hstored

/-- A request to delete files, of a list that is not empty, has announced in one message what it has
removed and where it was, has counted it, and has left all else as it was; one that fails has
removed nothing. There are as many places in the message as files that were removed just if no
stored file is listed twice. -/
theorem announced_once_iff (hw : w.Reachable) (o : Outbox) (hids : ids ≠ [])
    (hrun : (deleteFiles o ids).run.run w = (r, v)) :
    Announced o ids w v ((deleteFiles o ids).run.postings w) r ∧
      (AnnouncedOnce o ids w v ((deleteFiles o ids).run.postings w) r ↔
        (∃ e, r = .error e) ∨ (storedIds w ids).Nodup) := by
  have hid {i : FileId} {f : File} (hf : w.ledger.file? i = some f) : f.id = i :=
    hw.consistent.indexed.file_id hf
  have hends := deleteFiles_ends o hids w
  rw [hrun] at hends
  generalize (deleteFiles o ids).run.postings w = posted at hends
  cases hends with
  | refused _ he => exact ⟨⟨rfl, rfl⟩, iff_of_true rfl (Or.inl ⟨_, rfl⟩)⟩
  | removed hv =>
    have hremoval := removal_deleteAll hid hv
    refine ⟨⟨_, rfl, hremoval⟩, ⟨?_, ?_⟩⟩
    · rintro ⟨places, hposted, -, hlength⟩
      rw [← announcement_injective hposted] at hlength
      exact Or.inr ((announced_length_iff hid).1 hlength)
    · rintro (⟨e, he⟩ | hnodup)
      · cases he
      · exact ⟨_, rfl, hremoval, (announced_length_iff hid).2 hnodup⟩

namespace Sample

/-- An outbox with all schemas. -/
def outbox : Outbox := ⟨.standard, "General"⟩

/-- A world with two files. -/
def archive : World := World.Sample.archive [("s1", "a.csv"), ("s2", "b.csv")]

theorem archive_reachable : archive.Reachable :=
  (((World.Reachable.new 8 .epoch).command (c := .createFile _) trivial).command
    (c := .createFile _) trivial)

end Sample

/-- A file that is listed twice is announced twice, but removed and counted once. -/
theorem listed_twice :
    ∃ v, Sample.archive.Reachable ∧
      (deleteFiles Sample.outbox [FreshId.text 1, FreshId.text 1]).run.run Sample.archive =
        (.ok 1, v) ∧
      (deleteFiles Sample.outbox [FreshId.text 1, FreshId.text 1]).run.postings Sample.archive =
        announcement Sample.outbox
          [⟨FreshId.text 1, "files", "a.csv"⟩, ⟨FreshId.text 1, "files", "a.csv"⟩] ∧
      ¬AnnouncedOnce Sample.outbox [FreshId.text 1, FreshId.text 1] Sample.archive v
        ((deleteFiles Sample.outbox [FreshId.text 1, FreshId.text 1]).run.postings Sample.archive)
        (.ok 1) := by
  have hids : [FreshId.text 1, FreshId.text 1] ≠ [] := List.cons_ne_nil _ _
  obtain ⟨v, hrun, -, hposted⟩ := deleteFiles_standard "General" hids Sample.archive
  have hplaces :
      (Sample.archive.ledger.filesOf [FreshId.text 1, FreshId.text 1]).map FileLocation.of =
        [⟨FreshId.text 1, "files", "a.csv"⟩, ⟨FreshId.text 1, "files", "a.csv"⟩] := by
    decide
  rw [hplaces] at hposted
  refine ⟨v, Sample.archive_reachable, hrun, hposted, ?_⟩
  rintro ⟨places, hplaces', -, hlength⟩
  obtain rfl := announcement_injective (hposted.symm.trans hplaces')
  cases hlength

/-- Files that are listed once are announced and removed, and an id of none is passed over. -/
theorem announced_once_of_distinct :
    ∃ v, Sample.archive.Reachable ∧
      (deleteFiles Sample.outbox [FreshId.text 2, "ghost", FreshId.text 1]).run.run
        Sample.archive = (.ok 2, v) ∧
      AnnouncedOnce Sample.outbox [FreshId.text 2, "ghost", FreshId.text 1] Sample.archive v
        ((deleteFiles Sample.outbox [FreshId.text 2, "ghost", FreshId.text 1]).run.postings
          Sample.archive) (.ok 2) := by
  have hids : [FreshId.text 2, "ghost", FreshId.text 1] ≠ [] := List.cons_ne_nil _ _
  obtain ⟨v, hrun, -, -⟩ := deleteFiles_standard "General" hids Sample.archive
  have hstored : (storedIds Sample.archive [FreshId.text 2, "ghost", FreshId.text 1]).Nodup := by
    decide
  exact ⟨v, Sample.archive_reachable, hrun,
    (announced_once_iff Sample.archive_reachable Sample.outbox hids hrun).2.2 (Or.inr hstored)⟩

end Deletion

end SensorTasks

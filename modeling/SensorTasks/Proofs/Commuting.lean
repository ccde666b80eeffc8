import SensorTasks.Proofs.Reporting

/-!
Reports and failures of different tasks, handled in either order. Each of them does the same in both
orders, since what it looks at is spared by the other one. They meet only where two uploads list one
file, and exposing a file to two platforms leaves the same list but for the order. So the stores
that are left are alike: what each message brings is called by other ids, because the ids that the
one is given come before those of the other or after them.
-/

namespace SensorTasks

open Message Inbox Ledger

/-! ### Exposing files -/

namespace File

variable {d : Difference} {f : File} {u u' : UploadWork} {now now' : Instant}

/-- The upload has something to change of the file. -/
abbrev WaitsFor (f : File) (u : UploadWork) : Prop :=
  f.id ∈ u.files.map (·.fileId) ∧ f.visibility.isExposedTo u.platform = false

theorem exposedBy_of_waits (h : f.WaitsFor u) (now : Instant) :
    f.exposedBy (some u) now =
      { f with
        visibility :=
          { f.visibility with exposedTo := f.visibility.exposedTo ++ [u.platform] }
        updatedAt := now } := by
  have hexpose : f.visibility.exposeTo u.platform =
      { f.visibility with exposedTo := f.visibility.exposedTo ++ [u.platform] } := by
    unfold Visibility.exposeTo
    rw [h.2]
    rfl
  rw [← hexpose]
  exact if_pos h

theorem exposedBy_of_not_waits (h : ¬f.WaitsFor u) (now : Instant) :
    f.exposedBy (some u) now = f :=
  if_neg h

/-- After an upload, a file waits for another one if it did before and the platform is another. -/
theorem waitsFor_exposedBy (h : f.WaitsFor u) :
    (f.exposedBy (some u) now).WaitsFor u' ↔ f.WaitsFor u' ∧ u.platform ≠ u'.platform := by
  rw [exposedBy_of_waits h]
  simp [WaitsFor, Visibility.isExposedTo, and_assoc, ne_comm]

theorem Alike.refl (h : d.names f.id = f.id) : f.Alike d f :=
  ⟨Or.inl rfl, .refl _, .refl _, by rw [h]⟩

variable {c₁ c₂ c₃ c₄ : Instant}

/-- An upload at two times. -/
theorem exposedBy_alike (h : d.names f.id = f.id) (upload : Option UploadWork)
    (hnow : d.SameTime now now') :
    (f.exposedBy upload now).Alike d (f.exposedBy upload now') := by
  cases upload with
  | none => exact .refl h
  | some u =>
    by_cases hu : f.WaitsFor u
    · rw [exposedBy_of_waits hu, exposedBy_of_waits hu]
      exact ⟨Or.inl rfl, hnow, .refl _, by rw [h]⟩
    · rw [exposedBy_of_not_waits hu, exposedBy_of_not_waits hu]
      exact .refl h

/-- Two uploads of a file may change places. -/
theorem exposedBy_comm (h : d.names f.id = f.id) (x y : Option UploadWork)
    (h₁ : c₁ ∈ d.times) (h₂ : c₂ ∈ d.times) (h₃ : c₃ ∈ d.times') (h₄ : c₄ ∈ d.times') :
    ((f.exposedBy x c₁).exposedBy y c₂).Alike d ((f.exposedBy y c₃).exposedBy x c₄) := by
  cases x with
  | none => exact exposedBy_alike h y (Or.inr ⟨h₂, h₃⟩)
  | some u =>
    cases y with
    | none => exact exposedBy_alike h (some u) (Or.inr ⟨h₁, h₄⟩)
    | some u' =>
      by_cases hu : f.WaitsFor u
      · by_cases hu' : f.WaitsFor u'
        · by_cases hp : u.platform = u'.platform
          · -- the platform is added by the one that comes first
            rw [exposedBy_of_not_waits (u := u') (by rw [waitsFor_exposedBy hu]; simp [hp]),
              exposedBy_of_not_waits (f := f.exposedBy (some u') c₃) (u := u)
                (by rw [waitsFor_exposedBy hu']; simp [hp]),
              exposedBy_of_waits hu, exposedBy_of_waits hu', hp]
            exact ⟨Or.inl rfl, Or.inr ⟨h₁, h₃⟩, .refl _, by rw [h]⟩
          · have hleft : (f.exposedBy (some u) c₁).WaitsFor u' :=
              (waitsFor_exposedBy hu).2 ⟨hu', hp⟩
            have hright : (f.exposedBy (some u') c₃).WaitsFor u :=
              (waitsFor_exposedBy hu').2 ⟨hu, Ne.symm hp⟩
            rw [exposedBy_of_waits hleft, exposedBy_of_waits hright, exposedBy_of_waits hu,
              exposedBy_of_waits hu']
            refine ⟨Or.inl rfl, Or.inr ⟨h₂, h₄⟩, ?_, by rw [h]⟩
            rw [List.append_assoc, List.append_assoc]
            exact (List.Perm.swap _ _ _).append_left _
        · have hleft : ¬(f.exposedBy (some u) c₁).WaitsFor u' := by
            rw [waitsFor_exposedBy hu]
            exact fun h => hu' h.1
          rw [exposedBy_of_not_waits hleft, exposedBy_of_not_waits hu']
          exact exposedBy_alike h (some u) (Or.inr ⟨h₁, h₄⟩)
      · have hright : ¬(f.exposedBy (some u') c₃).WaitsFor u := by
          by_cases hu' : f.WaitsFor u'
          · rw [waitsFor_exposedBy hu']
            exact fun h => hu h.1
          · rwa [exposedBy_of_not_waits hu']
        rw [exposedBy_of_not_waits hu, exposedBy_of_not_waits hright]
        exact exposedBy_alike h (some u') (Or.inr ⟨h₂, h₃⟩)

end File

/-! ### Two messages -/

namespace World

/-- An upload has nothing to do with a file that is new. -/
theorem Consistent.exposedBy_new {u w : World} (hw : w.Consistent) {x : Option UploadWork}
    (hx : ∀ a, x = some a → ∀ f ∈ a.files, u.Old f.fileId) {id : FileId} (hid : ¬u.Old id)
    (c : Instant) : (w.ledger.file? id).map (File.exposedBy x c) = w.ledger.file? id := by
  cases hf : w.ledger.file? id with
  | none => rfl
  | some f =>
    refine congrArg some ?_
    cases x with
    | none => rfl
    | some a =>
      refine File.exposedBy_of_not_waits (fun hwaits => hid ?_) c
      obtain ⟨g, hg, hgid⟩ := List.mem_map.1 hwaits.1
      rw [← hw.indexed.file_id hf, ← hgid]
      exact hx a rfl g hg

/-- Two messages in either order: the worlds `l` and `l'` when the one comes first, and `r` and `r'`
when the other does. -/
structure Square (d : Difference) (ids ids' : List TaskId) (x y : Option UploadWork)
    (u l r l' r' : World) : Prop where
  grounded : u.Grounded
  disjoint : ids.Disjoint ids'
  known : d.known = u.Old
  first : ∃ c ∈ d.times, u.Affects ids (File.exposedBy x c) l
  second : ∃ c ∈ d.times, l.Affects ids' (File.exposedBy y c) l'
  first' : ∃ c ∈ d.times', u.Affects ids' (File.exposedBy y c) r
  second' : ∃ c ∈ d.times', r.Affects ids (File.exposedBy x c) r'
  abreast : Abreast d ids u.nextNumber r.nextNumber l r'
  abreast' : Abreast d ids' l.nextNumber u.nextNumber l' r
  upload : ∀ a, x = some a → ∀ f ∈ a.files, u.Old f.fileId
  upload' : ∀ a, y = some a → ∀ f ∈ a.files, u.Old f.fileId

namespace Square

variable {d : Difference} {ids ids' : List TaskId} {x y : Option UploadWork}
  {u l r l' r' : World}

theorem task (h : Square d ids ids' x y u l r l' r') (id : TaskId) :
    Option.Rel (Task.Alike d) (l'.ledger.task? id) (r'.ledger.task? id) := by
  obtain ⟨_, -, first⟩ := h.first
  obtain ⟨_, -, second⟩ := h.second
  obtain ⟨_, -, first'⟩ := h.first'
  obtain ⟨_, -, second'⟩ := h.second'
  by_cases hid : id ∈ ids
  · rw [second.task id (h.disjoint hid)]
    exact h.abreast.task id hid
  · rw [second'.task id hid]
    by_cases hid' : id ∈ ids'
    · exact h.abreast'.task id hid'
    · rw [second.task id hid', first.task id hid, first'.task id hid']
      exact h.grounded.alike_task h.known id

theorem fileIndex (h : Square d ids ids' x y u l r l' r') (key : String) :
    r'.ledger.fileIndex.get? key = (l'.ledger.fileIndex.get? key).map d.names := by
  obtain ⟨_, -, first⟩ := h.first
  obtain ⟨_, -, second⟩ := h.second
  obtain ⟨_, -, first'⟩ := h.first'
  obtain ⟨_, -, second'⟩ := h.second'
  by_cases hkey : Key.OfTasks ids key
  · rw [(second.index key).resolve_left (hkey.not_of_disjoint h.disjoint)]
    obtain ⟨id, hid, hplain, sensor, name, rfl⟩ := hkey
    exact h.abreast.index id hid hplain sensor name
  · rw [(second'.index key).resolve_left hkey]
    by_cases hkey' : Key.OfTasks ids' key
    · obtain ⟨id, hid, hplain, sensor, name, rfl⟩ := hkey'
      exact h.abreast'.index id hid hplain sensor name
    · rw [(first'.index key).resolve_left hkey', (second.index key).resolve_left hkey',
        (first.index key).resolve_left hkey]
      exact (h.grounded.consistent.index_names h.known key).symm

theorem file_old (h : Square d ids ids' x y u l r l' r') {id : FileId} (hid : u.Old id) :
    Option.Rel (File.Alike d) (l'.ledger.file? id) (r'.ledger.file? (d.names id)) := by
  obtain ⟨_, h₁, first⟩ := h.first
  obtain ⟨_, h₂, second⟩ := h.second
  obtain ⟨_, h₃, first'⟩ := h.first'
  obtain ⟨_, h₄, second'⟩ := h.second'
  rw [d.names_of_old h.known hid, second.file id (hid.mono first.number), first.file id hid,
    second'.file id (hid.mono first'.number), first'.file id hid]
  cases hf : u.ledger.file? id with
  | none => exact .none
  | some f =>
    refine .some (File.exposedBy_comm ?_ x y h₁ h₂ h₃ h₄)
    rw [h.grounded.consistent.indexed.file_id hf]
    exact d.names_of_old h.known hid

/-- Files that were created for the one message. -/
theorem file_first (h : Square d ids ids' x y u l r l' r')
    (halign : d.Aligns u.nextNumber r.nextNumber l.nextNumber) {i : Nat}
    (hi : u.nextNumber + i < l.nextNumber) :
    Option.Rel (File.Alike d) (l'.ledger.file? (FreshId.text (u.nextNumber + i)))
      (r'.ledger.file? (d.names (FreshId.text (u.nextNumber + i)))) := by
  obtain ⟨_, -, second⟩ := h.second
  rw [second.file _ (old_text hi), h.abreast.consistent.exposedBy_new h.upload'
    (not_old_text (Nat.le_add_right _ i)), (halign i hi).2]
  exact h.abreast.file i

theorem file_second (h : Square d ids ids' x y u l r l' r')
    (halign : d.Aligns l.nextNumber u.nextNumber l'.nextNumber) {i : Nat}
    (hi : l.nextNumber + i < l'.nextNumber) :
    Option.Rel (File.Alike d) (l'.ledger.file? (FreshId.text (l.nextNumber + i)))
      (r'.ledger.file? (d.names (FreshId.text (l.nextNumber + i)))) := by
  obtain ⟨_, -, second'⟩ := h.second'
  obtain ⟨k, hk, hk'⟩ := h.abreast'.number
  rw [(halign i hi).2, second'.file _ (old_text (by omega)),
    h.abreast'.consistent'.exposedBy_new h.upload (not_old_text (Nat.le_add_right _ i))]
  exact h.abreast'.file i

/-- The ids that are given out in both orders are the same, but for what they name. -/
theorem number (h : Square d ids ids' x y u l r l' r') : r'.nextNumber = l'.nextNumber := by
  obtain ⟨k, hk, hk'⟩ := h.abreast.number
  obtain ⟨j, hj, hj'⟩ := h.abreast'.number
  omega

/-- The stores are alike, if the names lead from the ids that each message is given in the one order
to those that it is given in the other. -/
theorem alike (h : Square d ids ids' x y u l r l' r')
    (hfirst : d.Aligns u.nextNumber r.nextNumber l.nextNumber)
    (hsecond : d.Aligns l.nextNumber u.nextNumber l'.nextNumber)
    (hlater : ∀ i, l'.nextNumber ≤ i → d.names (FreshId.text i) = FreshId.text i) :
    l'.ledger.Alike d r'.ledger where
  task := h.task
  file id := by
    by_cases hid : u.Old id
    · exact h.file_old hid
    · simp only [Old, not_forall, Nat.not_lt] at hid
      obtain ⟨n, rfl, hn⟩ := hid
      -- the file was created for the first message, for the second one, or not at all
      by_cases hl : n < l.nextNumber
      · obtain ⟨i, rfl⟩ := Nat.le.dest hn
        exact h.file_first hfirst hl
      · by_cases hl' : n < l'.nextNumber
        · obtain ⟨i, rfl⟩ := Nat.le.dest (Nat.not_lt.1 hl)
          exact h.file_second hsecond hl'
        · have hn : l'.nextNumber ≤ n := Nat.not_lt.1 hl'
          obtain ⟨_, -, second⟩ := h.second
          obtain ⟨_, -, second'⟩ := h.second'
          rw [hlater n hn, second.consistent.file_new (not_old_text hn),
            second'.consistent.file_new (not_old_text (h.number ▸ hn))]
          exact .none
  fileIndex := h.fileIndex
  others := by
    obtain ⟨_, -, first⟩ := h.first
    obtain ⟨_, -, second⟩ := h.second
    obtain ⟨_, -, first'⟩ := h.first'
    obtain ⟨_, -, second'⟩ := h.second'
    rw [second'.others, first'.others, second.others, first.others]

end Square

end World

/-- In a grounded world, reports and failures of different tasks do the same in either order. -/
theorem World.receive_comm {u : World} (hu : u.Grounded) {r : Registry} {a b : Arrival}
    (ha : a.Reports r u) (hb : b.Reports r u) (hdisjoint : (a.names r).Disjoint (b.names r))
    (c c' : Instant) :
    ∃ d : Difference, d.known = u.Old ∧ d.times = [a.clock, b.clock] ∧ d.times' = [c, c'] ∧
      ((u.receive r a).receive r b).ledger.Alike d
        ((u.receive r { b with clock := c }).receive r { a with clock := c' }).ledger := by
  let b' : Arrival := { b with clock := c }
  let a' : Arrival := { a with clock := c' }
  have ha' : a'.Reports r u := ha.delayed c'
  have hb' : b'.Reports r u := hb.delayed c
  have first := ha.affects hu (.refl hu.consistent)
  have first' := hb'.affects hu (.refl hu.consistent)
  have spares := first.spares hdisjoint
  have spares' := first'.spares fun _ hb ha => hdisjoint ha hb
  have second := hb.affects hu spares
  have second' := ha'.affects hu spares'
  obtain ⟨k, hk⟩ := Nat.le.dest first.number
  obtain ⟨j, hj, hj'⟩ := hb'.number hu spares b.clock
  -- in the one order `k` ids are given to `a` and then `j` to `b`, in the other one `b` comes first
  let d := Difference.swapping u k j [a.clock, b.clock] [c, c']
  have h₁ : a.clock ∈ d.times := List.mem_cons_self
  have h₂ : b.clock ∈ d.times := List.mem_cons_of_mem _ List.mem_cons_self
  have h₃ : c ∈ d.times' := List.mem_cons_self
  have h₄ : c' ∈ d.times' := List.mem_cons_of_mem _ List.mem_cons_self
  have hfirst : d.Aligns u.nextNumber (u.receive r b').nextNumber (u.receive r a).nextNumber := by
    rw [hj, ← hk]
    exact Difference.aligns_first
  have hsecond : d.Aligns (u.receive r a).nextNumber u.nextNumber
      ((u.receive r a).receive r b).nextNumber := by
    rw [show ((u.receive r a).receive r b).nextNumber = _ from hj', ← hk]
    exact Difference.aligns_second
  have hsquare : Square d (a.names r) (b.names r) (a.upload? r u.ledger) (b.upload? r u.ledger) u
      (u.receive r a) (u.receive r b') ((u.receive r a).receive r b)
      ((u.receive r b').receive r a') :=
    { grounded := hu
      disjoint := hdisjoint
      known := rfl
      first := ⟨a.clock, h₁, first⟩
      second := ⟨b.clock, h₂, second⟩
      first' := ⟨c, h₃, first'⟩
      second' := ⟨c', h₄, second'⟩
      abreast := ha.lockstep hu rfl (.refl hu.consistent) spares' (Or.inr ⟨h₁, h₄⟩) hfirst
      abreast' := hb.lockstep hu rfl spares (.refl hu.consistent) (Or.inr ⟨h₂, h₃⟩) hsecond
      upload := fun _ => Arrival.old_of_upload? hu
      upload' := fun _ => Arrival.old_of_upload? hu }
  refine ⟨d, rfl, rfl, rfl, hsquare.alike hfirst hsecond fun i hi => ?_⟩
  rw [show ((u.receive r a).receive r b).nextNumber = _ from hj', ← hk] at hi
  exact Difference.names_swapping_of_le hi

namespace Operation

/-- Whatever the application has been asked to do: a report or a failure and one of another task,
handled in either order and at whatever times, leave the same store, but for the names of the files
and entries that they have brought, what was read from the clock, and the order of the platforms
that a file is exposed to. -/
theorem reports_commute {w₀ : World} (h₀ : w₀.Grown) {s : State} (run : Steps ([], w₀) s)
    {r : Registry} {a b : Arrival} (ha : a.Reports r s.2) (hb : b.Reports r s.2)
    (hdisjoint : (Inbox.namedBy r a.key a.payload).Disjoint (Inbox.namedBy r b.key b.payload))
    (c c' : Instant) :
    ∃ d : Difference, d.known = s.2.Old ∧ d.times = [a.clock, b.clock] ∧ d.times' = [c, c'] ∧
      ((s.2.receive r a).receive r b).ledger.Alike d
        ((s.2.receive r { b with clock := c }).receive r { a with clock := c' }).ledger :=
  World.receive_comm (run.grounded h₀.grounded) ha hb hdisjoint c c'

end Operation

namespace FetchReport.Sample

/-- A task that fetches, with the id of the number `n` and an entry with that of the next one. -/
def fetchingAs (n : Nat) (name : String) : Task :=
  { fetching with
    id := FreshId.text n
    name
    work := .fetch ⟨[⟨sensor.id, FreshId.text (n + 1), none, none, none, none, none⟩], clock, none,
      none⟩ }

theorem grounded_fetchingAs {w : World} {n : Nat} (h : n + 1 < w.nextNumber) (name : String) :
    (fetchingAs n name).Grounded w where
  plain := FreshId.plain_text n
  dataId e he := by
    rw [List.mem_singleton.1 he]
    exact World.old_text h
  upload _ hu := nomatch hu

theorem fresh_fetchingAs {w : World} {n : Nat} (h : n < w.nextNumber) (name : String)
    (hnew : w.ledger.task? (FreshId.text n) = none) :
    (Command.createTask (fetchingAs n name)).Fresh w := by
  refine ⟨hnew, World.old_text h, fun e he f hf => ?_⟩
  rw [List.mem_singleton.1 he] at hf
  cases hf

/-- A world with two tasks that fetch. -/
def busy : World :=
  ((Command.createTask (fetchingAs 3 "fetch again")).run ((Command.reserve 2).run world).2).2

theorem world_grown : world.Grown := by
  have hreserved := World.Grown.command (c := .reserve 3) (.new 8 clock) trivial trivial
  have hsensor := hreserved.command (c := .createSensor sensor)
    ⟨rfl, World.old_text (by decide)⟩ trivial
  exact hsensor.command (c := .createTask (fetchingAs 1 "fetch"))
    (fresh_fetchingAs (by decide) _ rfl) (grounded_fetchingAs (by decide) _)

theorem busy_grown : busy.Grown := by
  have hreserved := world_grown.command (c := .reserve 2) trivial trivial
  exact hreserved.command (c := .createTask (fetchingAs 3 "fetch again"))
    (fresh_fetchingAs (by decide) _ rfl) (grounded_fetchingAs (by decide) _)

/-- What comes in when the task with the id of the number `n` has fetched a file. -/
def fetched (n : Nat) (name : String) : Arrival where
  clock := clock
  key := .taskStatusDataFetchResult
  payload := .document (StatusReport.toJson FetchResult.listToJson
    ⟨FreshId.text n, .dataFetch, .done, none, none, none, some [brought none name]⟩)

/-- The task and the type that are reported, with the `dataId`s that the results name. -/
def outline? (a : Arrival) : Option (TaskId × TaskType × Option (List (Option String))) :=
  match TaskMessage.received? .standard a.key a.payload with
  | some (.report m) => some (m.taskId, m.taskType, m.payload.bind fun j =>
      (FetchResult.listDecoder.fromValue j).toOption.map fun rs => rs.map (·.dataId))
  | _ => none

theorem outline_first : outline? (fetched 1 "a.csv") =
    some (FreshId.text 1, .dataFetch, some [none]) := by decide +kernel

theorem outline_second : outline? (fetched 3 "b.csv") =
    some (FreshId.text 3, .dataFetch, some [none]) := by decide +kernel

variable {a : Arrival} {id : TaskId}

theorem exists_report (h : outline? a = some (id, .dataFetch, some [none])) : ∃ m,
    TaskMessage.received? .standard a.key a.payload = some (.report m) ∧ m.taskId = id ∧
      m.taskType = .dataFetch ∧ ∀ j rs, m.payload = some j →
        FetchResult.listDecoder.fromValue j = .ok rs → rs.map (·.dataId) = [none] := by
  unfold outline? at h
  split at h
  · rename_i m hm
    simp only [Option.some.injEq, Prod.mk.injEq] at h
    obtain ⟨hid, htype, hresults⟩ := h
    refine ⟨m, hm, hid, htype, fun j rs hj hrs => ?_⟩
    rw [hj, Option.bind_some, hrs] at hresults
    exact Option.some.inj hresults
  · cases h

/-- A fetch brings no objects, and what it brings without a `dataId` names none. -/
theorem reports_of_outline (hkey : isReport a.key = true)
    (h : outline? a = some (id, .dataFetch, some [none])) (w : World) :
    a.Reports .standard w ∧ a.names .standard = [id] := by
  obtain ⟨m, hm, hid, htype, hresults⟩ := exists_report h
  have hsame {m' : StatusReport Json} (hm' : TaskMessage.received? .standard a.key a.payload =
      some (.report m')) : m = m' := TaskMessage.report.inj (Option.some.inj (hm.symm.trans hm'))
  refine ⟨⟨Or.inl hkey, fun m' hm' j hj => ?_, fun m' hm' j rs hj hrs r hr x hx => ?_⟩, ?_⟩
  · obtain rfl := hsame hm'
    unfold Report.content at hj
    split at hj <;> simp_all
  · obtain rfl := hsame hm'
    have hpayload : m.payload = some j := by
      unfold Report.content at hj
      split at hj <;> simp_all
    have hmem : some x ∈ rs.map (·.dataId) := hx ▸ List.mem_map_of_mem hr
    rw [hresults j rs hpayload hrs] at hmem
    cases List.mem_singleton.1 hmem
  · rw [Arrival.names_of_some hm, ← hid]
    rfl

end FetchReport.Sample

namespace Operation

open FetchReport.Sample

/-- Two fetches bring a file each: whichever is first gets the next id for its file. -/
theorem reports_commute_of_fetches :
    let a := fetched 1 "a.csv"
    let b := fetched 3 "b.csv"
    let ab := (busy.receive .standard a).receive .standard b
    let ba := (busy.receive .standard b).receive .standard a
    let next := FreshId.text busy.nextNumber
    (ab.ledger.file? next).map (·.name) = some "a.csv" ∧
      (ba.ledger.file? next).map (·.name) = some "b.csv" ∧
      ∃ d : Difference, d.known = busy.Old ∧ ab.ledger.Alike d ba.ledger := by
  intro a b ab ba next
  obtain ⟨ha, hnames⟩ := reports_of_outline rfl outline_first busy
  obtain ⟨hb, hnames'⟩ := reports_of_outline rfl outline_second busy
  have hdisjoint : (a.names .standard).Disjoint (b.names .standard) := by
    rw [hnames, hnames']
    exact List.disjoint_singleton.2 (by decide : FreshId.text 3 ∉ [FreshId.text 1])
  obtain ⟨d, hknown, -, -, halike⟩ :=
    reports_commute busy_grown (s := ([], busy)) .refl ha hb hdisjoint clock clock
  exact ⟨by decide +kernel, by decide +kernel, d, hknown, halike⟩

end Operation

end SensorTasks

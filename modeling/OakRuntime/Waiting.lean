import OakRuntime.Effects

/-!
# Waiting on Channels

`wait_on_channels` answers with one status per handle it was given. It collects the
read halves among the handles together with their positions (`reader_pos`), computes a
status for each half through `channel_status` (`readers_statuses`), and writes each
status back at the position its handle had; every other position keeps
`InvalidChannel`.

`waitOnChannels_status` says what one position of a returned vector holds: for a read
handle of the caller, the status `channel_status` computed for its half. It rests on
one lemma per loop: the collection finds every read handle at its position
(`collectReaders_mem`) and keeps positions in order (`collectReaders_sublist`), the
statuses follow the halves (`readersStatuses_getElem?`), and the transcription writes
each status where its handle was, distinct positions never overwriting each other
(`transcribe_getElem?`). `channelStatus_flowsTo` says what a status other than
`PermissionDenied` tells about a read half: the read check passed.

The whole vector follows (`waitOnChannels_parallel`): the transcription stays inside
it for every handle list, since the positions collected are distinct indices of the
list (`collectReaders_enum`); it has one status per handle; `InvalidChannel` marks
exactly the handles that are not read handles, since a read half's status is never an
error (`channelStatus_of_read`); and the loop's return condition leaves a status other
than `NotReady` in every non-empty vector it returns (`waitOnChannels_ready`).

## Theorems

* `transcribe_getElem?`: The transcription loop puts each status at its position.
* `Runtime.waitOnChannels_status`: A returned status is its handle's `channel_status`.
* `Runtime.channelStatus_flowsTo`: A status other than `PermissionDenied` passed the
  read check.
* `Runtime.waitOnChannels_invalid_iff`: Where `InvalidChannel` stands.
* `Runtime.waitOnChannels_ready`: A returned vector is not all `NotReady`.
* `Runtime.waitOnChannels_parallel`: The returned vector, position by position.
-/

namespace OakRuntime

section Transcribe

variable {pos : List Nat} {sts : List ChannelReadStatus}

/-- A position the loop never writes keeps its status. -/
theorem transcribe_getElem?_of_not_mem {is : List Nat} {all res : List ChannelReadStatus}
    (h : transcribe pos sts is all = some res) {p : Nat} (hp : ∀ q ∈ is, pos[q]? ≠ some p) :
    res[p]? = all[p]? := by
  induction is generalizing all with
  | nil => cases h; rfl
  | cons i is ih =>
    simp only [transcribe] at h
    split at h
    · rename_i a st hpos hst
      split at h
      · rw [ih h fun q hq => hp q (List.mem_cons_of_mem _ hq), List.getElem?_set,
          if_neg fun (e : a = p) => hp i (List.mem_cons_self _ _) (e ▸ hpos)]
      · cases h
    · cases h

/-- The loop writes the `q`-th status at the `q`-th position, when no other index it
    runs over has that position. -/
theorem transcribe_getElem? {is : List Nat} {all res : List ChannelReadStatus}
    (h : transcribe pos sts is all = some res) {q p : Nat} {st : ChannelReadStatus} (hq : q ∈ is)
    (huniq : ∀ q' ∈ is, pos[q']? = some p → q' = q) (hpos : pos[q]? = some p) (hst : sts[q]? = some st) :
    res[p]? = some st := by
  induction is generalizing all with
  | nil => cases hq
  | cons i is ih =>
    simp only [transcribe] at h
    split at h
    · rename_i a st' hposi hsti
      split at h
      · rename_i hlt
        by_cases hqi : q ∈ is
        · exact ih h hqi fun q' hq' => huniq q' (List.mem_cons_of_mem _ hq')
        -- the last write to `p` is this one
        obtain rfl : q = i := (List.mem_cons.1 hq).resolve_right hqi
        obtain rfl : a = p := Option.some.inj (hposi.symm.trans hpos)
        obtain rfl : st' = st := Option.some.inj (hsti.symm.trans hst)
        rw [transcribe_getElem?_of_not_mem h fun q' hq' e => hqi (huniq q' (List.mem_cons_of_mem _ hq') e ▸ hq'),
          List.getElem?_set, if_pos rfl, if_pos hlt]
      · cases h
    · cases h

/-- Over the indices of the collected halves, with distinct positions, the loop writes
    the `q`-th status at the `q`-th position. -/
theorem transcribe_range_getElem? {m : Nat} {all res : List ChannelReadStatus}
    (h : transcribe pos sts (List.range m) all = some res) (hnodup : pos.Nodup) {q p : Nat}
    {st : ChannelReadStatus} (hq : q < m) (hpos : pos[q]? = some p) (hst : sts[q]? = some st) :
    res[p]? = some st :=
  transcribe_getElem? h (List.mem_range.2 hq)
    (fun _ _ hq' => List.getElem?_inj (List.getElem?_eq_some_iff.1 hq').1 hnodup (hq'.trans hpos.symm)) hpos hst

theorem transcribe_length {is : List Nat} {all res : List ChannelReadStatus}
    (h : transcribe pos sts is all = some res) : res.length = all.length := by
  induction is generalizing all with
  | nil => cases h; rfl
  | cons i is ih =>
    simp only [transcribe] at h
    split at h
    · split at h
      · rw [ih h, List.length_set]
      · cases h
    · cases h

/-- The loop never indexes out of bounds when every index it runs over has a position
    inside the vector and a status. -/
theorem transcribe_isSome {is : List Nat} {all : List ChannelReadStatus}
    (h : ∀ i ∈ is, ∃ p st, pos[i]? = some p ∧ sts[i]? = some st ∧ p < all.length) :
    ∃ res, transcribe pos sts is all = some res := by
  induction is generalizing all with
  | nil => exact ⟨all, rfl⟩
  | cons i is ih =>
    obtain ⟨p, st, hp, hst, hlt⟩ := h i (List.mem_cons_self _ _)
    simp only [transcribe, hp, hst, if_pos hlt]
    exact ih fun j hj => by simpa [List.length_set] using h j (List.mem_cons_of_mem _ hj)

end Transcribe

namespace Runtime

variable {s : Runtime} {n : NodeId}

/-- One turn of the collection loop: a read handle is collected with its position,
    anything else is skipped. -/
theorem collectReaders_cons {i : Nat} {k : Handle} {L : List (Nat × Handle)} {pos : List Nat}
    {rds : List ChannelHalf} (h : s.collectReaders n ((i, k) :: L) = some (pos, rds)) :
    ∃ pos' rds', s.collectReaders n L = some (pos', rds') ∧
      ((∃ half, s.abiToReadHalf n k = some (.ok half) ∧ pos = i :: pos' ∧ rds = half :: rds') ∨
        ((∀ half, s.abiToReadHalf n k ≠ some (.ok half)) ∧ pos = pos' ∧ rds = rds')) := by
  simp only [collectReaders] at h
  split at h
  · rename_i half pos' rds' hk hr
    cases h
    exact ⟨pos', rds', hr, .inl ⟨half, hk, rfl, rfl⟩⟩
  · rename_i hk hr
    cases h
    exact ⟨_, _, hr, .inr ⟨fun half => by rw [hk]; simp, rfl, rfl⟩⟩
  · cases h

/-- Every read handle among those collected is found, at its position. -/
theorem collectReaders_mem {L : List (Nat × Handle)} {pos : List Nat} {rds : List ChannelHalf}
    (h : s.collectReaders n L = some (pos, rds)) {i : Nat} {k : Handle} {half : ChannelHalf} (hik : (i, k) ∈ L)
    (hk : s.abiToReadHalf n k = some (.ok half)) : ∃ q : Nat, pos[q]? = some i ∧ rds[q]? = some half := by
  induction L generalizing pos rds with
  | nil => cases hik
  | cons e L ih =>
    obtain ⟨i', k'⟩ := e
    obtain ⟨pos', rds', hr, ⟨half', hk', rfl, rfl⟩ | ⟨hk', rfl, rfl⟩⟩ := collectReaders_cons h
    · rcases List.mem_cons.1 hik with e | hik
      · obtain ⟨rfl, rfl⟩ := Prod.mk.inj e
        obtain rfl : half' = half := by simpa [hk] using hk'.symm
        exact ⟨0, List.getElem?_cons_zero, List.getElem?_cons_zero⟩
      · obtain ⟨q, hq, hq'⟩ := ih hr hik
        exact ⟨q + 1, by simpa using hq, by simpa using hq'⟩
    · rcases List.mem_cons.1 hik with e | hik
      · obtain ⟨rfl, rfl⟩ := Prod.mk.inj e
        exact absurd hk (hk' half)
      · exact ih hr hik

/-- The positions collected are in the order of the list. -/
theorem collectReaders_sublist {L : List (Nat × Handle)} {pos : List Nat} {rds : List ChannelHalf}
    (h : s.collectReaders n L = some (pos, rds)) : pos.Sublist (L.map Prod.fst) := by
  induction L generalizing pos rds with
  | nil => cases h; exact List.Sublist.slnil
  | cons e L ih =>
    obtain ⟨i', k'⟩ := e
    obtain ⟨pos', rds', hr, ⟨_, _, rfl, rfl⟩ | ⟨_, rfl, rfl⟩⟩ := collectReaders_cons h
    · exact (ih hr).cons₂ _
    · exact (ih hr).cons _

theorem collectReaders_length {L : List (Nat × Handle)} {pos : List Nat} {rds : List ChannelHalf}
    (h : s.collectReaders n L = some (pos, rds)) : pos.length = rds.length := by
  induction L generalizing pos rds with
  | nil => cases h; rfl
  | cons e L ih =>
    obtain ⟨i, k⟩ := e
    obtain ⟨pos', rds', hr, ⟨_, _, rfl, rfl⟩ | ⟨_, rfl, rfl⟩⟩ := collectReaders_cons h
    · simp [ih hr]
    · exact ih hr

/-- Every position collected is that of a read handle, collected with its half. -/
theorem collectReaders_getElem? {L : List (Nat × Handle)} {pos : List Nat} {rds : List ChannelHalf}
    (h : s.collectReaders n L = some (pos, rds)) {q i : Nat} (hq : pos[q]? = some i) :
    ∃ k half, (i, k) ∈ L ∧ rds[q]? = some half ∧ s.abiToReadHalf n k = some (.ok half) := by
  induction L generalizing pos rds q with
  | nil => cases h; cases hq
  | cons e L ih =>
    obtain ⟨i', k'⟩ := e
    obtain ⟨pos', rds', hr, ⟨half, hk, rfl, rfl⟩ | ⟨_, rfl, rfl⟩⟩ := collectReaders_cons h
    · cases q with
      | zero =>
        obtain rfl : i' = i := by simpa using hq
        exact ⟨k', half, List.mem_cons_self _ _, List.getElem?_cons_zero, hk⟩
      | succ q =>
        obtain ⟨k, half', hm, hq', hk'⟩ := ih hr (by simpa using hq)
        exact ⟨k, half', List.mem_cons_of_mem _ hm, by simpa using hq', hk'⟩
    · obtain ⟨k, half', hm, hq', hk'⟩ := ih hr hq
      exact ⟨k, half', List.mem_cons_of_mem _ hm, hq', hk'⟩

/-- Over the handles with their indices, the positions are distinct indices of the
    handle list. -/
theorem collectReaders_enum {hs : List Handle} {pos : List Nat} {rds : List ChannelHalf}
    (h : s.collectReaders n hs.enum = some (pos, rds)) : pos.Nodup ∧ ∀ p ∈ pos, p < hs.length := by
  have hsub := collectReaders_sublist h
  rw [List.enum_map_fst] at hsub
  exact ⟨hsub.nodup (List.nodup_range _), fun p hp => List.mem_range.1 (hsub.subset hp)⟩

theorem readersStatuses_length {d : Downgrading} {rds : List ChannelHalf} {sts : List ChannelReadStatus}
    (h : s.readersStatuses n d rds = some sts) : sts.length = rds.length := by
  induction rds generalizing sts with
  | nil => cases h; rfl
  | cons x rds ih =>
    simp only [readersStatuses] at h
    split at h
    · rename_i hrs
      cases h
      simp [ih hrs]
    · cases h

/-- The `q`-th status is `channel_status` of the `q`-th half. -/
theorem readersStatuses_getElem? {d : Downgrading} {rds : List ChannelHalf} {sts : List ChannelReadStatus}
    (h : s.readersStatuses n d rds = some sts) {q : Nat} {half : ChannelHalf} (hq : rds[q]? = some half) :
    ∃ r, s.channelStatus n half d = some r ∧ sts[q]? = some (statusOrInvalid r) := by
  induction rds generalizing sts q with
  | nil => cases hq
  | cons x rds ih =>
    simp only [readersStatuses] at h
    split at h
    · rename_i r rs hr hrs
      cases h
      cases q with
      | zero =>
        simp only [List.getElem?_cons_zero, Option.some.injEq] at hq
        exact ⟨r, hq ▸ hr, List.getElem?_cons_zero⟩
      | succ q =>
        obtain ⟨r', hr', hst⟩ := ih hrs (by simpa using hq)
        exact ⟨r', hr', by simpa using hst⟩
    · cases h

/-- What a pass of the wait loop that returned statuses computed: the collection, the
    statuses, their transcription, and the return condition. -/
theorem waitOnChannels_returned_ok {hs : List Handle} {d : Downgrading} {v : List ChannelReadStatus}
    (h : s.waitOnChannels n hs d = some (.returned (.ok v))) :
    ∃ pos rds sts, s.collectReaders n hs.enum = some (pos, rds) ∧ s.readersStatuses n d rds = some sts ∧
      transcribe pos sts (List.range rds.length) (List.replicate hs.length .invalidChannel) = some v ∧
      (!(sts.all (· == .notReady)) || hs.isEmpty || rds.length != hs.length) = true := by
  unfold waitOnChannels at h
  split at h
  · rename_i pos rds _ hc _
    split at h
    · cases h
    split at h
    · cases h
    rename_i sts hsts
    split at h
    · cases h
    rename_i all hall
    split at h
    · cases h
      exact ⟨pos, rds, sts, hc, hsts, hall, ‹_›⟩
    · cases h
  · cases h

/-- The status of a read half is never an error, so never `InvalidChannel`. -/
theorem channelStatus_of_read {half : ChannelHalf} {d : Downgrading} {r : Except OakStatus ChannelReadStatus}
    (h : s.channelStatus n half d = some r) (hdir : half.direction = .read) :
    ∃ st, r = .ok st ∧ st ≠ .invalidChannel := by
  unfold channelStatus at h
  split at h
  · cases h
  · cases h
    exact ⟨_, rfl, by decide⟩
  · obtain ⟨x, hx, rfl⟩ := Option.map_eq_some'.1 h
    simp only [withReaderChannel, hdir, Option.map_eq_some'] at hx
    obtain ⟨ch, -, rfl⟩ := hx
    exact ⟨_, rfl, by dsimp only; split_ifs <;> decide⟩

/-- A status `wait_on_channels` returned for a read handle of its caller is the
    `channel_status` of the handle's half. -/
theorem waitOnChannels_status {hs : List Handle} {d : Downgrading} {v : List ChannelReadStatus}
    (h : s.waitOnChannels n hs d = some (.returned (.ok v))) {p : Nat} {k : Handle} {half : ChannelHalf}
    (hk : hs[p]? = some k) (hhalf : s.abiToReadHalf n k = some (.ok half)) :
    ∃ r, s.channelStatus n half d = some r ∧ v[p]? = some (statusOrInvalid r) := by
  obtain ⟨pos, rds, sts, hc, hsts, hall, -⟩ := waitOnChannels_returned_ok h
  obtain ⟨q, hpos, hrds⟩ := collectReaders_mem hc (List.mem_enum_iff_getElem?.2 hk) hhalf
  obtain ⟨r, hr, hst⟩ := readersStatuses_getElem? hsts hrds
  exact ⟨r, hr, transcribe_range_getElem? hall (collectReaders_enum hc).1 (List.getElem?_eq_some_iff.1 hrds).1
    hpos hst⟩

/-- A read half whose status is not `PermissionDenied` passed the read check: its
    channel's label, downgraded as the flag says, flows to the node's label. -/
theorem channelStatus_flowsTo {half : ChannelHalf} {d : Downgrading} {r : Except OakStatus ChannelReadStatus}
    {ch : Channel} (h : s.channelStatus n half d = some r) (hdir : half.direction = .read)
    (hch : s.channels[half.channel]? = some ch) (hne : statusOrInvalid r ≠ .permissionDenied) :
    ∃ ni, s.nodeInfos.lookup n = some ni ∧ (d.apply ni.privilege ch.label).flowsTo ni.label := by
  have hw : s.withReaderChannel half = some (.ok ch) := withReaderChannel_eq_ok.2 ⟨hdir, hch⟩
  cases hn : s.nodeInfos.lookup n with
  | none => simp [channelStatus, validateCanReadFromChannel, hw, validateCanReadFromLabel, getNodeLabel, hn] at h
  | some ni =>
    refine ⟨ni, rfl, ?_⟩
    by_contra hf
    simp only [channelStatus, validateCanReadFromChannel, hw, validateCanReadFromLabel_eq hn, if_neg hf,
      Option.some.injEq] at h
    exact hne (h ▸ rfl)

/-- Whatever the handles, once the read halves are collected and their statuses
    computed, the transcription loop stays inside the vector. -/
theorem transcribe_collected_isSome {hs : List Handle} {d : Downgrading} {pos : List Nat}
    {rds : List ChannelHalf} {sts : List ChannelReadStatus} (hc : s.collectReaders n hs.enum = some (pos, rds))
    (hsts : s.readersStatuses n d rds = some sts) :
    ∃ all, transcribe pos sts (List.range rds.length) (List.replicate hs.length .invalidChannel) = some all :=
  transcribe_isSome fun i hi => by
    have hpos : i < pos.length := by rw [collectReaders_length hc]; exact List.mem_range.1 hi
    have hsts' : i < sts.length := by rw [readersStatuses_length hsts]; exact List.mem_range.1 hi
    refine ⟨pos[i], sts[i], List.getElem?_eq_getElem hpos, List.getElem?_eq_getElem hsts', ?_⟩
    simpa using (collectReaders_enum hc).2 _ (List.getElem_mem hpos)

theorem waitOnChannels_length {hs : List Handle} {d : Downgrading} {v : List ChannelReadStatus}
    (h : s.waitOnChannels n hs d = some (.returned (.ok v))) : v.length = hs.length := by
  obtain ⟨_, _, _, -, -, hall, -⟩ := waitOnChannels_returned_ok h
  rw [transcribe_length hall, List.length_replicate]

/-- A position holds `InvalidChannel` exactly when its handle is not a read handle of
    the caller: a read half's status is never `InvalidChannel`, and a position no read
    handle was collected at keeps the initial one. -/
theorem waitOnChannels_invalid_iff {hs : List Handle} {d : Downgrading} {v : List ChannelReadStatus}
    (h : s.waitOnChannels n hs d = some (.returned (.ok v))) {p : Nat} {k : Handle} (hk : hs[p]? = some k) :
    v[p]? = some .invalidChannel ↔ ¬ ∃ half, s.lookupHandle n k = some half ∧ half.direction = .read := by
  obtain ⟨pos, rds, sts, hc, -, hall, -⟩ := waitOnChannels_returned_ok h
  refine ⟨fun hv ⟨half, hl, hdir⟩ => ?_, fun hnot => ?_⟩
  · obtain ⟨r, hr, hv'⟩ := waitOnChannels_status h hk (abiToReadHalf_eq_ok.2 ⟨hl, hdir⟩)
    obtain ⟨st, rfl, hne⟩ := channelStatus_of_read hr hdir
    exact hne (Option.some.inj (hv'.symm.trans hv))
  · have hfree : ∀ q ∈ List.range rds.length, pos[q]? ≠ some p := fun q _ hq => hnot <| by
      obtain ⟨k', half, hmem, -, hk'⟩ := collectReaders_getElem? hc hq
      obtain rfl : k' = k := Option.some.inj ((List.mem_enum_iff_getElem?.1 hmem).symm.trans hk)
      exact ⟨half, abiToReadHalf_eq_ok.1 hk'⟩
    rw [transcribe_getElem?_of_not_mem hall hfree]
    simp [(List.getElem?_eq_some_iff.1 hk).1]

/-- A returned vector is empty or holds a status other than `NotReady`: the loop
    returns when a computed status is not `NotReady`, when there are no handles, or
    when some handle is not a read handle, whose position keeps `InvalidChannel`. -/
theorem waitOnChannels_ready {hs : List Handle} {d : Downgrading} {v : List ChannelReadStatus}
    (h : s.waitOnChannels n hs d = some (.returned (.ok v))) : v = [] ∨ ∃ st ∈ v, st ≠ .notReady := by
  obtain ⟨pos, rds, sts, hc, hsts, hall, hret⟩ := waitOnChannels_returned_ok h
  obtain ⟨hnodup, hbound⟩ := collectReaders_enum hc
  simp only [Bool.or_eq_true, Bool.not_eq_true', List.all_eq_false, List.isEmpty_iff, bne_iff_ne] at hret
  rcases hret with (⟨st, hst, hne⟩ | rfl) | hne
  · obtain ⟨q, hq⟩ := List.mem_iff_getElem?.1 hst
    have hq' : q < pos.length := by
      rw [collectReaders_length hc, ← readersStatuses_length hsts]; exact (List.getElem?_eq_some_iff.1 hq).1
    have hv := transcribe_range_getElem? hall hnodup (by rwa [← collectReaders_length hc])
      (List.getElem?_eq_getElem hq') hq
    exact .inr ⟨st, List.getElem?_mem hv, by simpa using hne⟩
  · exact .inl (List.length_eq_zero.1 (waitOnChannels_length h))
  · -- fewer read handles than handles: some position was not collected
    obtain ⟨p, hp, hnot⟩ : ∃ p < hs.length, p ∉ pos := by
      by_contra hcov
      push_neg at hcov
      have h₁ := (List.subperm_of_subset hnodup fun x hx => List.mem_range.2 (hbound x hx)).length_le
      have h₂ := (List.subperm_of_subset (List.nodup_range hs.length) fun x hx =>
        hcov x (List.mem_range.1 hx)).length_le
      rw [List.length_range] at h₁ h₂
      exact hne (by rw [← collectReaders_length hc]; omega)
    have hv : v[p]? = some .invalidChannel := by
      rw [transcribe_getElem?_of_not_mem hall fun q _ hq => hnot (List.getElem?_mem hq)]
      simp [hp]
    exact .inr ⟨_, List.getElem?_mem hv, by decide⟩

/-- `wait_on_channels` returns statuses parallel to its input. For every handle list,
    with invalid, write and repeated handles allowed, the transcription never indexes
    out of bounds. A returned vector has one status per handle; a position holds
    `InvalidChannel` exactly when its handle is not a read handle in the caller's
    table, and otherwise the `channel_status` of the handle's half computed in the
    pass that returned; and it is empty or holds a status other than `NotReady`. -/
theorem waitOnChannels_parallel (s : Runtime) (n : NodeId) (hs : List Handle) (d : Downgrading) :
    (∀ pos rds sts, s.collectReaders n hs.enum = some (pos, rds) → s.readersStatuses n d rds = some sts →
      ∃ all, transcribe pos sts (List.range rds.length) (List.replicate hs.length .invalidChannel) = some all) ∧
    ∀ v, s.waitOnChannels n hs d = some (.returned (.ok v)) →
      v.length = hs.length ∧
      (∀ (p : Nat) (k : Handle), hs[p]? = some k →
        (v[p]? = some ChannelReadStatus.invalidChannel ↔
          ¬ ∃ half, s.lookupHandle n k = some half ∧ half.direction = .read)) ∧
      (∀ (p : Nat) (k : Handle) (half : ChannelHalf), hs[p]? = some k → s.lookupHandle n k = some half →
        half.direction = .read →
        ∃ st, s.channelStatus n half d = some (.ok st) ∧ v[p]? = some st) ∧
      (v = [] ∨ ∃ st ∈ v, st ≠ .notReady) := by
  refine ⟨fun _ _ _ hc hsts => transcribe_collected_isSome hc hsts, fun v h =>
    ⟨waitOnChannels_length h, fun p k hk => waitOnChannels_invalid_iff h hk, fun p k half hk hl hdir => ?_,
      waitOnChannels_ready h⟩⟩
  obtain ⟨r, hr, hv⟩ := waitOnChannels_status h hk (abiToReadHalf_eq_ok.2 ⟨hl, hdir⟩)
  obtain ⟨st, rfl, -⟩ := channelStatus_of_read hr hdir
  exact ⟨st, hr, hv⟩

end Runtime

end OakRuntime

import OakRuntime.Failure

/-!
# What a Successful Call Does

One spec lemma per operation of the runtime: what a call that succeeded checked, and
what it changed. Every run-level argument in the later modules cites these and never
unfolds an operation again.

The effects come in three kinds. Installing handles (`new_abi_handle`, once or several
times) extends one node's table by fresh handles and logs `HandleCreated`; `Installed`
records exactly that. Moving a message appends to one queue (`channel_write`) or pops
its front (`channel_read`, `channel_try_read_message`). Dropping a half erases one
handle and runs the drop cascade, which only empties the queues of channels no half
refers to any more; `Reclaimed` records that.

The node records are `AList`s, whose insertion moves an entry to the front, so the
lemmas here speak of lookups rather than of the lists themselves.

## Main definitions

* `HandleTable.insertAll`: Installing several handles.
* `Installed`: A state with fresh handles installed in one node's table.
* `Reclaimed`: A state whose queues the drop cascade may have emptied.
* `Runtime.WriteStep`, `Runtime.ReadStep`: What a successful write and read did.

## Theorems

* `Runtime.newAbiHandles_installed`: `new_abi_handle` over a list of halves.
* `Runtime.messageFrom_spec`: The message a write builds.
* `Runtime.channelWrite_ok`, `Runtime.channelRead_some`,
  `Runtime.channelTryReadMessage_success`: The message paths.
* `Runtime.channelCreate_ok`, `Runtime.handleClone_ok`, `Runtime.dropAbiHandle_ok`,
  `Runtime.nodeRegister_ok`, `Runtime.removeNodeId_spec`: The other operations.
-/

namespace OakRuntime

/-- The handles `hs` installed for `halves`, pair by pair. -/
def HandleTable.insertAll : HandleTable → List Handle → List ChannelHalf → HandleTable
  | t, h :: hs, half :: halves => insertAll (t.insert h half) hs halves
  | t, _, _ => t

namespace HandleTable

theorem lookup_insertAll_of_not_mem (t : HandleTable) {hs : List Handle} (halves : List ChannelHalf)
    {h : Handle} (hh : h ∉ hs) : (t.insertAll hs halves).lookup h = t.lookup h := by
  induction hs generalizing t halves with
  | nil => rfl
  | cons h' hs ih =>
    cases halves with
    | nil => rfl
    | cons half halves =>
      simp only [List.mem_cons, not_or] at hh
      rw [insertAll, ih _ _ hh.2, AList.lookup_insert_ne hh.1]

/-- Distinct handles each map to their own half. -/
theorem map_lookup_insertAll (t : HandleTable) {hs : List Handle} {halves : List ChannelHalf}
    (hnd : hs.Nodup) (hlen : hs.length = halves.length) :
    hs.map (t.insertAll hs halves).lookup = halves.map some := by
  induction hs generalizing t halves with
  | nil => cases halves <;> simp_all
  | cons h hs ih =>
    cases halves with
    | nil => simp at hlen
    | cons half halves =>
      rw [List.nodup_cons] at hnd
      simp only [insertAll, List.map_cons, ih _ hnd.2 (Nat.succ.inj hlen),
        lookup_insertAll_of_not_mem _ _ hnd.1, AList.lookup_insert]

/-- Every entry of the extended table was there before, or maps one of `hs` to one of
    `halves`. -/
theorem mem_insertAll {t : HandleTable} {hs : List Handle} {halves : List ChannelHalf}
    {x : Sigma fun _ : Handle => ChannelHalf} (hx : x ∈ (t.insertAll hs halves).entries) :
    x ∈ t.entries ∨ (x.1 ∈ hs ∧ x.2 ∈ halves) := by
  induction hs generalizing t halves with
  | nil => exact .inl hx
  | cons h hs ih =>
    cases halves with
    | nil => exact .inl hx
    | cons half halves =>
      rcases ih hx with hx | ⟨hh, hx⟩
      · rcases List.mem_cons.1 hx with rfl | hx
        · exact .inr ⟨List.mem_cons_self _ _, List.mem_cons_self _ _⟩
        · exact .inl (List.kerase_sublist _ _ |>.subset hx)
      · exact .inr ⟨List.mem_cons_of_mem _ hh, List.mem_cons_of_mem _ hx⟩

end HandleTable

namespace Runtime

/-- The half node `n`'s handle `h` maps to, if the node and the handle exist. -/
def lookupHandle (s : Runtime) (n : NodeId) (h : Handle) : Option ChannelHalf :=
  (s.nodeInfos.lookup n).bind (·.abiHandles.lookup h)

theorem lookupHandle_eq_some {s : Runtime} {n : NodeId} {h : Handle} {half : ChannelHalf} :
    s.lookupHandle n h = some half ↔ ∃ ni, s.nodeInfos.lookup n = some ni ∧ ni.abiHandles.lookup h = some half :=
  Option.bind_eq_some

/-- A half is held by some node's table exactly when some handle maps to it. -/
theorem mem_tableHalves {s : Runtime} {x : ChannelHalf} : x ∈ s.tableHalves ↔ ∃ m h, s.lookupHandle m h = some x := by
  simp only [tableHalves, List.mem_flatMap, List.mem_map, lookupHandle, Option.bind_eq_some]
  constructor
  · rintro ⟨⟨m, ni⟩, hm, ⟨h, x'⟩, hx, rfl⟩
    exact ⟨m, h, ni, AList.mem_lookup_iff.2 hm, AList.mem_lookup_iff.2 hx⟩
  · rintro ⟨m, h, ni, hni, hx⟩
    exact ⟨⟨m, ni⟩, AList.mem_lookup_iff.1 hni, ⟨h, x⟩, AList.mem_lookup_iff.1 hx, rfl⟩

end Runtime

/-- `s'` is `s` with the fresh, distinct handles `hs` for `halves` installed in node
    `n`'s table and a `HandleCreated` event logged for each: what `new_abi_handle`
    does, once or several times over. Nothing else changes. -/
structure Installed (s s' : Runtime) (n : NodeId) (hs : List Handle) (halves : List ChannelHalf) :
    Prop where
  length_eq : hs.length = halves.length
  nodup : hs.Nodup
  core : ∃ infos, s' = { s with nodeInfos := infos, introspectionEventQueue := s'.introspectionEventQueue }
  lookup_ne : ∀ m, m ≠ n → s'.nodeInfos.lookup m = s.nodeInfos.lookup m
  lookup_self : s'.nodeInfos.lookup n =
    (s.nodeInfos.lookup n).map fun ni => { ni with abiHandles := ni.abiHandles.insertAll hs halves }
  fresh : ∀ h ∈ hs, ∃ ni, s.nodeInfos.lookup n = some ni ∧ ni.abiHandles.lookup h = none
  events : s'.introspectionEventQueue = s.introspectionEventQueue ++
    List.zipWith (fun h half => EventDetails.handleCreated n.val h (s.channelIdOf half) half.direction)
      hs halves

namespace Installed

variable {s s₁ s' : Runtime} {n : NodeId} {hs : List Handle} {halves : List ChannelHalf}

theorem refl (s : Runtime) (n : NodeId) : Installed s s n [] [] where
  length_eq := rfl
  nodup := List.nodup_nil
  core := ⟨s.nodeInfos, rfl⟩
  lookup_ne _ _ := rfl
  lookup_self := by cases s.nodeInfos.lookup n <;> rfl
  fresh := by simp
  events := by simp

theorem channels_eq (hi : Installed s s' n hs halves) : s'.channels = s.channels := by
  obtain ⟨_, h⟩ := hi.core; rw [h]

theorem terminating_eq (hi : Installed s s' n hs halves) : s'.terminating = s.terminating := by
  obtain ⟨_, h⟩ := hi.core; rw [h]

theorem nextNodeId_eq (hi : Installed s s' n hs halves) : s'.nextNodeId = s.nextNodeId := by
  obtain ⟨_, h⟩ := hi.core; rw [h]

theorem queuedHalves_eq (hi : Installed s s' n hs halves) : s'.queuedHalves = s.queuedHalves := by
  simp only [Runtime.queuedHalves, hi.channels_eq]

theorem channelIdOf_eq (hi : Installed s s' n hs halves) (half : ChannelHalf) :
    s'.channelIdOf half = s.channelIdOf half := by
  simp only [Runtime.channelIdOf, hi.channels_eq]

/-- Every handle a node held before still maps to the same half. -/
theorem lookupHandle_of (hi : Installed s s' n hs halves) {m : NodeId} {h : Handle} {x : ChannelHalf}
    (hx : s.lookupHandle m h = some x) : s'.lookupHandle m h = some x := by
  obtain ⟨ni, hni, hh⟩ := Runtime.lookupHandle_eq_some.1 hx
  by_cases hm : m = n
  · subst hm
    have hnot : h ∉ hs := fun hmem => by
      obtain ⟨ni', hni', hnone⟩ := hi.fresh h hmem
      rw [hni, Option.some.injEq] at hni'
      subst hni'
      rw [hnone] at hh
      cases hh
    refine Runtime.lookupHandle_eq_some.2 ⟨_, by rw [hi.lookup_self, hni]; rfl, ?_⟩
    rwa [HandleTable.lookup_insertAll_of_not_mem _ _ hnot]
  · exact Runtime.lookupHandle_eq_some.2 ⟨ni, by rw [hi.lookup_ne m hm, hni], hh⟩

/-- The new handles map to the installed halves, in order. -/
theorem map_lookupHandle (hi : Installed s s' n hs halves) : hs.map (s'.lookupHandle n) = halves.map some := by
  cases hni : s.nodeInfos.lookup n with
  | none =>
    have hnil : hs = [] := List.eq_nil_iff_forall_not_mem.2 fun h hmem => by
      obtain ⟨_, hni', -⟩ := hi.fresh h hmem
      rw [hni] at hni'
      cases hni'
    have := hi.length_eq
    rw [hnil] at this ⊢
    rw [List.eq_nil_of_length_eq_zero this.symm]
    rfl
  | some ni =>
    have hself : s'.lookupHandle n = (ni.abiHandles.insertAll hs halves).lookup := by
      funext h
      simp [Runtime.lookupHandle, hi.lookup_self, hni]
    rw [hself]
    exact HandleTable.map_lookup_insertAll _ hi.nodup hi.length_eq

/-- A handle maps to what it mapped to before, or is one of the installed handles and
    maps to one of the installed halves. -/
theorem lookupHandle_cases (hi : Installed s s' n hs halves) {m : NodeId} {h : Handle} {x : ChannelHalf}
    (hx : s'.lookupHandle m h = some x) : s.lookupHandle m h = some x ∨ (m = n ∧ h ∈ hs ∧ x ∈ halves) := by
  obtain ⟨ni', hni', hh⟩ := Runtime.lookupHandle_eq_some.1 hx
  by_cases hm : m = n
  · subst hm
    rw [hi.lookup_self] at hni'
    obtain ⟨ni, hni, rfl⟩ := Option.map_eq_some'.1 hni'
    rcases HandleTable.mem_insertAll (AList.mem_lookup_iff.1 hh) with hmem | hmem
    · exact .inl (Runtime.lookupHandle_eq_some.2 ⟨ni, hni, AList.mem_lookup_iff.2 hmem⟩)
    · exact .inr ⟨rfl, hmem⟩
  · exact .inl (Runtime.lookupHandle_eq_some.2 ⟨ni', by rwa [← hi.lookup_ne m hm], hh⟩)

theorem mem_tableHalves (hi : Installed s s' n hs halves) {x : ChannelHalf} (hx : x ∈ s'.tableHalves) :
    x ∈ s.tableHalves ∨ x ∈ halves := by
  obtain ⟨m, h, hmh⟩ := Runtime.mem_tableHalves.1 hx
  rcases hi.lookupHandle_cases hmh with hmh | ⟨-, -, hmem⟩
  · exact .inl (Runtime.mem_tableHalves.2 ⟨m, h, hmh⟩)
  · exact .inr hmem

/-- Installing a first handle, then the rest. -/
theorem cons {h : Handle} {half : ChannelHalf} (h₁ : Installed s s₁ n [h] [half])
    (h₂ : Installed s₁ s' n hs halves) : Installed s s' n (h :: hs) (half :: halves) where
  length_eq := by rw [List.length_cons, h₂.length_eq]; rfl
  nodup := by
    refine List.nodup_cons.2 ⟨fun hmem => ?_, h₂.nodup⟩
    obtain ⟨ni, hni, hnone⟩ := h₂.fresh h hmem
    rw [h₁.lookup_self] at hni
    obtain ⟨ni₀, -, rfl⟩ := Option.map_eq_some'.1 hni
    simp [HandleTable.insertAll, AList.lookup_insert] at hnone
  core := by
    obtain ⟨i₁, e₁⟩ := h₁.core
    obtain ⟨i₂, e₂⟩ := h₂.core
    exact ⟨i₂, by rw [e₂, e₁]⟩
  lookup_ne m hm := by rw [h₂.lookup_ne m hm, h₁.lookup_ne m hm]
  lookup_self := by
    rw [h₂.lookup_self, h₁.lookup_self, Option.map_map]
    rfl
  fresh h' hmem := by
    rcases List.mem_cons.1 hmem with rfl | hmem
    · exact h₁.fresh h' (List.mem_singleton_self _)
    obtain ⟨ni, hni, hnone⟩ := h₂.fresh h' hmem
    rw [h₁.lookup_self] at hni
    obtain ⟨ni₀, hni₀, rfl⟩ := Option.map_eq_some'.1 hni
    have hne : h' ≠ h := by
      rintro rfl
      simp [HandleTable.insertAll, AList.lookup_insert] at hnone
    refine ⟨ni₀, hni₀, ?_⟩
    simpa [HandleTable.insertAll, AList.lookup_insert_ne hne] using hnone
  events := by
    simp only [h₂.events, h₁.events, h₁.channelIdOf_eq, List.append_assoc]
    rfl

end Installed

namespace Runtime

variable {s s' : Runtime}

theorem newAbiHandle_installed {n : NodeId} {half : ChannelHalf} {rng rest : List Handle} {h : Handle}
    (hn : s.newAbiHandle n half rng = some (h, rest, s')) : Installed s s' n [h] [half] := by
  obtain ⟨ni, hni, hf, rfl⟩ := newAbiHandle_eq_some.1 hn
  exact {
    length_eq := rfl
    nodup := List.nodup_singleton h
    core := ⟨_, rfl⟩
    lookup_ne := fun m hm => by simp only [introspectionEvent, lookup_setNodeInfo, hm, if_false]
    lookup_self := by simp [introspectionEvent, lookup_setNodeInfo, hni, HandleTable.insertAll]
    fresh := fun h' hh' => by
      rw [List.mem_singleton.1 hh']
      exact ⟨ni, hni, firstFreeHandle_fresh hf⟩
    events := rfl }

theorem newAbiHandles_installed {n : NodeId} {halves : List ChannelHalf} {rng rest hs : List Handle}
    (hn : newAbiHandles n s halves rng = some (hs, rest, s')) : Installed s s' n hs halves := by
  induction halves generalizing s rng rest hs with
  | nil =>
    simp only [newAbiHandles, Option.some.injEq, Prod.mk.injEq] at hn
    obtain ⟨rfl, -, rfl⟩ := hn
    exact .refl s n
  | cons half halves ih =>
    simp only [newAbiHandles] at hn
    split at hn
    · cases hn
    · rename_i h rng₁ s₁ h₁
      split at hn
      · cases hn
      · rename_i hs' rng₂ s₂ h₂
        simp only [Option.some.injEq, Prod.mk.injEq] at hn
        obtain ⟨rfl, -, rfl⟩ := hn
        exact (newAbiHandle_installed h₁).cons (ih h₂)

/-! ### Resolving handles -/

theorem abiToHalf_eq_ok {n : NodeId} {h : Handle} {half : ChannelHalf} :
    s.abiToHalf n h = some (.ok half) ↔ s.lookupHandle n h = some half := by
  simp only [abiToHalf, lookupHandle, Option.map_eq_some', Option.bind_eq_some]
  refine exists_congr fun ni => and_congr_right fun _ => ?_
  cases ni.abiHandles.lookup h <;> simp

theorem abiToReadHalf_eq_ok {n : NodeId} {h : Handle} {half : ChannelHalf} :
    s.abiToReadHalf n h = some (.ok half) ↔ s.lookupHandle n h = some half ∧ half.direction = .read := by
  rw [← abiToHalf_eq_ok, abiToReadHalf]
  rcases s.abiToHalf n h with _ | _ | ⟨c, _ | _⟩ <;> simp <;> rintro rfl <;> simp

theorem abiToWriteHalf_eq_ok {n : NodeId} {h : Handle} {half : ChannelHalf} :
    s.abiToWriteHalf n h = some (.ok half) ↔ s.lookupHandle n h = some half ∧ half.direction = .write := by
  rw [← abiToHalf_eq_ok, abiToWriteHalf]
  rcases s.abiToHalf n h with _ | _ | ⟨c, _ | _⟩ <;> simp <;> rintro rfl <;> simp

theorem abiToHalves_cons_eq_ok {n : NodeId} {h : Handle} {hs : List Handle} {halves : List ChannelHalf} :
    s.abiToHalves n (h :: hs) = some (.ok halves) ↔
      ∃ half rest, halves = half :: rest ∧ s.abiToHalf n h = some (.ok half) ∧
        s.abiToHalves n hs = some (.ok rest) := by
  simp only [abiToHalves]
  rcases s.abiToHalf n h with _ | _ | half
  · simp
  · simp
  · rcases s.abiToHalves n hs with _ | _ | rest <;> simp [Except.map, eq_comm]

/-- A list of handles resolves when each of them does. -/
theorem abiToHalves_eq_ok {n : NodeId} {hs : List Handle} {halves : List ChannelHalf} :
    s.abiToHalves n hs = some (.ok halves) ↔ hs.map (s.lookupHandle n) = halves.map some := by
  induction hs generalizing halves with
  | nil => cases halves <;> simp [abiToHalves]
  | cons h hs ih =>
    rw [abiToHalves_cons_eq_ok]
    cases halves with
    | nil => simp
    | cons half rest =>
      simp only [abiToHalf_eq_ok, ih, List.cons.injEq, List.map_cons, Option.some.injEq]
      constructor
      · rintro ⟨_, _, ⟨rfl, rfl⟩, h₁, h₂⟩; exact ⟨h₁, h₂⟩
      · rintro ⟨h₁, h₂⟩; exact ⟨_, _, ⟨rfl, rfl⟩, h₁, h₂⟩

/-- `message_from`: the message carries the node message's bytes and the halves its
    handles map to. -/
theorem messageFrom_spec {nm : NodeMessage} {n : NodeId} {m : Message} :
    s.messageFrom nm n = some (.ok m) ↔ m.data = nm.bytes ∧ nm.handles.map (s.lookupHandle n) = m.channels.map some := by
  rw [messageFrom, ← abiToHalves_eq_ok]
  rcases s.abiToHalves n nm.handles with _ | _ | halves
  · simp
  · simp [Except.map]
  · cases m; simp [Except.map, eq_comm, and_comm]

theorem withReaderChannel_eq_ok {half : ChannelHalf} {ch : Channel} :
    s.withReaderChannel half = some (.ok ch) ↔ half.direction = .read ∧ s.channels[half.channel]? = some ch := by
  rcases half with ⟨c, _ | _⟩ <;> simp [withReaderChannel]

theorem withWriterChannel_eq_ok {half : ChannelHalf} {ch : Channel} :
    s.withWriterChannel half = some (.ok ch) ↔ half.direction = .write ∧ s.channels[half.channel]? = some ch := by
  rcases half with ⟨c, _ | _⟩ <;> simp [withWriterChannel]

theorem validateCanWriteToLabel_eq_ok {n : NodeId} {l : Label} {d : Downgrading} :
    s.validateCanWriteToLabel n l d = some (.ok ()) ↔
      ∃ ni, s.nodeInfos.lookup n = some ni ∧ (d.apply ni.privilege ni.label).flowsTo l := by
  cases hn : s.nodeInfos.lookup n with
  | none => simp [validateCanWriteToLabel, getNodeLabel, hn]
  | some ni => rw [validateCanWriteToLabel_eq hn]; split <;> simp [*]

theorem validateCanReadFromLabel_eq_ok {n : NodeId} {l : Label} {d : Downgrading} :
    s.validateCanReadFromLabel n l d = some (.ok ()) ↔
      ∃ ni, s.nodeInfos.lookup n = some ni ∧ (d.apply ni.privilege l).flowsTo ni.label := by
  cases hn : s.nodeInfos.lookup n with
  | none => simp [validateCanReadFromLabel, getNodeLabel, hn]
  | some ni => rw [validateCanReadFromLabel_eq hn]; split <;> simp [*]

theorem validateCanWriteToChannel_eq_ok {n : NodeId} {half : ChannelHalf} {d : Downgrading} :
    s.validateCanWriteToChannel n half d = some (.ok ()) ↔
      ∃ ch, s.withWriterChannel half = some (.ok ch) ∧ s.validateCanWriteToLabel n ch.label d = some (.ok ()) := by
  unfold validateCanWriteToChannel
  rcases s.withWriterChannel half with _ | _ | ch <;> simp

theorem validateCanReadFromChannel_eq_ok {n : NodeId} {half : ChannelHalf} {d : Downgrading} :
    s.validateCanReadFromChannel n half d = some (.ok ()) ↔
      ∃ ch, s.withReaderChannel half = some (.ok ch) ∧ s.validateCanReadFromLabel n ch.label d = some (.ok ()) := by
  unfold validateCanReadFromChannel
  rcases s.withReaderChannel half with _ | _ | ch <;> simp

theorem nodeMessageFrom_spec {m : Message} {n : NodeId} {rng : List Handle} {nm : NodeMessage}
    (h : s.nodeMessageFrom m n rng = some (nm, s')) : nm.bytes = m.data ∧ Installed s s' n nm.handles m.channels := by
  simp only [nodeMessageFrom, Option.map_eq_some', Prod.mk.injEq, Prod.exists] at h
  obtain ⟨hs, _, _, h, rfl, rfl⟩ := h
  exact ⟨rfl, newAbiHandles_installed h⟩

/-! ### Moving messages -/

/-- What a successful `channel_write` of `nm` through `handle` did: the handle named a
    write half of an existing channel, the writer's label (under `d`) flows to the
    channel's, every carried handle resolved, the channel had readers, and the message
    `message_from` built went to the back of its queue. -/
structure WriteStep (s s' : Runtime) (n : NodeId) (handle : Handle) (d : Downgrading) (nm : NodeMessage)
    (ni : NodeInfo) (half : ChannelHalf) (ch : Channel) (m : Message) : Prop where
  lookup_node : s.nodeInfos.lookup n = some ni
  lookup_handle : ni.abiHandles.lookup handle = some half
  direction : half.direction = .write
  channel : s.channels[half.channel]? = some ch
  check : (d.apply ni.privilege ni.label).flowsTo ch.label
  message : s.messageFrom nm n = some (.ok m)
  has_readers : s.hasReaders half.channel
  post : s' = (s.setQueue half.channel (ch.messages ++ [m])).introspectionEvent
    (.messageEnqueued n.val (s.channelIdOf half) nm.handles)

theorem channelWrite_ok {n : NodeId} {handle : Handle} {nm : NodeMessage} {d : Downgrading}
    (h : s.channelWrite n handle nm d = some (.ok (), s')) : ∃ ni half ch m, WriteStep s s' n handle d nm ni half ch m := by
  unfold channelWrite at h
  obtain ⟨_, -, he, -⟩ | ⟨half, hhalf, h₁⟩ := checked_eq_some h; · cases he
  obtain ⟨_, -, he, -⟩ | ⟨⟨⟩, hval, h₂⟩ := checked_eq_some h₁; · cases he
  obtain ⟨_, -, he, -⟩ | ⟨m, hm, h₃⟩ := checked_eq_some h₂; · cases he
  obtain ⟨hl, hdir⟩ := abiToWriteHalf_eq_ok.1 hhalf
  obtain ⟨ni, hni, hh⟩ := lookupHandle_eq_some.1 hl
  obtain ⟨ch, hch, hv⟩ := validateCanWriteToChannel_eq_ok.1 hval
  obtain ⟨ni', hni', hflow⟩ := validateCanWriteToLabel_eq_ok.1 hv
  obtain rfl : ni = ni' := Option.some.inj (hni.symm.trans hni')
  simp only [hch] at h₃
  split at h₃
  · cases h₃
    exact ⟨ni, half, ch, m, hni, hh, hdir, (withWriterChannel_eq_ok.1 hch).2, hflow, hm, ‹_›, rfl⟩
  · cases h₃

/-- What a successful read of `nm` through `handle` did: the handle named a read half
    of an existing channel whose label (under `d`) flows to the reader's, the channel's
    front message `m` was popped, and its halves were installed in the reader's table
    under fresh handles. -/
structure ReadStep (s s' : Runtime) (n : NodeId) (handle : Handle) (d : Downgrading) (nm : NodeMessage)
    (ni : NodeInfo) (half : ChannelHalf) (ch : Channel) (m : Message) (rest : List Message) : Prop where
  lookup_node : s.nodeInfos.lookup n = some ni
  lookup_handle : ni.abiHandles.lookup handle = some half
  direction : half.direction = .read
  channel : s.channels[half.channel]? = some ch
  check : (d.apply ni.privilege ch.label).flowsTo ni.label
  front : ch.messages = m :: rest
  bytes : nm.bytes = m.data
  post : ∃ s₁, Installed (s.setQueue half.channel rest) s₁ n nm.handles m.channels ∧
    s' = s₁.introspectionEvent (.messageDequeued n.val (s.channelIdOf half) nm.handles)

/-- The checks both read paths make before they look at the queue. -/
theorem read_checks {n : NodeId} {handle : Handle} {d : Downgrading} {half : ChannelHalf} {ch : Channel}
    (hhalf : s.abiToReadHalf n handle = some (.ok half))
    (hval : s.validateCanReadFromChannel n half d = some (.ok ()))
    (hch : s.withReaderChannel half = some (.ok ch)) :
    ∃ ni, s.nodeInfos.lookup n = some ni ∧ ni.abiHandles.lookup handle = some half ∧
      half.direction = .read ∧ s.channels[half.channel]? = some ch ∧
      (d.apply ni.privilege ch.label).flowsTo ni.label := by
  obtain ⟨hl, hdir⟩ := abiToReadHalf_eq_ok.1 hhalf
  obtain ⟨ni, hni, hh⟩ := lookupHandle_eq_some.1 hl
  obtain ⟨ch', hch', hv⟩ := validateCanReadFromChannel_eq_ok.1 hval
  obtain rfl : ch' = ch := by rw [hch] at hch'; exact (Except.ok.inj (Option.some.inj hch')).symm
  obtain ⟨ni', hni', hflow⟩ := validateCanReadFromLabel_eq_ok.1 hv
  obtain rfl : ni = ni' := Option.some.inj (hni.symm.trans hni')
  exact ⟨ni, hni, hh, hdir, (withReaderChannel_eq_ok.1 hch).2, hflow⟩

theorem channelRead_some {n : NodeId} {handle : Handle} {d : Downgrading} {rng : List Handle}
    {nm : NodeMessage} (h : s.channelRead n handle d rng = some (.ok (some nm), s')) :
    ∃ ni half ch m rest, ReadStep s s' n handle d nm ni half ch m rest := by
  unfold channelRead at h
  obtain ⟨_, -, he, -⟩ | ⟨half, hhalf, h₁⟩ := checked_eq_some h; · cases he
  obtain ⟨_, -, he, -⟩ | ⟨⟨⟩, hval, h₂⟩ := checked_eq_some h₁; · cases he
  obtain ⟨_, -, he, -⟩ | ⟨ch, hch, h₃⟩ := checked_eq_some h₂; · cases he
  obtain ⟨ni, hni, hh, hdir, hc, hflow⟩ := read_checks hhalf hval hch
  split at h₃
  · split at h₃ <;> cases h₃
  · rename_i m rest hms
    split at h₃
    · cases h₃
    · rename_i nm' s₁ hmf
      cases h₃
      obtain ⟨hb, hi⟩ := nodeMessageFrom_spec hmf
      exact ⟨ni, half, ch, m, rest, hni, hh, hdir, hc, hflow, hms, hb, s₁, hi, rfl⟩

theorem channelTryReadMessage_success {n : NodeId} {handle : Handle} {b k : Nat} {d : Downgrading}
    {rng : List Handle} {nm : NodeMessage}
    (h : s.channelTryReadMessage n handle b k d rng = some (.ok (some (.success nm)), s')) :
    ∃ ni half ch m rest, ReadStep s s' n handle d nm ni half ch m rest := by
  unfold channelTryReadMessage at h
  obtain ⟨_, -, he, -⟩ | ⟨half, hhalf, h₁⟩ := checked_eq_some h; · cases he
  obtain ⟨_, -, he, -⟩ | ⟨⟨⟩, hval, h₂⟩ := checked_eq_some h₁; · cases he
  obtain ⟨_, -, he, -⟩ | ⟨ch, hch, h₃⟩ := checked_eq_some h₂; · cases he
  obtain ⟨ni, hni, hh, hdir, hc, hflow⟩ := read_checks hhalf hval hch
  split at h₃
  · split at h₃ <;> cases h₃
  · rename_i m rest hms
    split at h₃
    · cases h₃
    · split at h₃
      · cases h₃
      · rename_i nm' s₁ hmf
        cases h₃
        obtain ⟨hb, hi⟩ := nodeMessageFrom_spec hmf
        exact ⟨ni, half, ch, m, rest, hni, hh, hdir, hc, hflow, hms, hb, s₁, hi, rfl⟩

/-- A `channel_read` that returned no message changed nothing. -/
theorem channelRead_eq_of_ne {n : NodeId} {handle : Handle} {d : Downgrading} {rng : List Handle}
    {r : Except OakStatus (Option NodeMessage)} (h : s.channelRead n handle d rng = some (r, s'))
    (hr : ∀ nm, r ≠ .ok (some nm)) : s' = s := by
  unfold channelRead at h
  rcases checked_eq_some h with ⟨_, -, -, rfl⟩ | ⟨_, -, h₁⟩; · rfl
  rcases checked_eq_some h₁ with ⟨_, -, -, rfl⟩ | ⟨_, -, h₂⟩; · rfl
  rcases checked_eq_some h₂ with ⟨_, -, -, rfl⟩ | ⟨_, -, h₃⟩; · rfl
  split at h₃
  · split at h₃ <;> cases h₃ <;> rfl
  · split at h₃
    · cases h₃
    · cases h₃; exact absurd rfl (hr _)

/-- A capacity probe that delivered no message changed nothing. -/
theorem channelTryReadMessage_eq_of_ne {n : NodeId} {handle : Handle} {b k : Nat} {d : Downgrading}
    {rng : List Handle} {r : Except OakStatus (Option NodeReadStatus)}
    (h : s.channelTryReadMessage n handle b k d rng = some (r, s'))
    (hr : ∀ nm, r ≠ .ok (some (.success nm))) : s' = s := by
  unfold channelTryReadMessage at h
  rcases checked_eq_some h with ⟨_, -, -, rfl⟩ | ⟨_, -, h₁⟩; · rfl
  rcases checked_eq_some h₁ with ⟨_, -, -, rfl⟩ | ⟨_, -, h₂⟩; · rfl
  rcases checked_eq_some h₂ with ⟨_, -, -, rfl⟩ | ⟨_, -, h₃⟩; · rfl
  split at h₃
  · split at h₃ <;> cases h₃ <;> rfl
  · split at h₃
    · cases h₃; rfl
    · split at h₃
      · cases h₃
      · cases h₃; exact absurd rfl (hr _)

/-! ### Halves, references and the drop cascade -/

theorem mem_halves {x : ChannelHalf} :
    x ∈ s.halves ↔ (∃ m h, s.lookupHandle m h = some x) ∨ x ∈ s.queuedHalves := by
  rw [halves, List.mem_append, mem_tableHalves]

/-- States with the same channels and the same handle tables refer to the same
    channels. -/
theorem referenced_congr (hc : s'.channels = s.channels)
    (hl : ∀ m h, s'.lookupHandle m h = s.lookupHandle m h) (c : Nat) :
    s'.Referenced c ↔ s.Referenced c := by
  simp only [Referenced, mem_halves, hl, queuedHalves, hc]

theorem referenced_of_reclaim {c : Nat} (h : s.reclaim.Referenced c) : s.Referenced c := by
  obtain ⟨x, hx, hc⟩ := h
  exact ⟨x, halves_reclaim_subset s hx, hc⟩

theorem length_reclaimLoop (n : Nat) (s : Runtime) :
    (reclaimLoop n s).channels.length = s.channels.length := by
  induction n generalizing s with
  | zero => rfl
  | succ n ih =>
    simp only [reclaimLoop]
    split
    · rfl
    · rw [ih, length_setQueue]

@[simp] theorem lookupHandle_reclaim (n : NodeId) (h : Handle) :
    s.reclaim.lookupHandle n h = s.lookupHandle n h := by
  simp only [lookupHandle, nodeInfos_reclaim]

theorem lookupHandle_setNodeInfo (n m : NodeId) (ni : NodeInfo) (h : Handle) :
    (s.setNodeInfo n ni).lookupHandle m h = if m = n then ni.abiHandles.lookup h else s.lookupHandle m h := by
  simp only [lookupHandle, lookup_setNodeInfo]
  split <;> rfl

end Runtime

/-- `s'` has the channels of `s`, except that the drop cascade may have emptied the
    queues of channels no half of `s'` refers to any more. -/
structure Reclaimed (s s' : Runtime) : Prop where
  length_eq : s'.channels.length = s.channels.length
  channel : ∀ c, s'.channels[c]? = s.channels[c]? ∨
    (s'.channels[c]? = (s.channels[c]?).map (fun ch => { ch with messages := [] }) ∧ ¬ s'.Referenced c)

namespace Reclaimed

variable {s s₁ s' : Runtime}

theorem of_channels_eq (h : s'.channels = s.channels) : Reclaimed s s' :=
  ⟨by rw [h], fun _ => .inl (by rw [h])⟩

theorem reclaim (s : Runtime) : Reclaimed s s.reclaim :=
  ⟨Runtime.length_reclaimLoop _ _, Runtime.getElem?_reclaimLoop _ s⟩

/-- Chaining two cascades, the second of which adds no reference. -/
theorem trans (h₁ : Reclaimed s s₁) (h₂ : Reclaimed s₁ s') (href : ∀ c, s'.Referenced c → s₁.Referenced c) :
    Reclaimed s s' where
  length_eq := h₂.length_eq.trans h₁.length_eq
  channel c := by
    rcases h₂.channel c with e₂ | ⟨e₂, hn₂⟩
    · rcases h₁.channel c with e₁ | ⟨e₁, hn₁⟩
      · exact .inl (e₂.trans e₁)
      · exact .inr ⟨e₂.trans e₁, fun hr => hn₁ (href c hr)⟩
    · rcases h₁.channel c with e₁ | ⟨e₁, -⟩
      · exact .inr ⟨by rw [e₂, e₁], hn₂⟩
      · exact .inr ⟨by rw [e₂, e₁, Option.map_map]; rfl, hn₂⟩

/-- A queue is kept, or it was emptied and its channel is unreferenced. -/
theorem queueOf (h : Reclaimed s s') (c : Nat) :
    s'.queueOf c = s.queueOf c ∨ (s'.queueOf c = [] ∧ ¬ s'.Referenced c ∧ c < s'.channels.length) := by
  rcases h.channel c with e | ⟨e, hn⟩
  · exact .inl (by simp only [Runtime.queueOf, e])
  · cases hc : s.channels[c]? with
    | none => exact .inl (by simp only [Runtime.queueOf, e, hc, Option.map_none'])
    | some ch =>
      refine .inr ⟨by simp [Runtime.queueOf, e, hc], hn, ?_⟩
      rw [h.length_eq]
      exact (List.getElem?_eq_some_iff.1 hc).1

/-- The cascade only drops queued halves. -/
theorem queuedHalves_subset (h : Reclaimed s s') : s'.queuedHalves ⊆ s.queuedHalves := by
  intro x hx
  simp only [Runtime.queuedHalves, List.mem_flatMap] at hx ⊢
  obtain ⟨ch', hch', m, hm, hx⟩ := hx
  obtain ⟨c, hc⟩ := List.mem_iff_getElem?.1 hch'
  rcases h.channel c with e | ⟨e, -⟩
  · exact ⟨ch', List.mem_iff_getElem?.2 ⟨c, e ▸ hc⟩, m, hm, hx⟩
  · rw [hc] at e
    obtain ⟨ch, -, rfl⟩ := Option.map_eq_some'.1 e.symm
    cases hm

theorem label (h : Reclaimed s s') (c : Nat) :
    (s'.channels[c]?).map Channel.label = (s.channels[c]?).map Channel.label := by
  rcases h.channel c with e | ⟨e, -⟩ <;> simp [e, Option.map_map, Function.comp_def]

theorem channelIdOf (h : Reclaimed s s') (half : ChannelHalf) :
    s'.channelIdOf half = s.channelIdOf half := by
  rcases h.channel half.channel with e | ⟨e, -⟩ <;>
    simp [Runtime.channelIdOf, e, Option.map_map, Function.comp_def]

end Reclaimed

namespace Runtime

variable {s s' : Runtime}

/-! ### The other operations -/

theorem channelCreate_ok {n : NodeId} {name : String} {label : Label} {d : Downgrading} {rng : List Handle}
    {w r : Handle} (h : s.channelCreate n name label d rng = some (.ok (w, r), s')) :
    s.terminating = false ∧
      (∃ ni, s.nodeInfos.lookup n = some ni ∧
        (d.apply ni.privilege ni.label).flowsTo Label.publicUntrusted ∧
        (d.apply ni.privilege ni.label).flowsTo label) ∧
      Installed
        (({ s with nextChannelId := s.nextChannelId + 1, channels := s.channels ++ [⟨s.nextChannelId, name, label, []⟩] } :
          Runtime).introspectionEvent (.channelCreated s.nextChannelId name label))
        s' n [w, r] [⟨s.channels.length, .write⟩, ⟨s.channels.length, .read⟩] := by
  unfold channelCreate at h
  split at h
  · cases h
  rename_i hterm
  obtain ⟨_, -, he, -⟩ | ⟨⟨⟩, h₁, h₂⟩ := checked_eq_some h; · cases he
  obtain ⟨_, -, he, -⟩ | ⟨⟨⟩, h₃, h₄⟩ := checked_eq_some h₂; · cases he
  obtain ⟨ni, hni, hp⟩ := validateCanWriteToLabel_eq_ok.1 h₁
  obtain ⟨ni', hni', hl⟩ := validateCanWriteToLabel_eq_ok.1 h₃
  obtain rfl : ni = ni' := Option.some.inj (hni.symm.trans hni')
  dsimp only at h₄
  split at h₄
  · cases h₄
  · rename_i hw
    split at h₄
    · cases h₄
    · rename_i hr
      cases h₄
      exact ⟨by simpa using hterm, ⟨ni, hni, hp, hl⟩,
        (newAbiHandle_installed hw).cons (newAbiHandle_installed hr)⟩

theorem handleClone_ok {n : NodeId} {handle : Handle} {rng : List Handle} {h' : Handle}
    (h : s.handleClone n handle rng = some (.ok h', s')) :
    s.terminating = false ∧ ∃ half, s.lookupHandle n handle = some half ∧ Installed s s' n [h'] [half] := by
  unfold handleClone at h
  split at h
  · cases h
  rename_i hterm
  obtain ⟨_, -, he, -⟩ | ⟨half, hhalf, h₁⟩ := checked_eq_some h; · cases he
  simp only [Option.map_eq_some', Prod.mk.injEq, Prod.exists, Except.ok.injEq] at h₁
  obtain ⟨_, _, _, hn, rfl, rfl⟩ := h₁
  exact ⟨by simpa using hterm, half, abiToHalf_eq_ok.1 hhalf, newAbiHandle_installed hn⟩

/-- A state whose queues and tables hold only halves of `s` holds only halves of `s`. -/
theorem halves_subset_of (hq : s'.queuedHalves ⊆ s.queuedHalves)
    (hl : ∀ m h x, s'.lookupHandle m h = some x → x ∈ s.tableHalves) : s'.halves ⊆ s.halves := by
  intro x hx
  rcases mem_halves.1 hx with ⟨m, k, hmk⟩ | hq'
  · exact List.mem_append_left _ (hl m k x hmk)
  · exact List.mem_append_right _ (hq hq')

theorem referenced_of_subset (h : s'.halves ⊆ s.halves) {c : Nat} (hc : s'.Referenced c) : s.Referenced c :=
  let ⟨x, hx, hxc⟩ := hc
  ⟨x, h hx, hxc⟩

/-- What a successful `drop_abi_handle` did: the handle is gone from the node's table,
    `HandleDestroyed` is logged, and the cascade ran. -/
structure DropStep (s s' : Runtime) (n : NodeId) (handle : Handle) (ni : NodeInfo) (half : ChannelHalf) :
    Prop where
  lookup_node : s.nodeInfos.lookup n = some ni
  lookup_handle : ni.abiHandles.lookup handle = some half
  lookup_self : s'.nodeInfos.lookup n = some { ni with abiHandles := ni.abiHandles.erase handle }
  lookup_ne : ∀ m, m ≠ n → s'.nodeInfos.lookup m = s.nodeInfos.lookup m
  reclaimed : Reclaimed s s'
  terminating_eq : s'.terminating = s.terminating
  nextNodeId_eq : s'.nextNodeId = s.nextNodeId
  nextChannelId_eq : s'.nextChannelId = s.nextChannelId
  events : s'.introspectionEventQueue = s.introspectionEventQueue ++
    [.handleDestroyed n.val handle (s.channelIdOf half) half.direction]
  halves_subset : s'.halves ⊆ s.halves

theorem dropAbiHandle_ok {n : NodeId} {handle : Handle} (h : s.dropAbiHandle n handle = some (.ok (), s')) :
    ∃ ni half, DropStep s s' n handle ni half := by
  unfold dropAbiHandle at h
  split at h
  · cases h
  rename_i ni hni
  split at h
  · cases h
  rename_i half hh
  cases h
  set X := (s.setNodeInfo n { ni with abiHandles := ni.abiHandles.erase handle }).introspectionEvent
    (.handleDestroyed n.val handle (s.channelIdOf half) half.direction)
  have hXl : ∀ m k x, X.lookupHandle m k = some x → s.lookupHandle m k = some x := fun m k x hx => by
    change (s.setNodeInfo n _).lookupHandle m k = some x at hx
    rw [lookupHandle_setNodeInfo] at hx
    split at hx
    · subst_vars
      by_cases hk : k = handle
      · subst hk; simp [AList.lookup_erase] at hx
      · exact lookupHandle_eq_some.2 ⟨ni, hni, by rwa [AList.lookup_erase_ne hk] at hx⟩
    · exact hx
  exact ⟨ni, half, hni, hh, by simp [X, introspectionEvent, lookup_setNodeInfo],
    fun m hm => by simp [X, introspectionEvent, lookup_setNodeInfo, hm],
    (Reclaimed.of_channels_eq rfl : Reclaimed s X).trans (.reclaim X) fun _ => referenced_of_reclaim,
    by simp [X, introspectionEvent, setNodeInfo], by simp [X, introspectionEvent, setNodeInfo],
    by simp [X, introspectionEvent, setNodeInfo], by simp [X, introspectionEvent, setNodeInfo],
    (halves_reclaim_subset X).trans (halves_subset_of (List.Subset.refl _)
      fun m k x hx => mem_tableHalves.2 ⟨m, k, hXl m k x hx⟩ : X.halves ⊆ s.halves)⟩

/-- Closing a node's handles one by one touches no other record, and changes the
    channels only by the cascade. -/
theorem closeHandles_spec {n : NodeId} {hs : List Handle} {s' : Runtime} (s : Runtime)
    (h : closeHandles n s hs = some s') :
    (∀ m, m ≠ n → s'.nodeInfos.lookup m = s.nodeInfos.lookup m) ∧ Reclaimed s s' ∧ s'.halves ⊆ s.halves ∧
      s'.terminating = s.terminating ∧ s'.nextNodeId = s.nextNodeId ∧ s'.nextChannelId = s.nextChannelId := by
  induction hs generalizing s with
  | nil =>
    cases h
    exact ⟨fun _ _ => rfl, .of_channels_eq rfl, List.Subset.refl _, rfl, rfl, rfl⟩
  | cons handle hs ih =>
    simp only [closeHandles] at h
    split at h
    · rename_i s₁ h₁
      obtain ⟨ni, half, hd⟩ := dropAbiHandle_ok h₁
      obtain ⟨hl, hr, hsub, ht, hn, hc⟩ := ih s₁ h
      exact ⟨fun m hm => (hl m hm).trans (hd.lookup_ne m hm),
        hd.reclaimed.trans hr fun _ => referenced_of_subset hsub, hsub.trans hd.halves_subset,
        ht.trans hd.terminating_eq, hn.trans hd.nextNodeId_eq,
        hc.trans hd.nextChannelId_eq⟩
    · cases h

theorem addNodeStopper_eq {n : NodeId} {ni : NodeInfo} (hn : s.nodeInfos.lookup n = some ni)
    (hs : ni.nodeStopper = none) (stopper : NodeStopper) :
    s.addNodeStopper n stopper = some (s.setNodeInfo n { ni with nodeStopper := some stopper }) := by
  simp [addNodeStopper, hn, hs]

/-- What a successful `node_register` did: the checks passed, the next node id was
    taken, and its record (replacing any record the id still had) holds the given name,
    type, label and privilege, one handle for the inherited read half, and the new
    thread's stopper. Every other record is as it was, and the only change to the
    channels is the cascade that dropping a replaced record sets off. -/
structure RegisterStep (s s' : Runtime) (p : NodeId) (created : CreatedNode) (name : String)
    (label : Label) (handle : Handle) (d : Downgrading) (ni : NodeInfo) (half : ChannelHalf) (x : Handle) :
    Prop where
  not_terminating : s.terminating = false
  lookup_node : s.nodeInfos.lookup p = some ni
  check_public : (d.apply ni.privilege ni.label).flowsTo Label.publicUntrusted
  check_label : (d.apply ni.privilege ni.label).flowsTo label
  isolation : checkIsolation created label = .ok ()
  lookup_handle : ni.abiHandles.lookup handle = some half
  direction : half.direction = .read
  terminating_eq : s'.terminating = s.terminating
  nextNodeId_eq : s'.nextNodeId = s.nextNodeId + 1
  nextChannelId_eq : s'.nextChannelId = s.nextChannelId
  lookup_new : s'.nodeInfos.lookup ⟨s.nextNodeId⟩ =
    some ⟨name, created.nodeType, label, created.privilege, (∅ : HandleTable).insert x half, some ⟨name⟩⟩
  lookup_ne : ∀ m, m ≠ ⟨s.nextNodeId⟩ → s'.nodeInfos.lookup m = s.nodeInfos.lookup m
  reclaimed : Reclaimed s s'
  channels_eq : ⟨s.nextNodeId⟩ ∉ s.nodeInfos → s'.channels = s.channels
  halves_subset : s'.halves ⊆ s.halves

theorem nodeRegister_ok {p : NodeId} {created : CreatedNode} {name : String} {label : Label}
    {handle : Handle} {d : Downgrading} {rng : List Handle}
    (h : s.nodeRegister p created name label handle d rng = some (.ok (), s')) :
    ∃ ni half x, rng.head? = some x ∧ RegisterStep s s' p created name label handle d ni half x := by
  unfold nodeRegister at h
  split at h
  · cases h
  rename_i hterm
  obtain ⟨_, -, he, -⟩ | ⟨⟨⟩, h₁, h₂⟩ := checked_eq_some h; · cases he
  obtain ⟨_, -, he, -⟩ | ⟨⟨⟩, h₃, h₄⟩ := checked_eq_some h₂; · cases he
  obtain ⟨_, -, he, -⟩ | ⟨⟨⟩, h₅, h₆⟩ := checked_eq_some h₄; · cases he
  obtain ⟨_, -, he, -⟩ | ⟨half, h₇, h₈⟩ := checked_eq_some h₆; · cases he
  obtain ⟨ni, hni, hp⟩ := validateCanWriteToLabel_eq_ok.1 h₁
  obtain ⟨ni', hni', hl⟩ := validateCanWriteToLabel_eq_ok.1 h₃
  obtain rfl : ni = ni' := Option.some.inj (hni.symm.trans hni')
  obtain ⟨hhalf, hdir⟩ := abiToReadHalf_eq_ok.1 h₇
  obtain ⟨ni', hni', hh⟩ := lookupHandle_eq_some.1 hhalf
  obtain rfl : ni = ni' := Option.some.inj (hni.symm.trans hni')
  dsimp only at h₈
  split at h₈
  · cases h₈
  rename_i x _ s₂ hx
  -- The new record, as `node_configure_instance` left it.
  set newNodeId : NodeId := ⟨s.nextNodeId⟩
  set s₁ := ({ s with nextNodeId := s.nextNodeId + 1 } : Runtime).nodeConfigureInstance newNodeId
    created.nodeType name label created.privilege
  have hi := newAbiHandle_installed hx
  have hs₁ : s₁.nodeInfos.lookup newNodeId = some ⟨name, created.nodeType, label, created.privilege, ∅, none⟩ := by
    simp [s₁, nodeConfigureInstance, addNodeInfo, updateNodesCountMetric, introspectionEvent, lookup_setNodeInfo]
  -- the new table is empty, so the handle is the first candidate
  have hhead : rng.head? = some x := by
    obtain ⟨_, hni₁, hf, -⟩ := newAbiHandle_eq_some.1 hx
    rw [hs₁, Option.some.injEq] at hni₁
    exact firstFreeHandle_empty (hni₁ ▸ hf)
  have hs₁ne : ∀ m, m ≠ newNodeId → s₁.nodeInfos.lookup m = s.nodeInfos.lookup m := fun m hm => by
    simp [s₁, nodeConfigureInstance, addNodeInfo, updateNodesCountMetric, introspectionEvent, lookup_setNodeInfo, hm]
  have hs₁c : s₁.channels = s.channels := rfl
  -- The replaced record's cascade changes only queues.
  set s₃ := if newNodeId ∈ s.nodeInfos then s₂.reclaim else s₂ with hs₃
  have h₃ : s₃.nodeInfos = s₂.nodeInfos ∧ s₃.terminating = s₂.terminating ∧ s₃.nextNodeId = s₂.nextNodeId ∧
      s₃.nextChannelId = s₂.nextChannelId ∧ Reclaimed s₂ s₃ ∧ (newNodeId ∉ s.nodeInfos → s₃ = s₂) ∧
      ∀ c, s₃.Referenced c → s₂.Referenced c := by
    rw [hs₃]
    split
    · exact ⟨by simp, by simp, by simp, by simp, .reclaim _, fun h => absurd ‹_› h, fun _ => referenced_of_reclaim⟩
    · exact ⟨rfl, rfl, rfl, rfl, .of_channels_eq rfl, fun _ => rfl, fun _ => id⟩
  obtain ⟨hn₃, ht₃, hnn₃, hnc₃, hr₃, he₃, href₃⟩ := h₃
  have hs₂ : s₂.nodeInfos.lookup newNodeId =
      some ⟨name, created.nodeType, label, created.privilege, (∅ : HandleTable).insert x half, none⟩ := by
    rw [hi.lookup_self, hs₁]; rfl
  rw [← hn₃] at hs₂
  rw [addNodeStopper_eq hs₂ rfl] at h₈
  simp only [Option.map_some', Option.some.injEq, Prod.mk.injEq, true_and] at h₈
  have hlook : ∀ m k, s'.lookupHandle m k = s₃.lookupHandle m k := fun m k => by
    rw [← h₈, lookupHandle_setNodeInfo]
    split
    · subst_vars; simp [lookupHandle, hs₂]
    · rfl
  have hchan : s'.channels = s₃.channels := by rw [← h₈]; rfl
  have hnew : s'.nodeInfos.lookup newNodeId =
      some ⟨name, created.nodeType, label, created.privilege, (∅ : HandleTable).insert x half, some ⟨name⟩⟩ := by
    rw [← h₈]; simp [setNodeInfo, AList.lookup_insert]
  have hne : ∀ m, m ≠ newNodeId → s'.nodeInfos.lookup m = s.nodeInfos.lookup m := fun m hm => by
    rw [← h₈]; simp only [setNodeInfo, AList.lookup_insert_ne hm, hn₃, hi.lookup_ne m hm, hs₁ne m hm]
  have hreclaimed : Reclaimed s s' :=
    ((Reclaimed.of_channels_eq (hi.channels_eq.trans hs₁c)).trans hr₃ href₃).trans
      (.of_channels_eq hchan) fun c hc => (referenced_congr hchan hlook c).1 hc
  refine ⟨ni, half, x, hhead, by simpa using hterm, hni, hp, hl, ?_, hh, hdir, ?_, ?_, ?_, hnew, hne, hreclaimed,
    ?_, ?_⟩
  · cases hiso : checkIsolation created label with
    | error e => rw [hiso] at h₅; cases h₅
    | ok u => rfl
  · rw [← h₈]; simp only [setNodeInfo, ht₃, hi.terminating_eq]; rfl
  · rw [← h₈]; simp only [setNodeInfo, hnn₃, hi.nextNodeId_eq]; rfl
  · obtain ⟨_, e⟩ := hi.core
    rw [← h₈]; simp only [setNodeInfo, hnc₃]
    rw [e]; rfl
  · intro hnot
    rw [hchan, he₃ hnot, hi.channels_eq, hs₁c]
  · refine halves_subset_of hreclaimed.queuedHalves_subset fun m k y hy => mem_tableHalves.2 ?_
    by_cases hm : m = newNodeId
    · subst hm
      have hy' : ((∅ : HandleTable).insert x half).lookup k = some y := by
        simpa [lookupHandle, hnew] using hy
      by_cases hk : k = x
      · subst hk
        rw [AList.lookup_insert, Option.some.injEq] at hy'
        exact hy' ▸ ⟨p, handle, hhalf⟩
      · rw [AList.lookup_insert_ne hk] at hy'
        cases hy'
    · exact ⟨m, k, by simpa [lookupHandle, hne m hm] using hy⟩

/-- What `remove_node_id` did: every handle of the node was closed and its record is
    gone; every other record is as it was, and the channels changed only by the
    cascade. -/
structure RemoveStep (s s' : Runtime) (n : NodeId) : Prop where
  mem : n ∈ s.nodeInfos
  lookup_self : s'.nodeInfos.lookup n = none
  lookup_ne : ∀ m, m ≠ n → s'.nodeInfos.lookup m = s.nodeInfos.lookup m
  reclaimed : Reclaimed s s'
  halves_subset : s'.halves ⊆ s.halves
  terminating_eq : s'.terminating = s.terminating
  nextNodeId_eq : s'.nextNodeId = s.nextNodeId
  nextChannelId_eq : s'.nextChannelId = s.nextChannelId

theorem removeNodeId_spec {n : NodeId} (h : s.removeNodeId n = some s') : RemoveStep s s' n := by
  unfold removeNodeId at h
  split at h
  · cases h
  rename_i ni hni
  split at h
  · cases h
  rename_i s₁ h₁
  split at h
  · cases h
    obtain ⟨hl, hr, hsub, ht, hn, hc⟩ := closeHandles_spec s h₁
    set X := (({ s₁ with nodeInfos := s₁.nodeInfos.erase n } : Runtime).updateNodesCountMetric
      ni.nodeType (-1)).introspectionEvent (.nodeDestroyed n.val)
    have hXl : ∀ m k x, X.lookupHandle m k = some x → s₁.lookupHandle m k = some x := fun m k x hx => by
      by_cases hm : m = n
      · subst hm; simp [X, lookupHandle, introspectionEvent, updateNodesCountMetric, AList.lookup_erase] at hx
      · simpa [X, lookupHandle, introspectionEvent, updateNodesCountMetric, AList.lookup_erase_ne hm] using hx
    have hsub' : X.halves ⊆ s₁.halves := halves_subset_of (List.Subset.refl _)
      fun m k x hx => mem_tableHalves.2 ⟨m, k, hXl m k x hx⟩
    exact ⟨AList.lookup_isSome.1 (by rw [hni]; rfl),
      by simp [X, introspectionEvent, updateNodesCountMetric, AList.lookup_erase],
      fun m hm => by simp [X, introspectionEvent, updateNodesCountMetric, AList.lookup_erase_ne hm, hl m hm],
      hr.trans (.of_channels_eq rfl) (fun _ => referenced_of_subset hsub'), hsub'.trans hsub, ht, hn, hc⟩
  · cases h

theorem lookup_stop (n : NodeId) :
    s.stop.nodeInfos.lookup n = (s.nodeInfos.lookup n).map fun ni => { ni with nodeStopper := none } := by
  simp only [stop, takeNodeStoppers, AList.lookup]
  exact List.dlookup_map₂ (f := fun (_ : NodeId) (ni : NodeInfo) => ({ ni with nodeStopper := none } : NodeInfo)) n

@[simp] theorem lookupHandle_stop (n : NodeId) (h : Handle) : s.stop.lookupHandle n h = s.lookupHandle n h := by
  simp only [lookupHandle, lookup_stop]
  cases s.nodeInfos.lookup n <;> rfl

end Runtime

/-- Everything one call can do, one constructor per kind of effect. A failed call only
    appends to the log; a read that found no message and a pass of the wait loop change
    nothing. -/
inductive StepEffect (s : Runtime) : Call → Outcome → Runtime → Prop
  | failed {call : Call} {o : Outcome} {s' : Runtime} : o.Failed → LogOnly s s' → StepEffect s call o s'
  | empty {call : Call} {o : Outcome} : o = .read (.ok none) ∨ o = .tryRead (.ok none) → StepEffect s call o s
  | waited {n : NodeId} {hs : List Handle} {d : Downgrading} {r : WaitResult} :
      StepEffect s (.waitOnChannels n hs d) (.waited r) s
  | created {n : NodeId} {name : String} {label : Label} {d : Downgrading} {rng : List Handle} {w r : Handle}
      {s' : Runtime} : s.terminating = false →
      (∃ ni, s.nodeInfos.lookup n = some ni ∧
        (d.apply ni.privilege ni.label).flowsTo Label.publicUntrusted ∧
        (d.apply ni.privilege ni.label).flowsTo label) →
      Installed
        (({ s with nextChannelId := s.nextChannelId + 1, channels := s.channels ++ [⟨s.nextChannelId, name, label, []⟩] } :
          Runtime).introspectionEvent (.channelCreated s.nextChannelId name label))
        s' n [w, r] [⟨s.channels.length, .write⟩, ⟨s.channels.length, .read⟩] →
      StepEffect s (.channelCreate n name label d rng) (.created (.ok (w, r))) s'
  | cloned {n : NodeId} {handle : Handle} {rng : List Handle} {h' : Handle} {half : ChannelHalf} {s' : Runtime} :
      s.terminating = false → s.lookupHandle n handle = some half → Installed s s' n [h'] [half] →
      StepEffect s (.handleClone n handle rng) (.cloned (.ok h')) s'
  | written {n : NodeId} {handle : Handle} {nm : NodeMessage} {d : Downgrading} {s' : Runtime} {ni : NodeInfo}
      {half : ChannelHalf} {ch : Channel} {m : Message} :
      s.WriteStep s' n handle d nm ni half ch m → StepEffect s (.channelWrite n handle nm d) (.written (.ok ())) s'
  | read {n : NodeId} {handle : Handle} {d : Downgrading} {rng : List Handle} {nm : NodeMessage} {s' : Runtime}
      {ni : NodeInfo} {half : ChannelHalf} {ch : Channel} {m : Message} {rest : List Message} :
      s.ReadStep s' n handle d nm ni half ch m rest →
      StepEffect s (.channelRead n handle d rng) (.read (.ok (some nm))) s'
  | tryRead {n : NodeId} {handle : Handle} {b k : Nat} {d : Downgrading} {rng : List Handle} {nm : NodeMessage}
      {s' : Runtime} {ni : NodeInfo} {half : ChannelHalf} {ch : Channel} {m : Message} {rest : List Message} :
      s.ReadStep s' n handle d nm ni half ch m rest →
      StepEffect s (.channelTryReadMessage n handle b k d rng) (.tryRead (.ok (some (.success nm)))) s'
  | closed {n : NodeId} {handle : Handle} {s' : Runtime} {ni : NodeInfo} {half : ChannelHalf} :
      s.DropStep s' n handle ni half → StepEffect s (.channelClose n handle) (.closed (.ok ())) s'
  | registered {call : Call} {p : NodeId} {created : CreatedNode} {name : String} {label : Label}
      {handle : Handle} {d : Downgrading} {rng : List Handle} {s' : Runtime} {ni : NodeInfo} {half : ChannelHalf}
      {x : Handle} :
      (call = .nodeRegister p created name label handle d rng ∨
        call = .nodeCreateAndRegister p (some created) name label handle d rng) →
      s.RegisterStep s' p created name label handle d ni half x → StepEffect s call (.registered (.ok ())) s'
  | removed {n : NodeId} {s' : Runtime} : s.RemoveStep s' n → StepEffect s (.removeNodeId n) .removed s'
  | stopped : StepEffect s .stop .stopped s.stop

namespace Runtime

variable {s s' : Runtime}

/-- Say once what a call can do. -/
theorem step_effect {call : Call} {o : Outcome} (h : s.step call = some (o, s')) : StepEffect s call o s' := by
  cases call <;> simp only [step] at h
  case channelCreate =>
    obtain ⟨_ | ⟨w, r⟩, hr, rfl⟩ := map_outcome_eq_some h
    · exact .failed trivial (channelCreate_error hr ▸ .refl s)
    · obtain ⟨ht, hc, hi⟩ := channelCreate_ok hr
      exact .created ht hc hi
  case handleClone =>
    obtain ⟨_ | h', hr, rfl⟩ := map_outcome_eq_some h
    · exact .failed trivial (handleClone_error hr ▸ .refl s)
    · obtain ⟨ht, half, hl, hi⟩ := handleClone_ok hr
      exact .cloned ht hl hi
  case channelWrite =>
    obtain ⟨_ | ⟨⟩, hr, rfl⟩ := map_outcome_eq_some h
    · exact .failed trivial (channelWrite_error hr)
    · obtain ⟨_, _, _, _, hw⟩ := channelWrite_ok hr
      exact .written hw
  case channelRead =>
    obtain ⟨_ | _ | nm, hr, rfl⟩ := map_outcome_eq_some h
    · exact .failed trivial (channelRead_error hr ▸ .refl s)
    · exact channelRead_eq_of_ne hr (by simp) ▸ .empty (.inl rfl)
    · obtain ⟨_, _, _, _, _, hrd⟩ := channelRead_some hr
      exact .read hrd
  case channelTryReadMessage =>
    obtain ⟨r, hr, rfl⟩ := map_outcome_eq_some h
    match r, hr with
    | .error _, hr => exact .failed trivial (channelTryReadMessage_eq_of_ne hr (by simp) ▸ .refl s)
    | .ok none, hr => exact channelTryReadMessage_eq_of_ne hr (by simp) ▸ .empty (.inr rfl)
    | .ok (some (.success nm)), hr =>
      obtain ⟨_, _, _, _, _, hrd⟩ := channelTryReadMessage_success hr
      exact .tryRead hrd
    | .ok (some (.needsCapacity _ _)), hr =>
      exact .failed trivial (channelTryReadMessage_eq_of_ne hr (by simp) ▸ .refl s)
  case channelClose =>
    obtain ⟨_ | ⟨⟩, hr, rfl⟩ := map_outcome_eq_some h
    · exact .failed trivial (dropAbiHandle_error hr ▸ .refl s)
    · obtain ⟨_, _, hd⟩ := dropAbiHandle_ok hr
      exact .closed hd
  case nodeRegister =>
    obtain ⟨_ | ⟨⟩, hr, rfl⟩ := map_outcome_eq_some h
    · exact .failed trivial (nodeRegister_error hr ▸ .refl s)
    · obtain ⟨_, _, _, -, hreg⟩ := nodeRegister_ok hr
      exact .registered (.inl rfl) hreg
  case nodeCreateAndRegister createdNode _ _ _ _ _ =>
    obtain ⟨_ | ⟨⟩, hr, rfl⟩ := map_outcome_eq_some h
    · exact .failed trivial (nodeCreateAndRegister_error hr ▸ .refl s)
    · cases createdNode with
      | none => cases hr
      | some created =>
        obtain ⟨_, _, _, -, hreg⟩ := nodeRegister_ok hr
        exact .registered (.inr rfl) hreg
  case waitOnChannels =>
    simp only [Option.map_eq_some', Prod.mk.injEq] at h
    obtain ⟨_, _, rfl, rfl⟩ := h
    exact .waited
  case removeNodeId =>
    simp only [Option.map_eq_some', Prod.mk.injEq] at h
    obtain ⟨_, hr, rfl, rfl⟩ := h
    exact .removed (removeNodeId_spec hr)
  case stop =>
    obtain ⟨rfl, rfl⟩ := Prod.mk.inj (Option.some.inj h)
    exact .stopped

end Runtime

end OakRuntime

import OakRuntime.Ledger

/-!
# The Introspection Log Journals the Handle Tables

`new_abi_handle` logs a `HandleCreated` event for every handle it installs, with the
node, the handle, and the id and direction of the half, and `drop_abi_handle` logs a
`HandleDestroyed` event for every handle it removes; both log while they hold the lock
of `node_infos`. An observer that replays these events in order, putting an entry
under the node and the handle at each `HandleCreated` and taking it away at each
`HandleDestroyed`, should end with every node's handle table.

It does, after every run from a fresh runtime whose successful registrations are fewer
than the values the node id counter has left (`Runtime.log_replays_tables`). A new channel's handles and a
read's handles go through `new_abi_handle`, a close and `remove_node_id` drop handles
through `drop_abi_handle`, a registration installs the new node's one handle after
`node_configure_instance` has added its empty table, and no failed call touches a
table or logs a handle event. The bound on the counter keeps every new id unused:
`add_node_info` replaces a record the id still had, with its table, and logs nothing
for the handles it drops.

## Main definitions

* `EventDetails.replay`, `replayHandles`: Replaying the handle events of a log.
* `Runtime.handleView`: The tables as the log should show them.
* `Runtime.Replays`: One state's log extends another's by events that replay one view
  onto the other.
* `Runtime.Journal`: The invariant: the log replays to the tables, every half points
  into the heap, and every id in use is below the counter.

## Theorems

* `Runtime.Installed.replays`, `Runtime.DropStep.replays`: Installing and dropping
  handles.
* `Runtime.registered_replays`, `Runtime.removed_replays`: Registering and removing a
  node.
* `Runtime.journal_step`: Every call keeps the invariant while the counter has room.
* `Runtime.log_replays_tables`: Every run from a fresh runtime.
-/

namespace OakRuntime

namespace EventDetails

/-- Replay one event on a view of the tables: `HandleCreated` puts the half's channel
    id and direction under the node and the handle, `HandleDestroyed` takes the entry
    away, and every other event leaves the view as it is. -/
def replay (v : UInt64 → Handle → Option (ChannelId × ChannelHalfDirection)) :
    EventDetails → UInt64 → Handle → Option (ChannelId × ChannelHalfDirection)
  | .handleCreated n h c d => fun m k => if m = n ∧ k = h then some (c, d) else v m k
  | .handleDestroyed n h _ _ => fun m k => if m = n ∧ k = h then none else v m k
  | _ => v

variable (v : UInt64 → Handle → Option (ChannelId × ChannelHalfDirection))

@[simp] theorem replay_channelCreated (c : ChannelId) (name : String) (l : Label) :
    replay v (.channelCreated c name l) = v := rfl

@[simp] theorem replay_messageEnqueued (n : UInt64) (c : ChannelId) (hs : List Handle) :
    replay v (.messageEnqueued n c hs) = v := rfl

@[simp] theorem replay_messageDequeued (n : UInt64) (c : ChannelId) (hs : List Handle) :
    replay v (.messageDequeued n c hs) = v := rfl

@[simp] theorem replay_nodeCreated (n : UInt64) (name : String) (l : Label) :
    replay v (.nodeCreated n name l) = v := rfl

@[simp] theorem replay_nodeDestroyed (n : UInt64) : replay v (.nodeDestroyed n) = v := rfl

end EventDetails

/-- The handle events of a log, replayed in order from an empty view. -/
def replayHandles (log : List EventDetails) : UInt64 → Handle → Option (ChannelId × ChannelHalfDirection) :=
  log.foldl EventDetails.replay fun _ _ => none

theorem replayHandles_append (log evs : List EventDetails) :
    replayHandles (log ++ evs) = evs.foldl EventDetails.replay (replayHandles log) :=
  List.foldl_append _ _ _ _

namespace Runtime

/-- Every node's table as the log should show it: under each handle, the channel id
    and direction of the half it maps to. -/
def handleView (s : Runtime) (n : UInt64) (k : Handle) : Option (ChannelId × ChannelHalfDirection) :=
  (s.lookupHandle ⟨n⟩ k).map fun half => (s.channelIdOf half, half.direction)

/-- Every half points into the heap. -/
def InHeap (s : Runtime) : Prop := ∀ x ∈ s.halves, x.channel < s.channels.length

/-- The log of `s'` extends the log of `s` by events that, replayed on the view of `s`,
    give the view of `s'`. -/
def Replays (s s' : Runtime) : Prop :=
  ∃ evs, s'.introspectionEventQueue = s.introspectionEventQueue ++ evs ∧
    s'.handleView = evs.foldl EventDetails.replay s.handleView

variable {s s' s₁ : Runtime}

@[simp] theorem handleView_introspectionEvent (e : EventDetails) : (s.introspectionEvent e).handleView = s.handleView :=
  rfl

namespace Replays

theorem of_eq (hv : s'.handleView = s.handleView) (hl : s'.introspectionEventQueue = s.introspectionEventQueue) :
    Replays s s' :=
  ⟨[], by simp [hl], hv⟩

theorem refl (s : Runtime) : Replays s s := .of_eq rfl rfl

theorem trans (h₁ : Replays s s₁) (h₂ : Replays s₁ s') : Replays s s' := by
  obtain ⟨e₁, hl₁, hv₁⟩ := h₁
  obtain ⟨e₂, hl₂, hv₂⟩ := h₂
  exact ⟨e₁ ++ e₂, by rw [hl₂, hl₁, List.append_assoc], by rw [hv₂, hv₁, List.foldl_append]⟩

/-- An event that is no handle event, appended to a state with the same view. -/
theorem introspectionEvent (h : Replays s s') {e : EventDetails}
    (he : ∀ v, EventDetails.replay v e = v) : Replays s (s'.introspectionEvent e) := by
  obtain ⟨evs, hl, hv⟩ := h
  exact ⟨evs ++ [e], by simp [Runtime.introspectionEvent, hl],
    by rw [handleView_introspectionEvent, hv, List.foldl_append]; simp [he]⟩

end Replays

theorem Replays.log (h : Replays s s') (hs : replayHandles s.introspectionEventQueue = s.handleView) :
    replayHandles s'.introspectionEventQueue = s'.handleView := by
  obtain ⟨evs, hl, hv⟩ := h
  rw [hl, replayHandles_append, hs, hv]

/-- Replaying the `HandleCreated` events of handles `hs` of node `n`, on a view that
    shows table `t` for `n`, shows `t` with the handles inserted, and leaves every other
    node's view as it is. -/
theorem replay_insertAll (g : ChannelHalf → ChannelId) (n : UInt64) (hs : List Handle) (halves : List ChannelHalf)
    (t : HandleTable) (v : UInt64 → Handle → Option (ChannelId × ChannelHalfDirection))
    (hv : ∀ k, v n k = (t.lookup k).map fun half => (g half, half.direction)) :
    (∀ k, (List.zipWith (fun h half => EventDetails.handleCreated n h (g half) half.direction) hs halves).foldl
        EventDetails.replay v n k = ((t.insertAll hs halves).lookup k).map fun half => (g half, half.direction)) ∧
      ∀ m, m ≠ n → (List.zipWith (fun h half => EventDetails.handleCreated n h (g half) half.direction) hs
        halves).foldl EventDetails.replay v m = v m := by
  induction hs generalizing halves t v with
  | nil => exact ⟨hv, fun _ _ => rfl⟩
  | cons h hs ih =>
    cases halves with
    | nil => exact ⟨hv, fun _ _ => rfl⟩
    | cons half halves =>
      obtain ⟨ih₁, ih₂⟩ := ih halves (t.insert h half) (EventDetails.replay v (.handleCreated n h (g half) half.direction))
        fun k => by
          by_cases hk : k = h
          · subst hk; simp [EventDetails.replay]
          · simp [EventDetails.replay, hk, hv, AList.lookup_insert_ne hk]
      exact ⟨ih₁, fun m hm => (ih₂ m hm).trans (funext fun k => by simp [EventDetails.replay, hm])⟩

theorem ne_of_val_ne {m : UInt64} {n : NodeId} (hm : m ≠ n.val) : (⟨m⟩ : NodeId) ≠ n := fun e => hm (by rw [← e])

end Runtime

/-- Installing handles, with their `HandleCreated` events. -/
theorem Installed.replays {s s' : Runtime} {n : NodeId} {hs : List Handle} {halves : List ChannelHalf}
    (hi : Installed s s' n hs halves) : Runtime.Replays s s' := by
  refine ⟨_, hi.events, funext fun m => funext fun k => ?_⟩
  rcases hni : s.nodeInfos.lookup n with _ | ni
  · -- no record: no handle is installed
    obtain rfl : hs = [] := List.eq_nil_iff_forall_not_mem.2 fun h hh => by
      obtain ⟨_, hn, -⟩ := hi.fresh h hh
      rw [hni] at hn; cases hn
    by_cases hm : m = n.val
    · subst hm; simp [Runtime.handleView, Runtime.lookupHandle, hi.lookup_self, hni]
    · simp [Runtime.handleView, Runtime.lookupHandle, hi.lookup_ne _ (Runtime.ne_of_val_ne hm), hi.channelIdOf_eq]
  obtain ⟨h₁, h₂⟩ := Runtime.replay_insertAll s.channelIdOf n.val hs halves ni.abiHandles s.handleView
    fun k => by simp [Runtime.handleView, Runtime.lookupHandle, hni]
  by_cases hm : m = n.val
  · subst hm; rw [h₁]; simp [Runtime.handleView, Runtime.lookupHandle, hi.lookup_self, hni, hi.channelIdOf_eq]
  · rw [h₂ m hm]; simp [Runtime.handleView, Runtime.lookupHandle, hi.lookup_ne _ (Runtime.ne_of_val_ne hm), hi.channelIdOf_eq]

namespace Runtime

variable {s s' : Runtime}

/-- Dropping a handle, with its `HandleDestroyed` event. -/
theorem DropStep.replays {n : NodeId} {handle : Handle} {ni : NodeInfo} {half : ChannelHalf}
    (hd : s.DropStep s' n handle ni half) : Replays s s' := by
  refine ⟨_, hd.events, funext fun m => funext fun k => ?_⟩
  by_cases hm : m = n.val
  · subst hm
    by_cases hk : k = handle
    · subst hk; simp [EventDetails.replay, handleView, lookupHandle, hd.lookup_self, AList.lookup_erase]
    · simp [EventDetails.replay, hk, handleView, lookupHandle, hd.lookup_self, hd.lookup_node,
        AList.lookup_erase_ne hk, hd.reclaimed.channelIdOf]
  · simp [EventDetails.replay, hm, handleView, lookupHandle, hd.lookup_ne _ (ne_of_val_ne hm),
      hd.reclaimed.channelIdOf]

@[simp] theorem handleView_setQueue (c : Nat) (q : List Message) : (s.setQueue c q).handleView = s.handleView := by
  funext m k
  simp only [handleView, lookupHandle, nodeInfos_setQueue, channelIdOf, getElem?_setQueue]
  congr 1; funext half; congr 2
  split <;> simp [Option.map_map, Function.comp_def]

/-- A new channel at the end of the heap changes the id of no half that points into the
    heap. -/
theorem handleView_append_channel (hh : s.InHeap) (k : UInt64) (ch : Channel) :
    ({ s with nextChannelId := k, channels := s.channels ++ [ch] } : Runtime).handleView = s.handleView := by
  funext m h
  have hl : ({ s with nextChannelId := k, channels := s.channels ++ [ch] } : Runtime).lookupHandle ⟨m⟩ h =
      s.lookupHandle ⟨m⟩ h := rfl
  simp only [handleView, hl]
  rcases hx : s.lookupHandle ⟨m⟩ h with _ | half
  · rfl
  have hc := hh half (mem_halves.2 (.inl ⟨_, _, hx⟩))
  simp [channelIdOf, List.getElem?_append_left hc]

@[simp] theorem handleView_stop : s.stop.handleView = s.handleView := by
  funext m k
  simp only [handleView, lookupHandle_stop]
  rfl

theorem handleView_addNodeStopper {m : NodeId} {st : NodeStopper} (h : s.addNodeStopper m st = some s') :
    s'.handleView = s.handleView := by
  unfold addNodeStopper at h
  split at h
  · cases h; rfl
  rename_i ni hni
  split at h
  · cases h
    funext n k
    by_cases hn : (⟨n⟩ : NodeId) = m
    · subst hn; simp [handleView, lookupHandle, setNodeInfo, hni, channelIdOf]
    · simp [handleView, lookupHandle, setNodeInfo, AList.lookup_insert_ne hn, channelIdOf]
  · cases h

/-- `node_configure_instance` under an id no record has: the new record's table is
    empty, and `NodeCreated` is no handle event. -/
theorem nodeConfigureInstance_replays {m : NodeId} (hm : m ∉ s.nodeInfos) (t name : String) (l : Label)
    (p : NodePrivilege) : Replays s (s.nodeConfigureInstance m t name l p) := by
  refine ⟨[.nodeCreated m.val name l], rfl, funext fun n => funext fun k => ?_⟩
  by_cases hn : (⟨n⟩ : NodeId) = m
  · subst hn
    simp [handleView, lookupHandle, nodeConfigureInstance, addNodeInfo, setNodeInfo, updateNodesCountMetric,
      introspectionEvent, AList.lookup_eq_none.2 hm]
  · simp [handleView, lookupHandle, nodeConfigureInstance, addNodeInfo, setNodeInfo, updateNodesCountMetric,
      introspectionEvent, AList.lookup_insert_ne hn, channelIdOf]

/-- The checks of `node_register` passed: the new id is the counter's, and only the
    counter moved. -/
theorem registerEnter_ok {n : NodeId} {cr : CreatedNode} {l : Label} {k : Handle} {d : Downgrading}
    {reader : ChannelHalf} {m : NodeId} (h : s.registerEnter n cr l k d = some (.ok (reader, m), s')) :
    m = ⟨s.nextNodeId⟩ ∧ s' = { s with nextNodeId := s.nextNodeId + 1 } := by
  unfold registerEnter checked at h
  split at h
  · cases h
  repeat' split at h <;> try cases h
  exact ⟨rfl, rfl⟩

/-- A registration while every id in use is below the counter: the new node's empty
    table, then its one handle. -/
theorem nodeRegister_replays {p : NodeId} {cr : CreatedNode} {name : String} {label : Label} {k : Handle}
    {d : Downgrading} {rng : List Handle} {r : Except OakStatus Unit} (hs : s.IdsBelow)
    (h : s.nodeRegister p cr name label k d rng = some (r, s')) : Replays s s' := by
  rcases r with _ | ⟨⟩
  · rw [nodeRegister_error h]; exact .refl _
  obtain ⟨reader, m, s₁, s₂, he, hcf, hadd⟩ := nodeRegister_ok_sections h
  obtain ⟨rfl, rfl⟩ := registerEnter_ok he
  unfold registerConfigure at hcf
  split at hcf
  · cases hcf
  rename_i hn
  rw [if_neg hs.not_mem] at hcf
  cases hcf
  exact (nodeConfigureInstance_replays hs.not_mem _ _ _ _).trans (newAbiHandle_installed hn).replays |>.trans
    (.of_eq (handleView_addNodeStopper hadd) (log_addNodeStopper hadd))

/-- `remove_node_id` closes every handle of the node, which leaves its table empty, and
    then removes the record. -/
theorem closeHandles_replays {n : NodeId} {hs : List Handle} (s : Runtime) (h : closeHandles n s hs = some s') :
    Replays s s' ∧ ∀ k, s'.lookupHandle n k = if k ∈ hs then none else s.lookupHandle n k := by
  induction hs generalizing s with
  | nil => cases h; exact ⟨.refl _, fun _ => rfl⟩
  | cons handle hs ih =>
    simp only [closeHandles] at h
    split at h
    · rename_i s₁ h₁
      obtain ⟨ni, half, hd⟩ := dropAbiHandle_ok h₁
      obtain ⟨hr, hl⟩ := ih s₁ h
      refine ⟨hd.replays.trans hr, fun k => ?_⟩
      rw [hl k]
      by_cases hk : k = handle
      · subst hk; simp [lookupHandle, hd.lookup_self, AList.lookup_erase]
      · simp [hk, lookupHandle, hd.lookup_self, hd.lookup_node, AList.lookup_erase_ne hk]
    · cases h

theorem removeNodeId_replays {n : NodeId} (h : s.removeNodeId n = some s') : Replays s s' := by
  obtain ⟨ni, s₁, hni, h₁, -, rfl⟩ := removeNodeId_sections h
  obtain ⟨hr, hl⟩ := closeHandles_replays s h₁
  have hnone : ∀ k, s₁.lookupHandle n k = none := fun k => by
    rw [hl k]
    split
    · rfl
    · simpa [lookupHandle, hni, AList.lookup_eq_none] using ‹_›
  have hv : (({ s₁ with nodeInfos := s₁.nodeInfos.erase n } : Runtime).updateNodesCountMetric ni.nodeType
      (-1)).handleView = s₁.handleView := by
    funext m k
    by_cases hm : (⟨m⟩ : NodeId) = n
    · subst hm
      rw [handleView, handleView, hnone k]
      simp [lookupHandle, updateNodesCountMetric, AList.lookup_erase]
    · simp [handleView, lookupHandle, updateNodesCountMetric, AList.lookup_erase_ne hm, channelIdOf]
  exact hr.trans (Replays.introspectionEvent (.of_eq hv rfl) fun v => EventDetails.replay_nodeDestroyed v n.val)

theorem channelWrite_replays {n : NodeId} {k : Handle} {nm : NodeMessage} {d : Downgrading} {o : Outcome}
    (h : s.step (.channelWrite n k nm d) = some (o, s')) : Replays s s' := by
  simp only [step, channelWrite_eq_block, Option.map_map] at h
  obtain ⟨⟨r, s₁⟩, hb, he⟩ := Option.map_eq_some'.1 h
  cases he
  rcases channelWriteBlock_spec hb with ⟨e, rfl, rfl⟩ | ⟨half, res, rfl, rfl | ⟨ch, m, -, rfl⟩⟩
  · exact .refl _
  · exact Replays.introspectionEvent (.refl _) fun _ => by rfl
  · exact Replays.introspectionEvent (.of_eq (handleView_setQueue _ _) rfl) fun _ => by rfl

variable {call : Call} {o : Outcome}

/-- What one call appends to the log replays onto what it does to the tables, while
    every half points into the heap and every id in use is below the counter. -/
theorem replays_step (h : s.step call = some (o, s')) (hh : s.InHeap) (hs : s.IdsBelow) : Replays s s' := by
  cases change_of_step h with
  | same => exact .refl _
  | wrote hw => exact channelWrite_replays hw
  | created hi =>
    exact (Replays.introspectionEvent (.of_eq (handleView_append_channel hh _ _) rfl) fun _ => by rfl).trans hi.replays
  | cloned _ hi => exact hi.replays
  | read hr =>
    obtain ⟨s₁, hi, rfl⟩ := hr.post
    exact ((Replays.of_eq (handleView_setQueue _ _) rfl).trans hi.replays).introspectionEvent fun _ => by rfl
  | closed hd => exact hd.replays
  | registered hr _ => exact nodeRegister_replays hs hr
  | removed hr _ => exact removeNodeId_replays hr
  | stopped => exact .of_eq handleView_stop rfl

theorem InHeap.of_subset (hh : s.InHeap) (hsub : s'.halves ⊆ s.halves) (hl : s.channels.length ≤ s'.channels.length) :
    s'.InHeap :=
  fun x hx => lt_of_lt_of_le (hh x (hsub hx)) hl

/-- No call leaves a half pointing past the heap: a new channel's halves point to it. -/
theorem inHeap_step (h : s.step call = some (o, s')) (hh : s.InHeap) : s'.InHeap := by
  have hle := (heap_step h).1
  cases step_effect h with
  | failed _ hl => obtain ⟨_, rfl⟩ := hl; exact hh
  | empty _ | waited => exact hh
  | created _ _ hi =>
    intro x hx
    rw [hi.channels_eq]
    rcases halves_step h hx with hx | hx
    · simpa [introspectionEvent] using Nat.lt_succ_of_lt (hh x hx)
    · simp [introspectionEvent, hx]
  | cloned _ hl hi =>
    refine hh.of_subset (halves_subset_of (hi.queuedHalves_eq ▸ List.Subset.refl _) fun m k x hx => ?_) hle
    rcases hi.lookupHandle_cases hx with hx | ⟨-, -, hmem⟩
    · exact mem_tableHalves.2 ⟨m, k, hx⟩
    · rw [List.mem_singleton.1 hmem]; exact mem_tableHalves.2 ⟨_, _, hl⟩
  | written hw => exact hh.of_subset hw.halves_subset hle
  | read hr | tryRead hr => exact hh.of_subset hr.halves_subset hle
  | closed hd => exact hh.of_subset hd.halves_subset hle
  | registered _ hreg => exact hh.of_subset hreg.halves_subset hle
  | removed hrm => exact hh.of_subset hrm.halves_subset hle
  | stopped =>
    refine hh.of_subset (halves_subset_of (List.Subset.refl _) fun m k x hx => ?_) hle
    exact mem_tableHalves.2 ⟨m, k, by simpa using hx⟩

/-- The log replays to the tables, every half points into the heap, and every id in
    use is below the counter. -/
structure Journal (s : Runtime) : Prop where
  replays : replayHandles s.introspectionEventQueue = s.handleView
  inHeap : s.InHeap
  idsBelow : s.IdsBelow

theorem journal_fresh : fresh.Journal where
  replays := by
    funext n k
    show none = fresh.handleView n k
    by_cases hn : (⟨n⟩ : NodeId) = ⟨0⟩
    · cases hn; rfl
    · have hl : fresh.nodeInfos.lookup ⟨n⟩ = none := AList.lookup_eq_none.2 fun hm => hn <| by
        rwa [AList.mem_keys, show fresh.nodeInfos.keys = [⟨0⟩] from rfl, List.mem_singleton] at hm
      simp [handleView, lookupHandle, hl]
  inHeap x hx := by rw [show fresh.halves = [] from rfl] at hx; cases hx
  idsBelow := idsBelow_fresh

/-- While the counter has room, every call keeps the journal. -/
theorem journal_step (h : s.step call = some (o, s')) (hroom : o.registers → s.nextNodeId.toNat + 1 < 2 ^ 64)
    (hj : s.Journal) :
    s'.Journal :=
  ⟨(replays_step h hj.inHeap hj.idsBelow).log hj.replays, inHeap_step h hj.inHeap, idsBelow_step h hroom hj.idsBelow⟩

theorem journal_run {calls : List Call} {ts : List Transition} (h : s.run calls = some (ts, s'))
    (hroom : s.nextNodeId.toNat + registrations ts < 2 ^ 64) (hj : s.Journal) : s'.Journal :=
  (run_preserves h hroom (fun _ ht hr => journal_step (step_of_mem_run h ht) hr) hj).2

/-- Replaying the handle events of the log rebuilds every node's handle table. After
    every run from a fresh runtime whose successful registrations are fewer than the
    values the node id counter has left, the `HandleCreated` and `HandleDestroyed`
    events of the log, replayed in order, show under each node and handle the channel id
    and direction of the half the handle maps to, and nothing for a handle the node does
    not hold. -/
theorem log_replays_tables {calls : List Call} {ts : List Transition} (h : fresh.run calls = some (ts, s'))
    (hroom : registrations ts + 1 < 2 ^ 64) (n : UInt64) (k : Handle) :
    replayHandles s'.introspectionEventQueue n k =
      (s'.lookupHandle ⟨n⟩ k).map fun half => (s'.channelIdOf half, half.direction) :=
  congrFun (congrFun (journal_run h (by rw [Nat.add_comm]; exact hroom) journal_fresh).replays n) k

/-- Node 0 makes a channel, sends its read half over it, reads the message, which
    installs the half under a new handle, starts a child with that handle, closes it,
    and the child's record is removed. -/
def handleCalls : List Call :=
  [.channelCreate ⟨0⟩ "in" Label.publicUntrusted .no [5, 6], .channelWrite ⟨0⟩ 5 ⟨[1], [6]⟩ .no,
    .channelRead ⟨0⟩ 6 .no [8], .nodeRegister ⟨0⟩ ⟨"child", .sandboxed, NodePrivilege.default⟩ "child"
      Label.publicUntrusted 8 .no [9], .channelClose ⟨0⟩ 8, .removeNodeId ⟨1⟩]

theorem log_replays_tables_handleCalls :
    ∃ ts s', fresh.run handleCalls = some (ts, s') ∧ registrations ts + 1 < 2 ^ 64 ∧
      ∀ n k, replayHandles s'.introspectionEventQueue n k =
        (s'.lookupHandle ⟨n⟩ k).map fun half => (s'.channelIdOf half, half.direction) :=
  ⟨_, _, rfl, by decide, log_replays_tables (rfl : fresh.run handleCalls = _) (by decide)⟩

end Runtime

end OakRuntime

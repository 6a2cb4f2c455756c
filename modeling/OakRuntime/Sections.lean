import OakRuntime.Events

/-!
# Calls Split at Their Sections

The runtime serves each node on its own thread, and the threads share the runtime. A
call holds a lock only for one section at a time (a lookup in `node_infos`, the block
on a channel, one append to the log), and between two sections of one call the
sections of other threads can run. `OakRuntime.Run` runs every call whole. This module
cuts the calls whose interleaving matters (the writes, the registrations, the waits and
`stop`) where the source cuts them, and shows that the pieces, run back to back, are
the whole call.

* `channel_write`: the checks, `message_from` and the block under the channel's lock
  (`channelWriteBlock`), then the append of `MessageEnqueued` after the lock is
  released (`logBlock`).
* `node_register`: the termination check, the label and isolation checks, the
  caller's read half and `new_node_id` (`registerEnter`); then
  `node_configure_instance` with the new node's first handle (`registerConfigure`);
  then, after the thread is spawned, `add_node_stopper` (`registerFinish`).
* `wait_on_channels`: the collection of the read halves; at the head of each pass the
  read of `is_terminating`; then `add_waiter` on each channel, which changes no state
  a run of whole calls sees; then the statuses and the return condition
  (`waitStatuses`).
* `Runtime::stop`: the store of `terminating` (`storeTerminating`), the wake-up of
  every waiter, and `take_node_stoppers` (`takeStoppers`).

## Main definitions

* `Runtime.channelWriteBlock`, `Runtime.logBlock`: The sections of `channel_write`.
* `Runtime.registerEnter`, `Runtime.registerConfigure`, `Runtime.registerFinish`: The
  sections of `node_register`.
* `Runtime.waitStatuses`: The last section of a pass of `wait_on_channels`.
* `Runtime.storeTerminating`, `Runtime.takeStoppers`: The sections of `stop` that change
  the state; `Runtime.stopperIds`: the nodes it then joins.

## Theorems

* `Runtime.channelWrite_eq_block`: The two sections make up `channel_write`.
* `Runtime.nodeRegister_eq_sections`: The three make up `node_register`.
* `Runtime.waitOnChannels_eq_sections`: The sections make up a pass of the wait loop.
* `Runtime.stop_eq_sections`: The two make up `stop`.
-/

namespace OakRuntime

namespace Runtime

variable (s : Runtime)

/-! ### `channel_write` -/

/-- The first section of `channel_write`: the checks, `message_from`, and the block
    under the channel's lock. An error of the checks returns at once; otherwise the
    block's result comes back with the `MessageEnqueued` event the call logs next, and
    with the half whose channel's waiters the block wakes when it enqueued. -/
def channelWriteBlock (nodeId : NodeId) (writeHandle : Handle) (nodeMsg : NodeMessage)
    (downgrade : Downgrading) :
    Option (Except OakStatus (ChannelHalf × Except OakStatus Unit × EventDetails) × Runtime) :=
  s.checked (s.abiToWriteHalf nodeId writeHandle) fun half =>
  s.checked (s.validateCanWriteToChannel nodeId half downgrade) fun () =>
  let eventDetails := EventDetails.messageEnqueued nodeId.val (s.channelIdOf half) nodeMsg.handles
  s.checked (s.messageFrom nodeMsg nodeId) fun msg =>
    match s.withWriterChannel half with
    | none => none
    | some (.error e) => some (.ok (half, .error e, eventDetails), s)
    | some (.ok channel) =>
      if s.hasReaders half.channel then
        some (.ok (half, .ok (), eventDetails), s.setQueue half.channel (channel.messages ++ [msg]))
      else some (.ok (half, .error .errChannelClosed, eventDetails), s)

/-- The second section of `channel_write`: once the block has run, log its event and
    return its result. -/
def logBlock :
    Except OakStatus (ChannelHalf × Except OakStatus Unit × EventDetails) × Runtime → Except OakStatus Unit × Runtime
  | (.error e, s) => (.error e, s)
  | (.ok (_, r, e), s) => (r, s.introspectionEvent e)

/-! ### `node_register` -/

/-- The first section of `node_register`: the termination check, the checks on the
    labels and the isolation, the caller's read half, and `new_node_id`. It returns the
    half and the new id. -/
def registerEnter (nodeId : NodeId) (createdNode : CreatedNode) (label : Label) (initialHandle : Handle)
    (downgrade : Downgrading) : Option (Except OakStatus (ChannelHalf × NodeId) × Runtime) :=
  if s.terminating then some (.error .errTerminated, s) else
  s.checked (s.validateCanWriteToLabel nodeId Label.publicUntrusted downgrade) fun () =>
  s.checked (s.validateCanWriteToLabel nodeId label downgrade) fun () =>
  s.checked (some (checkIsolation createdNode label)) fun () =>
  s.checked (s.abiToReadHalf nodeId initialHandle) fun reader =>
    some (.ok (reader, ⟨s.nextNodeId⟩), { s with nextNodeId := s.nextNodeId + 1 })

/-- `node_configure_instance` for the new id, and the new node's handle for the read
    half. A record the id still had is replaced, and its halves are dropped. -/
def registerConfigure (newNodeId : NodeId) (createdNode : CreatedNode) (nodeName : String) (label : Label)
    (reader : ChannelHalf) (rng : List Handle) : Option Runtime :=
  match (s.nodeConfigureInstance newNodeId createdNode.nodeType nodeName label createdNode.privilege).newAbiHandle
      newNodeId reader rng with
  | none => none
  | some (_, _, s') => some (if newNodeId ∈ s.nodeInfos then s'.reclaim else s')

/-- The caller's thread after the checks: it configures the new node, spawns its
    thread (no change to the state), and stores the stopper. -/
def registerFinish (newNodeId : NodeId) (createdNode : CreatedNode) (nodeName : String) (label : Label)
    (reader : ChannelHalf) (rng : List Handle) : Option Runtime :=
  (s.registerConfigure newNodeId createdNode nodeName label reader rng).bind fun s' =>
    s'.addNodeStopper newNodeId ⟨nodeName⟩

/-! ### `wait_on_channels` -/

/-- The last section of a pass of `wait_on_channels`: the statuses, their
    transcription, and the return condition. `none` panics; `some none` goes on to
    park. -/
def waitStatuses (nodeId : NodeId) (readHandles : List Handle) (downgrade : Downgrading) (readerPos : List Nat)
    (readers : List ChannelHalf) : Option (Option (List ChannelReadStatus)) :=
  match s.readersStatuses nodeId downgrade readers with
  | none => none
  | some statuses =>
    match transcribe readerPos statuses (List.range readers.length)
        (List.replicate readHandles.length .invalidChannel) with
    | none => none
    | some allStatuses =>
      if !(statuses.all (· == .notReady)) || readHandles.isEmpty || readers.length != readHandles.length then
        some (some allStatuses)
      else some none

/-! ### `stop` -/

/-- `self.terminating.store(true)`. -/
def storeTerminating : Runtime := { s with terminating := true }

/-- `take_node_stoppers`, its effect on the state. -/
def takeStoppers : Runtime := { s with nodeInfos := s.takeNodeStoppers }

/-- The ids whose records hold a stopper, in the order `take_node_stoppers` returns
    them: the nodes `stop` notifies and joins. -/
def stopperIds : List NodeId := s.nodeInfos.entries.filterMap fun e => e.2.nodeStopper.map fun _ => e.1

variable {s}

/-! ### The sections make up the calls -/

theorem map_logBlock_checked {α : Type} (x : Option (Except OakStatus α))
    (k : α → Option (Except OakStatus (ChannelHalf × Except OakStatus Unit × EventDetails) × Runtime)) :
    (s.checked x k).map logBlock = s.checked x fun a => (k a).map logBlock := by
  rcases x with _ | _ | a <;> rfl

/-- `channel_write` is its block followed by its log. -/
theorem channelWrite_eq_block (n : NodeId) (k : Handle) (nm : NodeMessage) (d : Downgrading) :
    s.channelWrite n k nm d = (s.channelWriteBlock n k nm d).map logBlock := by
  simp only [channelWrite, channelWriteBlock, map_logBlock_checked]
  congr 1; funext half; congr 1; funext _; congr 1; funext msg
  rcases s.withWriterChannel half with _ | _ | ch
  · rfl
  · rfl
  · dsimp only
    split <;> rfl

theorem bind_checked {α β γ : Type} (x : Option (Except OakStatus α)) (k : α → Option (Except OakStatus β × Runtime))
    (g : Except OakStatus β × Runtime → Option (Except OakStatus γ × Runtime))
    (hg : ∀ e, g (.error e, s) = some (.error e, s)) :
    (s.checked x k).bind g = s.checked x fun a => (k a).bind g := by
  rcases x with _ | _ | a
  · rfl
  · exact hg _
  · rfl

/-- What the caller's thread does after the first section of `node_register`. -/
def registerRest (created : CreatedNode) (name : String) (label : Label) (rng : List Handle) :
    Except OakStatus (ChannelHalf × NodeId) × Runtime → Option (Except OakStatus Unit × Runtime)
  | (.error e, t) => some (.error e, t)
  | (.ok (reader, newNodeId), t) => (t.registerFinish newNodeId created name label reader rng).map ((.ok ()), ·)

/-- `node_register` is its checks, then the configuration of the new node, then the
    store of its stopper. -/
theorem nodeRegister_eq_sections (p : NodeId) (created : CreatedNode) (name : String) (label : Label) (k : Handle)
    (d : Downgrading) (rng : List Handle) :
    s.nodeRegister p created name label k d rng =
      (s.registerEnter p created label k d).bind (registerRest created name label rng) := by
  unfold nodeRegister registerEnter
  split
  · rfl
  simp only [bind_checked _ _ (registerRest created name label rng) fun _ => rfl]
  congr 1; funext _; congr 1; funext _; congr 1; funext _; congr 1; funext reader
  simp only [Option.some_bind, registerRest, registerFinish, registerConfigure]
  cases (({ s with nextNodeId := s.nextNodeId + 1 } : Runtime).nodeConfigureInstance ⟨s.nextNodeId⟩
    created.nodeType name label created.privilege).newAbiHandle ⟨s.nextNodeId⟩ reader rng <;> rfl

/-- A pass of `wait_on_channels` is the collection of the read halves, the read of
    `is_terminating`, and the statuses; the `add_waiter` section between the last two
    changes nothing a run of whole calls sees. -/
theorem waitOnChannels_eq_sections (n : NodeId) (hs : List Handle) (d : Downgrading) :
    s.waitOnChannels n hs d =
      match s.collectReaders n hs.enum, s.nodeInfos.lookup n with
      | some (pos, rds), some _ =>
        if s.terminating then some (.returned (.error .errTerminated))
        else (s.waitStatuses n hs d pos rds).map fun r => r.elim .parked (.returned ∘ .ok)
      | _, _ => none := by
  unfold waitOnChannels waitStatuses
  rcases s.collectReaders n hs.enum with _ | ⟨pos, rds⟩ <;> rcases s.nodeInfos.lookup n with _ | ni <;> try rfl
  dsimp only
  split
  · rfl
  rcases s.readersStatuses n d rds with _ | sts
  · rfl
  dsimp only
  rcases transcribe pos sts (List.range rds.length) (List.replicate hs.length .invalidChannel) with _ | all
  · rfl
  dsimp only
  split <;> rfl

/-- `stop` stores `terminating`, wakes the waiters (no change to the state), and takes
    the stoppers. -/
theorem stop_eq_sections : s.stop = s.storeTerminating.takeStoppers := rfl

end Runtime

end OakRuntime

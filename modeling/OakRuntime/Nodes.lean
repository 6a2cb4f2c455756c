import OakRuntime.Channels

/-!
# Node Lifecycle and Waiting

Registering a node, removing it when its thread returns, stopping the runtime, and one
pass of the `wait_on_channels` loop.

`node_register` runs its checks (termination, the two label checks a channel creation
also makes, the privilege check for an uncontrolled instance, the initial handle), then
takes the next `NodeId`, installs the `NodeInfo`, gives the new node a handle for the
read half it inherits, starts the node's thread and attaches the thread's stopper. The
node factory and the node instances are outside the runtime core: a `CreatedNode` is
what the factory returned, with the type and isolation its instance reports, and the
thread is represented by its stopper.

`add_node_info` is a `HashMap::insert`, so an id that is still in use replaces the
record it names; the replaced record is dropped, with its handle table, and that drop
runs the cascade. The node id counter is a wrapping `u64`, so the case is reachable.

`stop` here is what it does to the state: it sets `terminating` and takes every
stopper out of `node_infos`. Joining the threads is waiting for the nodes, which
happens in their own calls (`remove_node_id` when each returns). The interleaving of
`stop` with other threads is the subject of its own model.

`wait_on_channels` parks its thread until a status changes; a sequential run sees one
pass of its loop at a time, and `waitOnChannels` is that pass: it either returns or
parks, and a parked call simply runs its next pass later, from whatever state the run
has reached.

## Main definitions

* `CreatedNode`: What the node factory built.
* `Runtime.nodeRegister`, `Runtime.nodeCreateAndRegister`: Registering a node.
* `Runtime.removeNodeId`: Removing a node whose thread returned.
* `Runtime.stop`: Runtime termination.
* `Runtime.waitOnChannels`: One pass of the wait loop.
-/

namespace OakRuntime

/-- `CreatedNode`: the instance's `node_type()` and `isolation()`, and the privilege the
    factory granted. -/
structure CreatedNode where
  nodeType : String
  isolation : NodeIsolation
  privilege : NodePrivilege
  deriving DecidableEq, Repr

/-- The result of one pass of the wait loop. -/
inductive WaitResult where
  | returned (r : Except OakStatus (List ChannelReadStatus))
  | parked

/-- The loop `for i in 0..readers.len() { all_statuses[reader_pos[i]] = statuses[i] }`,
    over the indices given; an index out of range panics. -/
def transcribe (readerPos : List Nat) (statuses : List ChannelReadStatus) :
    List Nat → List ChannelReadStatus → Option (List ChannelReadStatus)
  | [], allStatuses => some allStatuses
  | i :: is, allStatuses =>
    match readerPos[i]?, statuses[i]? with
    | some pos, some status =>
      if pos < allStatuses.length then transcribe readerPos statuses is (allStatuses.set pos status)
      else none
    | _, _ => none

/-- `unwrap_or(ChannelReadStatus::InvalidChannel)` on a `channel_status` result. -/
def statusOrInvalid : Except OakStatus ChannelReadStatus → ChannelReadStatus
  | .ok status => status
  | .error _ => .invalidChannel

namespace Runtime

variable (s : Runtime)

/-- `Runtime::update_nodes_count_metric`. -/
def updateNodesCountMetric (nodeType : String) (delta : Int) : Runtime :=
  { s with runtimeNodesByType := fun t =>
      if t = nodeType then s.runtimeNodesByType t + delta else s.runtimeNodesByType t }

/-- `Runtime::add_node_info`: insert the record, replacing any record the id had. -/
def addNodeInfo (nodeId : NodeId) (nodeInfo : NodeInfo) : Runtime :=
  (s.setNodeInfo nodeId nodeInfo).updateNodesCountMetric nodeInfo.nodeType 1

/-- `Runtime::node_configure_instance`: log `NodeCreated`, then add a record with an
    empty handle table and no stopper. -/
def nodeConfigureInstance (nodeId : NodeId) (nodeType nodeName : String) (label : Label)
    (privilege : NodePrivilege) : Runtime :=
  (s.introspectionEvent (.nodeCreated nodeId.val nodeName label)).addNodeInfo nodeId
    ⟨nodeName, nodeType, label, privilege, ∅, none⟩

/-- `Runtime::add_node_stopper`. A record that already has a stopper fails the
    assertion; a record that is gone (the thread already returned) is tolerated. -/
def addNodeStopper (nodeId : NodeId) (nodeStopper : NodeStopper) : Option Runtime :=
  match s.nodeInfos.lookup nodeId with
  | none => some s
  | some nodeInfo =>
    match nodeInfo.nodeStopper with
    | none => some (s.setNodeInfo nodeId { nodeInfo with nodeStopper := some nodeStopper })
    | some _ => none

/-- The isolation check of `node_register`: an uncontrolled instance must be able to
    downgrade its label to the public one. -/
def checkIsolation (createdNode : CreatedNode) (label : Label) : Except OakStatus Unit :=
  match createdNode.isolation with
  | .uncontrolled =>
    if (createdNode.privilege.downgradeLabel label).flowsTo Label.publicUntrusted then .ok ()
    else .error .errPermissionDenied
  | .sandboxed => .ok ()

/-- `Runtime::node_register`. When the new id was still in use, `add_node_info`
    replaced that record and dropped its handle table; the drop cascade runs once the
    inherited reader is installed, since the clone `node_register` holds keeps the
    reader's channel alive until then. -/
def nodeRegister (nodeId : NodeId) (createdNode : CreatedNode) (nodeName : String) (label : Label)
    (initialHandle : Handle) (downgrade : Downgrading) (rng : List Handle) :
    Option (Except OakStatus Unit × Runtime) :=
  if s.terminating then some (.error .errTerminated, s) else
  s.checked (s.validateCanWriteToLabel nodeId Label.publicUntrusted downgrade) fun () =>
  s.checked (s.validateCanWriteToLabel nodeId label downgrade) fun () =>
  s.checked (some (checkIsolation createdNode label)) fun () =>
  s.checked (s.abiToReadHalf nodeId initialHandle) fun reader =>
    let newNodeId : NodeId := ⟨s.nextNodeId⟩
    let s₁ := ({ s with nextNodeId := s.nextNodeId + 1 } : Runtime).nodeConfigureInstance newNodeId
      createdNode.nodeType nodeName label createdNode.privilege
    match s₁.newAbiHandle newNodeId reader rng with
    | none => none
    | some (_, _, s₂) =>
      let s₃ := if newNodeId ∈ s.nodeInfos then s₂.reclaim else s₂
      (s₃.addNodeStopper newNodeId ⟨nodeName⟩).map fun s₄ => (.ok (), s₄)

/-- `Runtime::node_create_and_register`, given the node factory's answer for the
    requested name and configuration. -/
def nodeCreateAndRegister (nodeId : NodeId) (createdNode : Option CreatedNode) (name : String)
    (label : Label) (initialHandle : Handle) (downgrade : Downgrading) (rng : List Handle) :
    Option (Except OakStatus Unit × Runtime) :=
  match createdNode with
  | none => some (.error .errInvalidArgs, s)
  | some created => s.nodeRegister nodeId created name label initialHandle downgrade rng

/-- The loop of `remove_node_id` closing every remaining handle; a failed close panics. -/
def closeHandles (nodeId : NodeId) : Runtime → List Handle → Option Runtime
  | s, [] => some s
  | s, handle :: handles =>
    match s.channelClose nodeId handle with
    | some (.ok (), s') => closeHandles nodeId s' handles
    | _ => none

/-- `Runtime::remove_node_id`. -/
def removeNodeId (nodeId : NodeId) : Option Runtime :=
  match s.nodeInfos.lookup nodeId with
  | none => none
  | some nodeInfo =>
    match s.closeHandles nodeId nodeInfo.abiHandles.keys with
    | none => none
    | some s₁ =>
      if nodeId ∈ s₁.nodeInfos then
        some ((({ s₁ with nodeInfos := s₁.nodeInfos.erase nodeId } : Runtime).updateNodesCountMetric
          nodeInfo.nodeType (-1)).introspectionEvent (.nodeDestroyed nodeId.val))
      else none

/-- `Runtime::take_node_stoppers`, its effect on the records. -/
def takeNodeStoppers : AList fun _ : NodeId => NodeInfo :=
  ⟨s.nodeInfos.entries.map fun e => ⟨e.1, { e.2 with nodeStopper := none }⟩, by
    have hkeys : (s.nodeInfos.entries.map fun e => (⟨e.1, { e.2 with nodeStopper := none }⟩ :
        Sigma fun _ : NodeId => NodeInfo)).keys = s.nodeInfos.keys := by
      simp [List.keys, AList.keys, Function.comp_def]
    exact (List.NodupKeys.eq_def _).symm ▸ hkeys ▸ s.nodeInfos.keys_nodup⟩

/-- `Runtime::stop`, its effect on the state: terminating, and every stopper taken. -/
def stop : Runtime := { s with terminating := true, nodeInfos := s.takeNodeStoppers }

/-- The loop of `wait_on_channels` collecting the valid read halves and their
    positions; a handle that is not a read handle of the node is skipped. -/
def collectReaders (nodeId : NodeId) : List (Nat × Handle) → Option (List Nat × List ChannelHalf)
  | [] => some ([], [])
  | (i, handle) :: rest =>
    match s.abiToReadHalf nodeId handle, collectReaders nodeId rest with
    | some (.ok half), some (readerPos, readers) => some (i :: readerPos, half :: readers)
    | some (.error _), some r => some r
    | _, _ => none

/-- `Runtime::readers_statuses`: a status that is an error is `InvalidChannel`. -/
def readersStatuses (nodeId : NodeId) (downgrade : Downgrading) :
    List ChannelHalf → Option (List ChannelReadStatus)
  | [] => some []
  | half :: halves =>
    match s.channelStatus nodeId half downgrade, readersStatuses nodeId downgrade halves with
    | some r, some rs => some (statusOrInvalid r :: rs)
    | _, _ => none

/-- One pass of `Runtime::wait_on_channels`, after it has registered as a waiter. -/
def waitOnChannels (nodeId : NodeId) (readHandles : List Handle) (downgrade : Downgrading) :
    Option WaitResult :=
  match s.collectReaders nodeId readHandles.enum, s.nodeInfos.lookup nodeId with
  | some (readerPos, readers), some _ =>
    if s.terminating then some (.returned (.error .errTerminated)) else
    match s.readersStatuses nodeId downgrade readers with
    | none => none
    | some statuses =>
      match transcribe readerPos statuses (List.range readers.length)
          (List.replicate readHandles.length .invalidChannel) with
      | none => none
      | some allStatuses =>
        if !(statuses.all (· == .notReady)) || readHandles.isEmpty ||
            readers.length != readHandles.length then
          some (.returned (.ok allStatuses))
        else some .parked
  | _, _ => none

end Runtime

end OakRuntime

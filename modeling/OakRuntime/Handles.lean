import OakRuntime.State

/-!
# Handle Tables and Label Checks

The translation between node-relative handles and channel halves, and the
information-flow checks every operation starts with.

A `None` result is a panic of the source: every helper here looks its node up with
`expect("Invalid node_id")`, and the façade promises the id is valid, so a missing node
is a broken contract rather than an error. Errors the source returns are `Except`
values inside the `Option`.

`new_abi_handle` draws 64-bit candidates from the thread's random generator until one
is free in the node's table. The generator is outside the model: every operation that
allocates handles takes the stream of candidates it will draw, `rng`, as an argument,
and `firstFreeHandle` is the retry loop over it. A stream that runs out before a free
candidate turns up is a loop the model cannot finish, and gives `none`.

The checks read a label and a privilege off the node's record. `Downgrading.apply`
names what `get_effective_label` does with them, so that the statements built on the
checks can speak of "the label under a flag" without repeating the match.

## Main definitions

* `firstFreeHandle`: The retry loop of `new_abi_handle`.
* `Runtime.newAbiHandle`, `Runtime.newAbiHandles`: Install halves under fresh handles.
* `Runtime.dropAbiHandle`: Remove a handle, dropping its half.
* `Runtime.abiToHalf`, `Runtime.abiToReadHalf`, `Runtime.abiToWriteHalf`: Resolve a
  handle.
* `Runtime.validateCanReadFromLabel`, `Runtime.validateCanWriteToLabel`: The IFC
  checks.
* `Runtime.getChannelLabel`: The label of the channel behind a handle.

## Theorems

* `firstFreeHandle_fresh`: The loop only returns a handle the table does not hold.
* `firstFreeHandle_first`: It returns the first such candidate, whenever there is one.
* `firstFreeHandle_empty`: In an empty table it is the first candidate.
* `Runtime.newAbiHandle_eq_some`: What installing a half does.
* `Runtime.validateCanReadFromLabel_eq`, `Runtime.validateCanWriteToLabel_eq`: The
  checks in closed form.
-/

namespace OakRuntime

/-- `get_effective_label`'s choice: apply the privilege or not. -/
def Downgrading.apply : Downgrading → NodePrivilege → Label → Label
  | .yes, privilege, label => privilege.downgradeLabel label
  | .no, _, label => label

@[simp] theorem Downgrading.apply_no (p : NodePrivilege) (l : Label) : Downgrading.no.apply p l = l :=
  rfl

@[simp] theorem Downgrading.apply_yes (p : NodePrivilege) (l : Label) :
    Downgrading.yes.apply p l = p.downgradeLabel l := rfl

/-- The retry loop of `new_abi_handle`: skip the candidates the table already maps, take
    the first one it does not, and keep the candidates not drawn yet. -/
def firstFreeHandle (table : HandleTable) : List Handle → Option (Handle × List Handle)
  | [] => none
  | candidate :: rest =>
    if table.lookup candidate = none then some (candidate, rest) else firstFreeHandle table rest

theorem firstFreeHandle_fresh {table : HandleTable} {rng rest : List Handle} {h : Handle}
    (hf : firstFreeHandle table rng = some (h, rest)) : table.lookup h = none := by
  induction rng with
  | nil => cases hf
  | cons c cs ih =>
    simp only [firstFreeHandle] at hf
    split at hf
    · cases hf; assumption
    · exact ih hf

/-- The loop takes the first candidate the table does not map, once the candidates hold
    one; the candidates before it are all mapped. -/
theorem firstFreeHandle_first (table : HandleTable) {rng : List Handle} (h : ∃ c ∈ rng, table.lookup c = none) :
    ∃ pre x rest, rng = pre ++ x :: rest ∧ (∀ c ∈ pre, table.lookup c ≠ none) ∧ table.lookup x = none ∧
      firstFreeHandle table rng = some (x, rest) := by
  induction rng with
  | nil => obtain ⟨_, hc, _⟩ := h; cases hc
  | cons c cs ih =>
    by_cases hc : table.lookup c = none
    · exact ⟨[], c, cs, rfl, fun _ h => absurd h (List.not_mem_nil _), hc, by simp [firstFreeHandle, hc]⟩
    · obtain ⟨c', hc', hfree⟩ := h
      have hmem : c' ∈ cs := (List.mem_cons.1 hc').resolve_left fun e => hc (e ▸ hfree)
      obtain ⟨pre, x, rest, rfl, hpre, hx, hf⟩ := ih ⟨c', hmem, hfree⟩
      exact ⟨c :: pre, x, rest, rfl, List.forall_mem_cons.2 ⟨hc, hpre⟩, hx, by simp [firstFreeHandle, hc, hf]⟩

/-- In an empty table the first candidate is free. -/
theorem firstFreeHandle_empty {rng rest : List Handle} {x : Handle} (hf : firstFreeHandle ∅ rng = some (x, rest)) :
    rng.head? = some x := by
  cases rng with
  | nil => cases hf
  | cons y ys =>
    simp only [firstFreeHandle, AList.lookup_empty, if_true, Option.some.injEq, Prod.mk.injEq] at hf
    simp [hf.1]

namespace Runtime

variable (s : Runtime)

/-- `Runtime::new_abi_handle`: install `half` under a free handle of the node's table
    and log `HandleCreated`. -/
def newAbiHandle (nodeId : NodeId) (half : ChannelHalf) (rng : List Handle) :
    Option (Handle × List Handle × Runtime) :=
  match s.nodeInfos.lookup nodeId with
  | none => none
  | some nodeInfo =>
    match firstFreeHandle nodeInfo.abiHandles rng with
    | none => none
    | some (candidate, rest) =>
      let s' := s.setNodeInfo nodeId
        { nodeInfo with abiHandles := nodeInfo.abiHandles.insert candidate half }
      some (candidate, rest, s'.introspectionEvent
        (.handleCreated nodeId.val candidate (s.channelIdOf half) half.direction))

/-- `new_abi_handle` over a list of halves, as `node_message_from` maps it. -/
def newAbiHandles (nodeId : NodeId) : Runtime → List ChannelHalf → List Handle →
    Option (List Handle × List Handle × Runtime)
  | s, [], rng => some ([], rng, s)
  | s, half :: halves, rng =>
    match s.newAbiHandle nodeId half rng with
    | none => none
    | some (h, rng, s) =>
      match newAbiHandles nodeId s halves rng with
      | none => none
      | some (hs, rng, s) => some (h :: hs, rng, s)

/-- `Runtime::drop_abi_handle`: remove a handle from the node's table and log
    `HandleDestroyed`; the half it mapped is dropped, which may set off the drop
    cascade. -/
def dropAbiHandle (nodeId : NodeId) (handle : Handle) : Option (Except OakStatus Unit × Runtime) :=
  match s.nodeInfos.lookup nodeId with
  | none => none
  | some nodeInfo =>
    match nodeInfo.abiHandles.lookup handle with
    | none => some (.error .errBadHandle, s)
    | some half =>
      let s' := s.setNodeInfo nodeId { nodeInfo with abiHandles := nodeInfo.abiHandles.erase handle }
      some (.ok (), (s'.introspectionEvent
        (.handleDestroyed nodeId.val handle (s.channelIdOf half) half.direction)).reclaim)

/-- `Runtime::abi_to_half`. -/
def abiToHalf (nodeId : NodeId) (handle : Handle) : Option (Except OakStatus ChannelHalf) :=
  (s.nodeInfos.lookup nodeId).map fun nodeInfo =>
    match nodeInfo.abiHandles.lookup handle with
    | some half => .ok half
    | none => .error .errBadHandle

/-- `Runtime::abi_to_read_half`. -/
def abiToReadHalf (nodeId : NodeId) (handle : Handle) : Option (Except OakStatus ChannelHalf) :=
  (s.abiToHalf nodeId handle).map fun
    | .ok half => match half.direction with
      | .read => .ok half
      | .write => .error .errBadHandle
    | .error e => .error e

/-- `Runtime::abi_to_write_half`. -/
def abiToWriteHalf (nodeId : NodeId) (handle : Handle) : Option (Except OakStatus ChannelHalf) :=
  (s.abiToHalf nodeId handle).map fun
    | .ok half => match half.direction with
      | .read => .error .errBadHandle
      | .write => .ok half
    | .error e => .error e

/-- `Runtime::get_node_label`. -/
def getNodeLabel (nodeId : NodeId) : Option Label := (s.nodeInfos.lookup nodeId).map (·.label)

/-- `Runtime::get_node_privilege`. -/
def getNodePrivilege (nodeId : NodeId) : Option NodePrivilege :=
  (s.nodeInfos.lookup nodeId).map (·.privilege)

/-- `Runtime::get_effective_label`. -/
def getEffectiveLabel (nodeId : NodeId) (initialLabel : Label) (downgrade : Downgrading) :
    Option Label :=
  match downgrade with
  | .yes => (s.getNodePrivilege nodeId).map (·.downgradeLabel initialLabel)
  | .no => some initialLabel

/-- `Runtime::validate_can_read_from_label`: the source label, downgraded under the
    flag, must flow to the node's label. -/
def validateCanReadFromLabel (nodeId : NodeId) (sourceLabel : Label) (downgrade : Downgrading) :
    Option (Except OakStatus Unit) := do
  let targetLabel ← s.getNodeLabel nodeId
  let effectiveLabel ← s.getEffectiveLabel nodeId sourceLabel downgrade
  pure (if effectiveLabel.flowsTo targetLabel then .ok () else .error .errPermissionDenied)

/-- `Runtime::validate_can_write_to_label`: the node's label, downgraded under the flag,
    must flow to the target label. -/
def validateCanWriteToLabel (nodeId : NodeId) (targetLabel : Label) (downgrade : Downgrading) :
    Option (Except OakStatus Unit) := do
  let originalLabel ← s.getNodeLabel nodeId
  let effectiveLabel ← s.getEffectiveLabel nodeId originalLabel downgrade
  pure (if effectiveLabel.flowsTo targetLabel then .ok () else .error .errPermissionDenied)

/-- `channel::with_reader_channel`, modelled from its callers: the channel of a read
    half, `ErrBadHandle` for a write half. -/
def withReaderChannel (half : ChannelHalf) : Option (Except OakStatus Channel) :=
  match half.direction with
  | .read => (s.channels[half.channel]?).map .ok
  | .write => some (.error .errBadHandle)

/-- `channel::with_writer_channel`, the same for a write half. -/
def withWriterChannel (half : ChannelHalf) : Option (Except OakStatus Channel) :=
  match half.direction with
  | .read => some (.error .errBadHandle)
  | .write => (s.channels[half.channel]?).map .ok

/-- `Runtime::validate_can_read_from_channel`. -/
def validateCanReadFromChannel (nodeId : NodeId) (half : ChannelHalf) (downgrade : Downgrading) :
    Option (Except OakStatus Unit) :=
  match s.withReaderChannel half with
  | none => none
  | some (.error e) => some (.error e)
  | some (.ok channel) => s.validateCanReadFromLabel nodeId channel.label downgrade

/-- `Runtime::validate_can_write_to_channel`. -/
def validateCanWriteToChannel (nodeId : NodeId) (half : ChannelHalf) (downgrade : Downgrading) :
    Option (Except OakStatus Unit) :=
  match s.withWriterChannel half with
  | none => none
  | some (.error e) => some (.error e)
  | some (.ok channel) => s.validateCanWriteToLabel nodeId channel.label downgrade

/-- `Runtime::get_reader_channel_label`. -/
def getReaderChannelLabel (half : ChannelHalf) : Option (Except OakStatus Label) :=
  (s.withReaderChannel half).map fun r => r.map (·.label)

/-- `Runtime::get_writer_channel_label`. -/
def getWriterChannelLabel (half : ChannelHalf) : Option (Except OakStatus Label) :=
  (s.withWriterChannel half).map fun r => r.map (·.label)

/-- `Runtime::get_channel_label`: the label of the channel behind a handle, read through
    the half's own direction. -/
def getChannelLabel (nodeId : NodeId) (handle : Handle) : Option (Except OakStatus Label) :=
  match s.abiToHalf nodeId handle with
  | none => none
  | some (.error e) => some (.error e)
  | some (.ok half) =>
    match half.direction with
    | .read => s.getReaderChannelLabel half
    | .write => s.getWriterChannelLabel half

/-! ### Spec lemmas -/

variable {s}

theorem lookup_setNodeInfo (n m : NodeId) (ni : NodeInfo) :
    (s.setNodeInfo n ni).nodeInfos.lookup m = if m = n then some ni else s.nodeInfos.lookup m := by
  unfold setNodeInfo
  split
  · subst_vars; exact AList.lookup_insert _
  · exact AList.lookup_insert_ne ‹_›

theorem newAbiHandle_eq_some {n : NodeId} {half : ChannelHalf} {rng rest : List Handle}
    {h : Handle} {s' : Runtime} :
    s.newAbiHandle n half rng = some (h, rest, s') ↔
      ∃ ni, s.nodeInfos.lookup n = some ni ∧ firstFreeHandle ni.abiHandles rng = some (h, rest) ∧
        s' = (s.setNodeInfo n { ni with abiHandles := ni.abiHandles.insert h half }).introspectionEvent
          (.handleCreated n.val h (s.channelIdOf half) half.direction) := by
  unfold newAbiHandle
  cases hni : s.nodeInfos.lookup n with
  | none => simp
  | some ni =>
    cases hf : firstFreeHandle ni.abiHandles rng with
    | none => simp [hf]
    | some p =>
      simp only [hf, Option.some.injEq, Prod.mk.injEq, exists_eq_left']
      constructor
      · rintro ⟨rfl, rfl, rfl⟩; exact ⟨rfl, rfl⟩
      · rintro ⟨hp, rfl⟩; cases hp; exact ⟨rfl, rfl, rfl⟩

theorem validateCanReadFromLabel_eq {n : NodeId} {ni : NodeInfo} (hn : s.nodeInfos.lookup n = some ni)
    (l : Label) (d : Downgrading) :
    s.validateCanReadFromLabel n l d =
      some (if (d.apply ni.privilege l).flowsTo ni.label then .ok () else .error .errPermissionDenied) := by
  cases d <;> simp [validateCanReadFromLabel, getNodeLabel, getEffectiveLabel, getNodePrivilege, hn]

theorem validateCanWriteToLabel_eq {n : NodeId} {ni : NodeInfo} (hn : s.nodeInfos.lookup n = some ni)
    (l : Label) (d : Downgrading) :
    s.validateCanWriteToLabel n l d =
      some (if (d.apply ni.privilege ni.label).flowsTo l then .ok () else .error .errPermissionDenied) := by
  cases d <;> simp [validateCanWriteToLabel, getNodeLabel, getEffectiveLabel, getNodePrivilege, hn]

end Runtime

end OakRuntime

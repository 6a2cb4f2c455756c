import OakRuntime.Handles

/-!
# Channel Operations

The runtime's channel operations, as the source writes them: `channel_create`,
`handle_clone`, `channel_write`, `channel_read`, `channel_try_read_message`,
`channel_status` and `channel_close`, with the message translations
`message_from` and `node_message_from`.

Each operation returns `none` for a panic, and otherwise its result with the state
after it. `Runtime.checked` is the source's `?` on a check: an error ends the
operation at once and leaves the state as it was. It leaves nothing else behind,
because every check the source puts before a mutation only reads.

`channel_write` is the exception to "an error changes nothing": it logs
`MessageEnqueued` after its `with_writer_channel` block whatever the block returned,
so a write refused with `ErrChannelClosed` still appends an event. The model keeps
that order.

The waiter set of a channel and `wake_waiters` have no effect on the state a
sequential run sees; they belong to the interleaving model of `wait_on_channels`.

## Main definitions

* `Runtime.checked`: Rust's `?` on a check.
* `Runtime.channelCreate`, `Runtime.handleClone`, `Runtime.channelClose`.
* `Runtime.messageFrom`, `Runtime.channelWrite`.
* `Runtime.nodeMessageFrom`, `Runtime.channelRead`, `Runtime.channelTryReadMessage`.
* `Runtime.channelStatus`.
-/

namespace OakRuntime

/-- `NodeReadStatus`. -/
inductive NodeReadStatus where
  | success (msg : NodeMessage)
  | needsCapacity (bytes handles : Nat)
  deriving DecidableEq, Repr

namespace Runtime

variable (s : Runtime)

/-- Rust's `?` on a check that reads the state: an error returns at once with the
    state unchanged, a value continues. -/
def checked {α β : Type} : Option (Except OakStatus α) → (α → Option (Except OakStatus β × Runtime)) →
    Option (Except OakStatus β × Runtime)
  | none, _ => none
  | some (.error e), _ => some (.error e, s)
  | some (.ok a), k => k a

/-- `Runtime::channel_create`. The caller must be able to write to the public label
    (the new channel's existence is public) and to the channel's label. -/
def channelCreate (nodeId : NodeId) (name : String) (label : Label) (downgrade : Downgrading)
    (rng : List Handle) : Option (Except OakStatus (Handle × Handle) × Runtime) :=
  if s.terminating then some (.error .errTerminated, s) else
  s.checked (s.validateCanWriteToLabel nodeId Label.publicUntrusted downgrade) fun () =>
  s.checked (s.validateCanWriteToLabel nodeId label downgrade) fun () =>
    let channelId := s.nextChannelId
    let c := s.channels.length
    let s₁ : Runtime :=
      { s with nextChannelId := channelId + 1, channels := s.channels ++ [⟨channelId, name, label, []⟩] }
    match (s₁.introspectionEvent (.channelCreated channelId name label)).newAbiHandle nodeId
        ⟨c, .write⟩ rng with
    | none => none
    | some (writeHandle, rng, s₂) =>
      match s₂.newAbiHandle nodeId ⟨c, .read⟩ rng with
      | none => none
      | some (readHandle, _, s₃) => some (.ok (writeHandle, readHandle), s₃)

/-- `Runtime::handle_clone`: a new handle for the same half. -/
def handleClone (nodeId : NodeId) (handle : Handle) (rng : List Handle) :
    Option (Except OakStatus Handle × Runtime) :=
  if s.terminating then some (.error .errTerminated, s) else
  s.checked (s.abiToHalf nodeId handle) fun clonedHalf =>
    (s.newAbiHandle nodeId clonedHalf rng).map fun (h, _, s') => (.ok h, s')

/-- The handles of a node message resolved one by one, as
    `collect::<Result<Vec<ChannelHalf>, OakStatus>>` does: the first bad handle fails
    the whole list. -/
def abiToHalves (nodeId : NodeId) : List Handle → Option (Except OakStatus (List ChannelHalf))
  | [] => some (.ok [])
  | handle :: handles =>
    match s.abiToHalf nodeId handle with
    | none => none
    | some (.error e) => some (.error e)
    | some (.ok half) => (abiToHalves nodeId handles).map fun r => r.map (half :: ·)

/-- `Runtime::message_from`. -/
def messageFrom (nodeMsg : NodeMessage) (nodeId : NodeId) : Option (Except OakStatus Message) :=
  (s.abiToHalves nodeId nodeMsg.handles).map fun r => r.map fun channels => ⟨nodeMsg.bytes, channels⟩

/-- `Runtime::channel_write`. `MessageEnqueued` is logged after the channel block,
    whatever it returned. -/
def channelWrite (nodeId : NodeId) (writeHandle : Handle) (nodeMsg : NodeMessage)
    (downgrade : Downgrading) : Option (Except OakStatus Unit × Runtime) :=
  s.checked (s.abiToWriteHalf nodeId writeHandle) fun half =>
  s.checked (s.validateCanWriteToChannel nodeId half downgrade) fun () =>
  let eventDetails := EventDetails.messageEnqueued nodeId.val (s.channelIdOf half) nodeMsg.handles
  s.checked (s.messageFrom nodeMsg nodeId) fun msg =>
    match s.withWriterChannel half with
    | none => none
    | some (.error e) => some (.error e, s.introspectionEvent eventDetails)
    | some (.ok channel) =>
      if s.hasReaders half.channel then
        some (.ok (), (s.setQueue half.channel (channel.messages ++ [msg])).introspectionEvent eventDetails)
      else some (.error .errChannelClosed, s.introspectionEvent eventDetails)

/-- `Runtime::node_message_from`: install each carried half in the node's table. -/
def nodeMessageFrom (msg : Message) (nodeId : NodeId) (rng : List Handle) :
    Option (NodeMessage × Runtime) :=
  (s.newAbiHandles nodeId msg.channels rng).map fun (handles, _, s') => (⟨msg.data, handles⟩, s')

/-- `Runtime::channel_read`. -/
def channelRead (nodeId : NodeId) (readHandle : Handle) (downgrade : Downgrading)
    (rng : List Handle) : Option (Except OakStatus (Option NodeMessage) × Runtime) :=
  s.checked (s.abiToReadHalf nodeId readHandle) fun half =>
  s.checked (s.validateCanReadFromChannel nodeId half downgrade) fun () =>
  s.checked (s.withReaderChannel half) fun channel =>
    match channel.messages with
    | [] => some (if s.hasWriters half.channel then .ok none else .error .errChannelClosed, s)
    | m :: rest =>
      match (s.setQueue half.channel rest).nodeMessageFrom m nodeId rng with
      | none => none
      | some (nodeMsg, s') =>
        some (.ok (some nodeMsg),
          s'.introspectionEvent (.messageDequeued nodeId.val (s.channelIdOf half) nodeMsg.handles))

/-- `Runtime::channel_try_read_message`: like `channel_read`, but a front message that
    needs more bytes or handles than the caller offers stays queued and its sizes are
    reported. -/
def channelTryReadMessage (nodeId : NodeId) (handle : Handle) (bytesCapacity handlesCapacity : Nat)
    (downgrade : Downgrading) (rng : List Handle) :
    Option (Except OakStatus (Option NodeReadStatus) × Runtime) :=
  s.checked (s.abiToReadHalf nodeId handle) fun half =>
  s.checked (s.validateCanReadFromChannel nodeId half downgrade) fun () =>
  s.checked (s.withReaderChannel half) fun channel =>
    match channel.messages with
    | [] => some (if s.hasWriters half.channel then .ok none else .error .errChannelClosed, s)
    | front :: rest =>
      if front.data.length > bytesCapacity ∨ front.channels.length > handlesCapacity then
        some (.ok (some (.needsCapacity front.data.length front.channels.length)), s)
      else
        match (s.setQueue half.channel rest).nodeMessageFrom front nodeId rng with
        | none => none
        | some (message, s') =>
          some (.ok (some (.success message)),
            s'.introspectionEvent (.messageDequeued nodeId.val (s.channelIdOf half) message.handles))

/-- `Runtime::channel_status`. A permission failure is a status, not an error. -/
def channelStatus (nodeId : NodeId) (half : ChannelHalf) (downgrade : Downgrading) :
    Option (Except OakStatus ChannelReadStatus) :=
  match s.validateCanReadFromChannel nodeId half downgrade with
  | none => none
  | some (.error .errPermissionDenied) => some (.ok .permissionDenied)
  | some _ =>
    (s.withReaderChannel half).map fun r => r.map fun channel =>
      if channel.messages ≠ [] then .readReady
      else if ¬ s.hasWriters half.channel then .orphaned
      else .notReady

/-- `Runtime::channel_close`: drop the handle's half. -/
def channelClose (nodeId : NodeId) (handle : Handle) : Option (Except OakStatus Unit × Runtime) :=
  s.dropAbiHandle nodeId handle

/-! ### `checked` -/

variable {s}

@[simp] theorem checked_none {α β : Type} (k : α → Option (Except OakStatus β × Runtime)) :
    s.checked none k = none := rfl

@[simp] theorem checked_error {α β : Type} (e : OakStatus) (k : α → Option (Except OakStatus β × Runtime)) :
    s.checked (some (.error e)) k = some (.error e, s) := rfl

@[simp] theorem checked_ok {α β : Type} (a : α) (k : α → Option (Except OakStatus β × Runtime)) :
    s.checked (some (.ok a)) k = k a := rfl

/-- What a checked step can end in: the check's error with the state unchanged, or
    whatever the continuation does with the checked value. -/
theorem checked_eq_some {α β : Type} {x : Option (Except OakStatus α)}
    {k : α → Option (Except OakStatus β × Runtime)} {r : Except OakStatus β} {s' : Runtime}
    (h : s.checked x k = some (r, s')) :
    (∃ e, x = some (.error e) ∧ r = .error e ∧ s' = s) ∨ (∃ a, x = some (.ok a) ∧ k a = some (r, s')) := by
  match x, h with
  | some (.error e), h => cases h; exact .inl ⟨e, rfl, rfl, rfl⟩
  | some (.ok a), h => exact .inr ⟨a, rfl, h⟩

end Runtime

end OakRuntime

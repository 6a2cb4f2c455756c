import OakRuntime.Effects

/-!
# The Introspection Log

Every operation of the runtime appends `EventDetails` to one log, under one lock, so
that an observer can rebuild the runtime's state from it: the messages a channel
holds are the `MessageEnqueued` events naming it less the `MessageDequeued` ones.

`channel_write` does not keep that count. It builds its `MessageEnqueued` event before
the channel block and logs it after the block, whatever the block returned; the block
refuses a channel with no reader with `ErrChannelClosed` and queues nothing. So a
write to a channel whose readers are gone leaves an enqueue in the log that never
happened in the channel (`closed_write_logged`), and from a fresh runtime three calls
suffice to make the log and the queue disagree (`rejected_write_miscounted`).

## Main definitions

* `EventDetails.enqueues`, `EventDetails.dequeues`: Events that put a message on, or
  take one off, a channel.
* `Runtime.enqueuedEvents`, `Runtime.dequeuedEvents`: How many the log holds for a
  channel.

## Theorems

* `Runtime.closed_write_logged`: A write refused for want of readers is logged as an
  enqueue.
* `Runtime.rejected_write_miscounted`: A run from a fresh runtime after which the
  log counts one message more than the channel holds.
-/

namespace OakRuntime

namespace EventDetails

/-- A `MessageEnqueued` event for the channel with id `c`. -/
def enqueues (c : ChannelId) : EventDetails → Bool
  | .messageEnqueued _ c' _ => c' == c
  | _ => false

/-- A `MessageDequeued` event for the channel with id `c`. -/
def dequeues (c : ChannelId) : EventDetails → Bool
  | .messageDequeued _ c' _ => c' == c
  | _ => false

end EventDetails

namespace Runtime

variable {s : Runtime}

/-- The number of `MessageEnqueued` events the log holds for channel id `c`. -/
def enqueuedEvents (s : Runtime) (c : ChannelId) : Nat := s.introspectionEventQueue.countP (·.enqueues c)

/-- The number of `MessageDequeued` events the log holds for channel id `c`. -/
def dequeuedEvents (s : Runtime) (c : ChannelId) : Nat := s.introspectionEventQueue.countP (·.dequeues c)

/-- A `channel_write` that passes every check but finds the channel without a reader
    returns `ErrChannelClosed` and queues nothing, yet logs `MessageEnqueued` for the
    channel. -/
theorem closed_write_logged {n : NodeId} {k : Handle} {nm : NodeMessage} {d : Downgrading}
    {half : ChannelHalf} {ch : Channel} {m : Message} (hh : s.abiToWriteHalf n k = some (.ok half))
    (hv : s.validateCanWriteToChannel n half d = some (.ok ())) (hm : s.messageFrom nm n = some (.ok m))
    (hch : s.channels[half.channel]? = some ch) (hr : ¬ s.hasReaders half.channel) :
    s.channelWrite n k nm d =
      some (.error .errChannelClosed, s.introspectionEvent (.messageEnqueued n.val (s.channelIdOf half) nm.handles)) := by
  have hdir : half.direction = .write := (abiToWriteHalf_eq_ok.1 hh).2
  simp [channelWrite, hh, hv, hm, withWriterChannel, hdir, hch, hr]

/-- From a fresh runtime: node 0 creates a channel, closes its read handle, and writes
    to it. The write is refused and the channel stays empty, but the log holds one
    `MessageEnqueued` for it and no `MessageDequeued`. -/
theorem rejected_write_miscounted :
    ∃ ts s', fresh.run [.channelCreate ⟨0⟩ "log" Label.publicUntrusted .no [5, 6], .channelClose ⟨0⟩ 6,
        .channelWrite ⟨0⟩ 5 ⟨[7], []⟩ .no] = some (ts, s') ∧
      ts.map (·.outcome) = [.created (.ok (5, 6)), .closed (.ok ()), .written (.error .errChannelClosed)] ∧
      (s'.channels[0]?).map (·.id) = some 0 ∧ s'.queueOf 0 = [] ∧
      s'.enqueuedEvents 0 - s'.dequeuedEvents 0 = 1 :=
  ⟨_, _, rfl, rfl, rfl, rfl, rfl⟩

end Runtime

end OakRuntime

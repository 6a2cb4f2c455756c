import OakRuntime.Label
import Mathlib.Data.List.AList

/-!
# Runtime State

The data the runtime core keeps: the channels, the per-node records with their
handle tables, the id counters, the introspection log and the node-count metric.

A Rust `ChannelHalf` holds an `Arc<Channel>`; here a half names its channel by the
channel's *object identity*, its position in the heap `Runtime.channels`. That
identity is distinct from the channel's 64-bit `ChannelId`, which comes from a
wrapping counter: two channel objects may share an id, never a position. Channels are
never removed from the heap; one that no half refers to any more is unreachable, and
nothing can observe it.

The reader and writer counts of a channel are not stored. The spec fixes them as the
number of live halves of each direction (invariant I3), and a half is live while a
node's handle table holds it or a queued message carries it. `hasReaders` and
`hasWriters` read that off the state, so the counts can never disagree with the
halves. The transient clones an operation holds while it runs are copies of halves
its node's table already holds, so they never change whether a count is zero.

Dropping the last half of a channel drops the `Channel`, and with it the messages in
its queue and every half those carry, which may orphan further channels in turn.
`reclaim` runs that cascade: it empties the queue of every channel no half refers to,
until there is none left. Rust's reference counting frees exactly these channels (a
channel held only through a cycle of queues is leaked in both), and since emptying one
queue only ever removes halves, the order in which the cascade visits channels does
not change where it ends.

The maps of the source (`HashMap<NodeId, NodeInfo>`, `HashMap<Handle, ChannelHalf>`)
are Mathlib `AList`s, whose keys are distinct by construction. Iteration order of a
`HashMap` is unspecified; the model iterates in list order.

## Main definitions

* `ChannelHalf`, `Message`, `NodeMessage`, `Channel`: The channel data model.
* `NodeInfo`: The runtime's record of one node.
* `EventDetails`: An introspection event.
* `Runtime`: The whole runtime state.
* `Runtime.halves`: Every live half.
* `Runtime.hasReaders`, `Runtime.hasWriters`: Whether a channel has live halves of
  a direction.
* `Runtime.reclaim`: The cascade of channel drops.

## Theorems

* `Runtime.referenced_iff`: A channel is referenced when it has readers or writers.
* `Runtime.halves_reclaim_subset`: Reclaiming only removes halves.
* `Runtime.queueOf_reclaim_of_referenced`: A channel still referenced after the
  cascade keeps its queue.
* `Runtime.reclaim_complete`: After the cascade every channel with a queued message
  is referenced.
-/

namespace OakRuntime

/-- `oak_abi::Handle`: a node-relative 64-bit handle value. -/
abbrev Handle := UInt64

/-- A channel's 64-bit identifier. -/
abbrev ChannelId := UInt64

/-- `NodeId(pub u64)`. -/
structure NodeId where
  val : UInt64
  deriving DecidableEq, Repr

/-- `ChannelHalfDirection`. -/
inductive ChannelHalfDirection where
  | read
  | write
  deriving DecidableEq, Repr

/-- `ChannelHalf`: one end of a channel, the channel named by its heap position. -/
structure ChannelHalf where
  channel : Nat
  direction : ChannelHalfDirection
  deriving DecidableEq, Repr

/-- `message::Message`: data and the halves it carries. -/
structure Message where
  data : List UInt8
  channels : List ChannelHalf
  deriving DecidableEq, Repr

/-- `oak_io::Message`, the node-facing message: data and node-relative handles. -/
structure NodeMessage where
  bytes : List UInt8
  handles : List Handle
  deriving DecidableEq, Repr

/-- `channel::Channel`, modelled from the spec: its id, name, label and queue. -/
structure Channel where
  id : ChannelId
  name : String
  label : Label
  messages : List Message
  deriving DecidableEq, Repr

/-- The `OakStatus` errors the runtime core returns. -/
inductive OakStatus where
  | errBadHandle
  | errInvalidArgs
  | errChannelClosed
  | errPermissionDenied
  | errTerminated
  deriving DecidableEq, Repr

/-- `ChannelReadStatus`. -/
inductive ChannelReadStatus where
  | notReady
  | readReady
  | invalidChannel
  | orphaned
  | permissionDenied
  deriving DecidableEq, Repr

/-- `Downgrading`: whether an operation applies the node's privilege. -/
inductive Downgrading where
  | no
  | yes
  deriving DecidableEq, Repr

/-- `NodeIsolation`. -/
inductive NodeIsolation where
  | sandboxed
  | uncontrolled
  deriving DecidableEq, Repr

/-- `NodeStopper`. The join handle and the notification sender stand for the node's
    thread, which the sequential model does not run. -/
structure NodeStopper where
  nodeName : String
  deriving DecidableEq, Repr

/-- A node's handle table, `HashMap<oak_abi::Handle, ChannelHalf>`. -/
abbrev HandleTable := AList fun _ : Handle => ChannelHalf

/-- `NodeInfo`. -/
structure NodeInfo where
  name : String
  nodeType : String
  label : Label
  privilege : NodePrivilege
  abiHandles : HandleTable
  nodeStopper : Option NodeStopper

/-- `EventDetails` of the introspection log, with the fields the core fills in. -/
inductive EventDetails where
  | channelCreated (channelId : ChannelId) (name : String) (label : Label)
  | handleCreated (nodeId : UInt64) (handle : Handle) (channelId : ChannelId)
      (direction : ChannelHalfDirection)
  | handleDestroyed (nodeId : UInt64) (handle : Handle) (channelId : ChannelId)
      (direction : ChannelHalfDirection)
  | messageEnqueued (nodeId : UInt64) (channelId : ChannelId) (includedHandles : List Handle)
  | messageDequeued (nodeId : UInt64) (channelId : ChannelId) (acquiredHandles : List Handle)
  | nodeCreated (nodeId : UInt64) (name : String) (label : Label)
  | nodeDestroyed (nodeId : UInt64)
  deriving DecidableEq, Repr

/-- `Runtime`, with the heap of channel objects its halves point into. -/
structure Runtime where
  terminating : Bool
  nextChannelId : UInt64
  nodeInfos : AList fun _ : NodeId => NodeInfo
  nextNodeId : UInt64
  introspectionEventQueue : List EventDetails
  runtimeNodesByType : String → Int
  channels : List Channel

namespace Runtime

variable (s : Runtime)

/-- The halves the nodes' handle tables hold. -/
def tableHalves : List ChannelHalf :=
  s.nodeInfos.entries.flatMap fun e => e.2.abiHandles.entries.map (·.2)

/-- The halves carried by queued messages. -/
def queuedHalves : List ChannelHalf :=
  s.channels.flatMap fun c => c.messages.flatMap (·.channels)

/-- Every live half. -/
def halves : List ChannelHalf := s.tableHalves ++ s.queuedHalves

/-- The reader count of channel `c`, modelled from the spec (I3): the number of live
    read halves. -/
def readerCount (c : Nat) : Nat := s.halves.count ⟨c, .read⟩

/-- The writer count of channel `c`: the number of live write halves. -/
def writerCount (c : Nat) : Nat := s.halves.count ⟨c, .write⟩

/-- `Channel::has_readers`. -/
def hasReaders (c : Nat) : Prop := 0 < s.readerCount c

/-- `Channel::has_writers`. -/
def hasWriters (c : Nat) : Prop := 0 < s.writerCount c

/-- Some live half refers to channel `c`. -/
def Referenced (c : Nat) : Prop := ∃ h ∈ s.halves, h.channel = c

instance (c : Nat) : Decidable (s.hasReaders c) := inferInstanceAs (Decidable (_ < _))
instance (c : Nat) : Decidable (s.hasWriters c) := inferInstanceAs (Decidable (_ < _))

theorem hasReaders_iff (c : Nat) : s.hasReaders c ↔ ⟨c, .read⟩ ∈ s.halves := List.count_pos_iff

theorem hasWriters_iff (c : Nat) : s.hasWriters c ↔ ⟨c, .write⟩ ∈ s.halves := List.count_pos_iff
instance (c : Nat) : Decidable (s.Referenced c) := inferInstanceAs (Decidable (∃ _ ∈ _, _))

/-- The queue of channel `c`, empty for a position past the heap. -/
def queueOf (c : Nat) : List Message := ((s.channels[c]?).map (·.messages)).getD []

/-- The `ChannelId` of a half's channel (`ChannelHalf::get_channel_id`). -/
def channelIdOf (half : ChannelHalf) : ChannelId := ((s.channels[half.channel]?).map (·.id)).getD 0

/-- Replace the queue of channel `c`. -/
def setQueue (c : Nat) (q : List Message) : Runtime :=
  { s with channels := s.channels.modify (fun ch => { ch with messages := q }) c }

/-- Append an event to the introspection log (`Runtime::introspection_event`). -/
def introspectionEvent (e : EventDetails) : Runtime :=
  { s with introspectionEventQueue := s.introspectionEventQueue ++ [e] }

/-- Install a node record under an id, replacing any record it had. -/
def setNodeInfo (nodeId : NodeId) (nodeInfo : NodeInfo) : Runtime :=
  { s with nodeInfos := s.nodeInfos.insert nodeId nodeInfo }

theorem referenced_iff (c : Nat) : s.Referenced c ↔ s.hasReaders c ∨ s.hasWriters c := by
  rw [hasReaders_iff, hasWriters_iff]
  constructor
  · rintro ⟨⟨c', d⟩, hh, rfl⟩
    cases d
    · exact .inl hh
    · exact .inr hh
  · rintro (h | h) <;> exact ⟨_, h, rfl⟩

/-- Channel `c` is garbage that still queues messages. -/
def reclaimable (c : Nat) : Bool := decide (s.queueOf c ≠ [] ∧ ¬ s.Referenced c)

/-- Empty the queue of one reclaimable channel after another, at most `fuel` times. -/
def reclaimLoop : Nat → Runtime → Runtime
  | 0, s => s
  | fuel + 1, s =>
    match (List.range s.channels.length).find? s.reclaimable with
    | none => s
    | some c => reclaimLoop fuel (s.setQueue c [])

/-- Modelled from the spec ("a channel is reclaimed when all halves and all queued
    messages which may themselves embed halves are gone"): the drop cascade that
    follows the drop of a half. Each round empties a different queue, so one round per
    channel is enough (`reclaim_complete`). -/
def reclaim : Runtime := reclaimLoop s.channels.length s

/-! ### Frame lemmas -/

variable {s}

@[simp] theorem nodeInfos_setQueue (c : Nat) (q : List Message) :
    (s.setQueue c q).nodeInfos = s.nodeInfos := rfl

@[simp] theorem length_setQueue (c : Nat) (q : List Message) :
    (s.setQueue c q).channels.length = s.channels.length := by
  simp [setQueue]

theorem getElem?_setQueue (c c' : Nat) (q : List Message) :
    (s.setQueue c q).channels[c']? =
      if c = c' then (s.channels[c']?).map fun ch => { ch with messages := q }
      else s.channels[c']? := by
  unfold setQueue
  split
  · subst_vars; simp
  · simp [List.getElem?_modify_ne _ _ ‹_›]

@[simp] theorem tableHalves_setQueue (c : Nat) (q : List Message) :
    (s.setQueue c q).tableHalves = s.tableHalves := rfl

@[simp] theorem tableHalves_introspectionEvent (e : EventDetails) :
    (s.introspectionEvent e).tableHalves = s.tableHalves := rfl

@[simp] theorem queuedHalves_introspectionEvent (e : EventDetails) :
    (s.introspectionEvent e).queuedHalves = s.queuedHalves := rfl

/-- Emptying a queue only removes the halves it carried. -/
theorem queuedHalves_setQueue_nil_subset (c : Nat) :
    (s.setQueue c []).queuedHalves ⊆ s.queuedHalves := by
  suffices ∀ (l : List Channel) (c : Nat),
      (l.modify (fun ch => { ch with messages := [] }) c).flatMap
          (fun ch => ch.messages.flatMap (·.channels)) ⊆
        l.flatMap fun ch => ch.messages.flatMap (·.channels) from this s.channels c
  intro l
  induction l with
  | nil => simp
  | cons ch l ih =>
    rintro (_ | c)
    · simp
    · simpa using List.subset_append_of_subset_right _ (ih c)

theorem halves_setQueue_nil_subset (c : Nat) : (s.setQueue c []).halves ⊆ s.halves :=
  List.append_subset.2 ⟨List.subset_append_left _ _,
    List.subset_append_of_subset_right _ (queuedHalves_setQueue_nil_subset c)⟩

/-! ### The drop cascade -/

/-- The cascade changes nothing but the channels' queues. -/
theorem reclaimLoop_eq_with (n : Nat) (s : Runtime) :
    reclaimLoop n s = { s with channels := (reclaimLoop n s).channels } := by
  induction n generalizing s with
  | zero => rfl
  | succ n ih =>
    simp only [reclaimLoop]
    split
    · rfl
    · exact ih _

theorem halves_reclaimLoop_subset (n : Nat) (s : Runtime) :
    (reclaimLoop n s).halves ⊆ s.halves := by
  induction n generalizing s with
  | zero => exact List.Subset.refl _
  | succ n ih =>
    simp only [reclaimLoop]
    split
    · exact List.Subset.refl _
    · exact List.Subset.trans (ih _) (halves_setQueue_nil_subset _)

/-- Each channel is either untouched by the cascade, or emptied and no longer
    referenced at its end. -/
theorem getElem?_reclaimLoop (n : Nat) (s : Runtime) (c : Nat) :
    (reclaimLoop n s).channels[c]? = s.channels[c]? ∨
      ((reclaimLoop n s).channels[c]? =
          (s.channels[c]?).map (fun ch => { ch with messages := [] }) ∧
        ¬ (reclaimLoop n s).Referenced c) := by
  induction n generalizing s with
  | zero => exact .inl rfl
  | succ n ih =>
    simp only [reclaimLoop]
    split
    · exact .inl rfl
    · rename_i c' hfind
      have hc' := List.find?_some hfind
      simp only [reclaimable, decide_eq_true_eq] at hc'
      have ih' := ih (s.setQueue c' [])
      rw [getElem?_setQueue] at ih'
      by_cases hcc : c' = c
      · subst hcc
        have hgone : ¬ (reclaimLoop n (s.setQueue c' [])).Referenced c' := by
          rintro ⟨h, hh, hch⟩
          exact hc'.2 ⟨h, halves_setQueue_nil_subset _ (halves_reclaimLoop_subset _ _ hh), hch⟩
        simp only [if_true, Option.map_map] at ih'
        rcases ih' with h | ⟨h, -⟩ <;> exact .inr ⟨h.trans rfl, hgone⟩
      · simpa [hcc] using ih'

variable (s)

theorem reclaim_eq_with : s.reclaim = { s with channels := s.reclaim.channels } :=
  reclaimLoop_eq_with _ s

@[simp] theorem nodeInfos_reclaim : s.reclaim.nodeInfos = s.nodeInfos := by
  rw [reclaim_eq_with]

@[simp] theorem terminating_reclaim : s.reclaim.terminating = s.terminating := by
  rw [reclaim_eq_with]

@[simp] theorem nextChannelId_reclaim : s.reclaim.nextChannelId = s.nextChannelId := by
  rw [reclaim_eq_with]

@[simp] theorem nextNodeId_reclaim : s.reclaim.nextNodeId = s.nextNodeId := by
  rw [reclaim_eq_with]

@[simp] theorem introspectionEventQueue_reclaim :
    s.reclaim.introspectionEventQueue = s.introspectionEventQueue := by
  rw [reclaim_eq_with]

@[simp] theorem runtimeNodesByType_reclaim : s.reclaim.runtimeNodesByType = s.runtimeNodesByType := by
  rw [reclaim_eq_with]

@[simp] theorem tableHalves_reclaim : s.reclaim.tableHalves = s.tableHalves := by
  simp [tableHalves]

theorem halves_reclaim_subset : s.reclaim.halves ⊆ s.halves := halves_reclaimLoop_subset _ _

/-- The cascade keeps every channel's label and id. -/
theorem label_reclaim (c : Nat) :
    (s.reclaim.channels[c]?).map Channel.label = (s.channels[c]?).map Channel.label := by
  rcases getElem?_reclaimLoop s.channels.length s c with h | ⟨h, -⟩ <;>
    simp [reclaim, h, Option.map_map, Function.comp_def]

theorem channelIdOf_reclaim (half : ChannelHalf) : s.reclaim.channelIdOf half = s.channelIdOf half := by
  rcases getElem?_reclaimLoop s.channels.length s half.channel with h | ⟨h, -⟩ <;>
    simp [channelIdOf, reclaim, h, Option.map_map, Function.comp_def]

theorem queueOf_reclaim_of_referenced {c : Nat} (h : s.reclaim.Referenced c) :
    s.reclaim.queueOf c = s.queueOf c := by
  rcases getElem?_reclaimLoop s.channels.length s c with h' | ⟨-, h'⟩
  · simp [queueOf, reclaim, h']
  · exact absurd h h'

/-- The number of channels with a non-empty queue, which bounds the rounds the cascade
    can take. -/
def nonEmptyQueues : Nat := s.channels.countP fun ch => ch.messages ≠ []

variable {s}

theorem nonEmptyQueues_setQueue_nil {c : Nat} (hc : c < s.channels.length)
    (hq : s.queueOf c ≠ []) : (s.setQueue c []).nonEmptyQueues + 1 = s.nonEmptyQueues := by
  have hne : s.channels[c].messages ≠ [] := by
    simpa [queueOf, List.getElem?_eq_getElem hc] using hq
  have hpos := List.boole_getElem_le_countP (fun ch : Channel => decide (ch.messages ≠ [])) _ c hc
  simp only [nonEmptyQueues, setQueue, List.modify_eq_set_get _ hc, List.countP_set _ _ _ _ hc]
  simp only [List.get_eq_getElem, ne_eq, hne, not_false_eq_true, decide_True, if_true,
    not_true_eq_false, decide_False, Bool.false_eq_true, if_false] at hpos ⊢
  omega

theorem reclaimLoop_complete (n : Nat) (s : Runtime) (hn : s.nonEmptyQueues ≤ n) (c : Nat)
    (hq : (reclaimLoop n s).queueOf c ≠ []) : (reclaimLoop n s).Referenced c := by
  induction n generalizing s with
  | zero =>
    exfalso
    simp only [nonEmptyQueues, Nat.le_zero, List.countP_eq_zero, decide_eq_true_eq,
      not_not] at hn
    simp only [reclaimLoop, queueOf] at hq
    cases h : s.channels[c]? with
    | none => simp [h] at hq
    | some ch => exact hq (by simpa [h] using hn ch (List.getElem?_mem h))
  | succ n ih =>
    simp only [reclaimLoop] at hq ⊢
    split at hq
    · rename_i hfind
      by_contra hr
      have hc : c < s.channels.length := by
        by_contra hc
        exact hq (by simp [queueOf, List.getElem?_eq_none (Nat.le_of_not_lt hc)])
      have := List.find?_eq_none.1 hfind c (List.mem_range.2 hc)
      simp [reclaimable, hq, hr] at this
    · rename_i c' hfind
      have hc' := List.find?_some hfind
      simp only [reclaimable, decide_eq_true_eq] at hc'
      have hlt := List.mem_range.1 (List.mem_of_find?_eq_some hfind)
      exact ih _ (by have := nonEmptyQueues_setQueue_nil hlt hc'.1; omega) hq

/-- The cascade runs to its end within its fuel: afterwards every channel that still
    queues a message is referenced. -/
theorem reclaim_complete (s : Runtime) (c : Nat) (hq : s.reclaim.queueOf c ≠ []) :
    s.reclaim.Referenced c :=
  reclaimLoop_complete _ s (List.countP_le_length _) c hq

end Runtime

end OakRuntime

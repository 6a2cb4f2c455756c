import OakRuntime.Deadlock
import OakRuntime.Lifetime

/-!
# The Log Announces Every Channel Before It Names It

`channel_create` logs `ChannelCreated` before it installs the two handles of the new
channel, and asks (`TODO(#913)`) for a check that `ChannelCreated` is always logged
before any other introspection event about the channel. It is. After every run of calls
from a fresh runtime, every event that carries a channel id (a handle created or
dropped, a message enqueued or dequeued) is the `ChannelCreated` of that id or comes
after one (`Runtime.channelCreated_first`).

An event names a channel through a half: the `channel_id` of the half's channel
(`ChannelHalf::get_channel_id`). Every half a call logs about is in a node's table or in
a message on a queue, so it points into the heap (`Runtime.InHeap`), and every channel of
the heap was announced when `channel_create` added it. No other code adds a channel, and
none changes a channel's id.

The `ChannelCreated` events do more than announce: read in order, they list the heap. No
channel ever leaves the heap (one that no half refers to any more only loses its queue),
no other call logs the event, and `channel_create` logs the id, name and label it gives
the new channel. So after every run the log's `ChannelCreated` events record the heap's
channels, in order (`Runtime.log_lists_channels`). The ids come from `next_channel_id`, a
wrapping 64-bit counter: the channel at position `i` of the heap has id `i` mod `2 ^ 64`,
and two channels share an id exactly when their positions differ by a multiple of
`2 ^ 64` (`Runtime.channel_ids_collide_iff`). On every handle a node holds,
`get_channel_label` returns the label that its channel's `ChannelCreated` records
(`Runtime.channel_label_as_logged`).

## Main definitions

* `EventDetails.channelId`, `EventDetails.announces`: The channel id an event carries,
  and whether it is that channel's `ChannelCreated`.
* `Channel.header`, `EventDetails.createdChannel`: What `ChannelCreated` records of a
  channel.
* `Runtime.Announced`: The invariant: the log announces every channel it names and
  every channel of the heap.
* `Runtime.Catalogued`: The invariant: the log lists the heap, and every channel's id is
  its position mod `2 ^ 64`.
* `Runtime.Heralded`: A change that adds no channel, changes no channel but its queue,
  and logs only about channels of the heap.

## Theorems

* `Runtime.Announced.of_heralded`, `Runtime.Catalogued.of_heralded`: Such a change keeps
  the invariants.
* `Runtime.Announced.channelCreated`, `Runtime.Catalogued.channelCreated`: So does adding
  a channel with its announcement.
* `Runtime.heralded_step`: Every call makes such a change, after adding a channel if it
  is a `channel_create`.
* `Runtime.channelCreated_first`, `Runtime.log_lists_channels`,
  `Runtime.channel_ids_collide_iff`, `Runtime.channel_label_as_logged`: Every run.
-/

namespace OakRuntime

/-- What `ChannelCreated` records of a channel: its id, name and label. -/
def Channel.header (ch : Channel) : ChannelId × String × Label := (ch.id, ch.name, ch.label)

@[simp] theorem Channel.header_messages (ch : Channel) (q : List Message) :
    ({ ch with messages := q } : Channel).header = ch.header := rfl

namespace EventDetails

/-- The `channel_id` field of an event; the node events have none. -/
def channelId : EventDetails → Option ChannelId
  | .channelCreated c .. | .handleCreated _ _ c _ | .handleDestroyed _ _ c _ | .messageEnqueued _ c _
  | .messageDequeued _ c _ => some c
  | .nodeCreated .. | .nodeDestroyed _ => none

/-- The event is the `ChannelCreated` of channel id `c`. -/
def announces (c : ChannelId) : EventDetails → Bool
  | .channelCreated c' .. => c' == c
  | _ => false

theorem announces_iff {c : ChannelId} {e : EventDetails} :
    e.announces c = true ↔ ∃ name l, e = .channelCreated c name l := by
  cases e with
  | channelCreated c' name l =>
    simp only [announces, beq_iff_eq, channelCreated.injEq]
    constructor
    · rintro rfl; exact ⟨name, l, rfl, rfl, rfl⟩
    · rintro ⟨_, _, rfl, -, -⟩; rfl
  | _ => simp [announces]

/-- The channel a `ChannelCreated` event records. -/
def createdChannel : EventDetails → Option (ChannelId × String × Label)
  | .channelCreated c name l => some (c, name, l)
  | _ => none

end EventDetails

/-- The cascade only empties queues. -/
theorem Reclaimed.headers {s s' : Runtime} (h : Reclaimed s s') :
    s'.channels.map Channel.header = s.channels.map Channel.header :=
  List.ext_getElem? fun c => by
    rcases h.channel c with e | ⟨e, -⟩ <;> simp [e, Option.map_map, Function.comp_def]

namespace Runtime

variable {s s₁ s' : Runtime}

@[simp]
theorem channelIdOf_setQueue (c : Nat) (q : List Message) (x : ChannelHalf) :
    (s.setQueue c q).channelIdOf x = s.channelIdOf x := by
  simp only [channelIdOf, getElem?_setQueue]
  split <;> simp [Option.map_map, Function.comp_def]

theorem headers_setQueue (c : Nat) (q : List Message) :
    (s.setQueue c q).channels.map Channel.header = s.channels.map Channel.header :=
  List.ext_getElem? fun c' => by
    simp only [List.getElem?_map, getElem?_setQueue]
    split <;> simp [Option.map_map, Function.comp_def]

/-- Channels with the same ids, names and labels give every half the same id. -/
theorem channelIdOf_of_headers (h : s'.channels.map Channel.header = s.channels.map Channel.header)
    (x : ChannelHalf) : s'.channelIdOf x = s.channelIdOf x := by
  have hx : (s'.channels[x.channel]?).map Channel.id = (s.channels[x.channel]?).map Channel.id := by
    simpa [Option.map_map, Function.comp_def, Channel.header] using
      congrArg (fun l => (l[x.channel]?).map Prod.fst) h
  simp only [channelIdOf, hx]

/-- The log announces every channel it names, and every channel of the heap. -/
structure Announced (s : Runtime) : Prop where
  log : IntroducedAfter EventDetails.channelId EventDetails.announces [] s.introspectionEventQueue
  heap : ∀ x : ChannelHalf, x.channel < s.channels.length →
    s.introspectionEventQueue.any (·.announces (s.channelIdOf x))

/-- A change that adds no channel, keeps the id, name and label of every channel and the
    channel id counter, and logs only events about channels of the heap, none of them a
    `ChannelCreated`. -/
structure Heralded (s s' : Runtime) : Prop where
  log : ∃ evs, s'.introspectionEventQueue = s.introspectionEventQueue ++ evs ∧
    ∀ e ∈ evs, e.createdChannel = none ∧
      ∀ c, e.channelId = some c → ∃ x : ChannelHalf, x.channel < s.channels.length ∧ c = s.channelIdOf x
  headers : s'.channels.map Channel.header = s.channels.map Channel.header
  counter : s'.nextChannelId = s.nextChannelId

theorem Heralded.length (h : Heralded s s') : s'.channels.length = s.channels.length := by
  simpa using congrArg List.length h.headers

theorem Heralded.ids (h : Heralded s s') (x : ChannelHalf) : s'.channelIdOf x = s.channelIdOf x :=
  channelIdOf_of_headers h.headers x

theorem Announced.of_heralded (hi : s.Announced) (hw : Heralded s s') : s'.Announced := by
  obtain ⟨evs, hl, he⟩ := hw.log
  refine ⟨?_, fun x hx => ?_⟩
  · rw [hl, introducedAfter_append]
    refine ⟨hi.log, .of_forall fun e he' c hc => ?_⟩
    obtain ⟨x, hx, rfl⟩ := (he e he').2 c hc
    simpa using hi.heap x hx
  · rw [hl, List.any_append, hw.ids, hi.heap x (hw.length ▸ hx), Bool.true_or]

/-- `channel_create` adds its channel to the heap and announces it. -/
theorem Announced.channelCreated (hi : s.Announced) (name : String) (label : Label) :
    (({ s with nextChannelId := s.nextChannelId + 1, channels := s.channels ++ [⟨s.nextChannelId, name, label, []⟩] } :
      Runtime).introspectionEvent (.channelCreated s.nextChannelId name label)).Announced := by
  refine ⟨?_, fun x hx => ?_⟩
  · show IntroducedAfter _ _ [] (s.introspectionEventQueue ++ [.channelCreated s.nextChannelId name label])
    rw [introducedAfter_append]
    exact ⟨hi.log, fun c hc => .inl (by cases hc; simp [EventDetails.announces]), trivial⟩
  · change x.channel < (s.channels ++ [_]).length at hx
    rw [List.length_append, List.length_singleton] at hx
    simp only [channelIdOf, introspectionEvent, List.any_append, Bool.or_eq_true]
    rcases Nat.lt_succ_iff_lt_or_eq.1 hx with hx | hx
    · exact .inl (by simpa [List.getElem?_append_left hx, channelIdOf] using hi.heap x hx)
    · exact .inr (by simp [hx, EventDetails.announces])

namespace Heralded

theorem of_eq (hl : s'.introspectionEventQueue = s.introspectionEventQueue) (hc : s'.channels = s.channels)
    (hn : s'.nextChannelId = s.nextChannelId) : Heralded s s' :=
  ⟨⟨[], by simp [hl], by simp⟩, by rw [hc], hn⟩

theorem refl (s : Runtime) : Heralded s s := .of_eq rfl rfl rfl

theorem trans (h₁ : Heralded s s₁) (h₂ : Heralded s₁ s') : Heralded s s' := by
  obtain ⟨e₁, hl₁, he₁⟩ := h₁.log
  obtain ⟨e₂, hl₂, he₂⟩ := h₂.log
  refine ⟨⟨e₁ ++ e₂, by rw [hl₂, hl₁, List.append_assoc], fun e he => ?_⟩, h₂.headers.trans h₁.headers,
    h₂.counter.trans h₁.counter⟩
  rcases List.mem_append.1 he with he | he
  · exact he₁ e he
  · refine ⟨(he₂ e he).1, fun c hc => ?_⟩
    obtain ⟨x, hx, rfl⟩ := (he₂ e he).2 c hc
    exact ⟨x, h₁.length ▸ hx, h₁.ids x⟩

/-- One more event, about a channel of the heap. -/
theorem introspectionEvent (h : Heralded s s') {e : EventDetails} (hn : e.createdChannel = none)
    (he : ∀ c, e.channelId = some c → ∃ x : ChannelHalf, x.channel < s.channels.length ∧ c = s.channelIdOf x) :
    Heralded s (s'.introspectionEvent e) := by
  obtain ⟨evs, hl, hev⟩ := h.log
  refine ⟨⟨evs ++ [e], by simp [Runtime.introspectionEvent, hl], fun e' he' => ?_⟩, h.headers, h.counter⟩
  rcases List.mem_append.1 he' with he' | he'
  · exact hev e' he'
  · rw [List.mem_singleton.1 he']; exact ⟨hn, he⟩

theorem of_reclaimed (h : Reclaimed s s') (hl : s'.introspectionEventQueue = s.introspectionEventQueue)
    (hn : s'.nextChannelId = s.nextChannelId) : Heralded s s' :=
  ⟨⟨[], by simp [hl], by simp⟩, h.headers, hn⟩

end Heralded

/-- An event about a half of the heap names a channel of the heap. -/
theorem heap_of_half {x : ChannelHalf} (hh : s.InHeap) (hx : x ∈ s.halves) :
    ∃ y : ChannelHalf, y.channel < s.channels.length ∧ s.channelIdOf x = s.channelIdOf y :=
  ⟨x, hh x hx, rfl⟩

theorem mem_halves_of_lookupHandle {n : NodeId} {h : Handle} {x : ChannelHalf} (hx : s.lookupHandle n h = some x) :
    x ∈ s.halves :=
  mem_halves.2 (.inl ⟨n, h, hx⟩)

end Runtime

theorem Installed.heralded {s s' : Runtime} {n : NodeId} {hs : List Handle} {halves : List ChannelHalf}
    (hi : Installed s s' n hs halves) (hh : ∀ x ∈ halves, x.channel < s.channels.length) :
    Runtime.Heralded s s' := by
  obtain ⟨_, hs'⟩ := hi.core
  refine ⟨⟨_, hi.events, fun e he => ?_⟩, by rw [hi.channels_eq], by rw [hs']⟩
  obtain ⟨h, -, half, hhalf, rfl⟩ := List.exists_of_mem_zipWith he
  exact ⟨rfl, fun c hc => by cases hc; exact ⟨half, hh half hhalf, rfl⟩⟩

namespace Runtime

variable {s s' : Runtime}

theorem DropStep.heralded {n : NodeId} {handle : Handle} {ni : NodeInfo} {half : ChannelHalf}
    (hd : s.DropStep s' n handle ni half) (hh : s.InHeap) : Heralded s s' := by
  refine ⟨⟨_, hd.events, fun e he => ?_⟩, hd.reclaimed.headers, hd.nextChannelId_eq⟩
  rw [List.mem_singleton.1 he]
  refine ⟨rfl, fun c hc => ?_⟩
  cases hc
  exact ⟨half, hh half (mem_halves_of_lookupHandle (lookupHandle_eq_some.2 ⟨ni, hd.lookup_node, hd.lookup_handle⟩)),
    rfl⟩

theorem closeHandles_heralded {n : NodeId} {hs : List Handle} (s : Runtime) (hh : s.InHeap)
    (h : closeHandles n s hs = some s') : Heralded s s' := by
  induction hs generalizing s with
  | nil => cases h; exact .refl _
  | cons handle hs ih =>
    simp only [closeHandles] at h
    split at h
    · obtain ⟨ni, half, hd⟩ := dropAbiHandle_ok ‹_›
      exact (hd.heralded hh).trans (ih _ (hh.of_subset hd.halves_subset hd.reclaimed.length_eq.ge) h)
    · cases h

theorem heralded_setQueue (c : Nat) (q : List Message) : Heralded s (s.setQueue c q) :=
  ⟨⟨[], by simp [setQueue], by simp⟩, headers_setQueue _ _, rfl⟩

/-- A write logs its `MessageEnqueued` about the channel of the writer's half. -/
theorem channelWrite_heralded {n : NodeId} {k : Handle} {nm : NodeMessage} {d : Downgrading} {o : Outcome}
    (hh : s.InHeap) (h : s.step (.channelWrite n k nm d) = some (o, s')) : Heralded s s' := by
  simp only [step, channelWrite_eq_block, Option.map_map] at h
  obtain ⟨⟨r, s₁⟩, hb, he⟩ := Option.map_eq_some'.1 h
  cases he
  rcases channelWriteBlock_spec hb with ⟨e, rfl, rfl⟩ | ⟨half, res, rfl, hs₁⟩
  · exact .refl _
  refine Heralded.introspectionEvent ?_ rfl fun _ hc => ?_
  · rcases hs₁ with rfl | ⟨ch, m, -, rfl⟩
    exacts [.refl _, heralded_setQueue _ _]
  · cases hc
    exact heap_of_half hh (mem_halves_of_lookupHandle (channelWriteBlock_half hb))

/-- A read logs its `MessageDequeued` about the reader's channel, and the handles it
    installs for halves that were queued in the message. -/
theorem ReadStep.heralded {n : NodeId} {handle : Handle} {d : Downgrading} {nm : NodeMessage} {ni : NodeInfo}
    {half : ChannelHalf} {ch : Channel} {m : Message} {rest : List Message}
    (hr : s.ReadStep s' n handle d nm ni half ch m rest) (hh : s.InHeap) : Heralded s s' := by
  obtain ⟨s₁, hins, rfl⟩ := hr.post
  have hq : ∀ x ∈ m.channels, x.channel < (s.setQueue half.channel rest).channels.length := fun x hx => by
    have hm : m ∈ ch.messages := by rw [hr.front]; exact List.mem_cons_self _ _
    rw [length_setQueue]
    exact hh x (mem_halves.2 (.inr (mem_queuedHalves.2 ⟨_, _, hr.channel, _, hm, hx⟩)))
  refine ((heralded_setQueue _ _).trans (hins.heralded hq)).introspectionEvent rfl fun _ hc => ?_
  cases hc
  exact heap_of_half hh (mem_halves_of_lookupHandle (lookupHandle_eq_some.2 ⟨_, hr.lookup_node, hr.lookup_handle⟩))

theorem registerEnter_heralded {n : NodeId} {cr : CreatedNode} {l : Label} {k : Handle} {d : Downgrading}
    {r : Except OakStatus (ChannelHalf × NodeId)} (h : s.registerEnter n cr l k d = some (r, s')) : Heralded s s' := by
  unfold registerEnter checked at h
  split at h
  · cases h; exact .refl _
  repeat' split at h <;> try (cases h <;> exact .of_eq rfl rfl rfl)

theorem registerEnter_reader {n : NodeId} {cr : CreatedNode} {l : Label} {k : Handle} {d : Downgrading}
    {reader : ChannelHalf} {m : NodeId} (h : s.registerEnter n cr l k d = some (.ok (reader, m), s')) :
    s.lookupHandle n k = some reader := by
  unfold registerEnter at h
  split at h
  · cases h
  obtain ⟨_, -, he, -⟩ | ⟨_, -, h₁⟩ := checked_eq_some h; · cases he
  obtain ⟨_, -, he, -⟩ | ⟨_, -, h₂⟩ := checked_eq_some h₁; · cases he
  obtain ⟨_, -, he, -⟩ | ⟨_, -, h₃⟩ := checked_eq_some h₂; · cases he
  obtain ⟨_, -, he, -⟩ | ⟨reader', hr, h₄⟩ := checked_eq_some h₃; · cases he
  cases h₄
  exact (abiToReadHalf_eq_ok.1 hr).1

/-- `node_configure_instance` and the new node's handle for a half of the heap. -/
theorem registerConfigure_heralded {m : NodeId} {cr : CreatedNode} {name : String} {l : Label}
    {reader : ChannelHalf} {rng : List Handle} (hr : reader.channel < s.channels.length)
    (h : s.registerConfigure m cr name l reader rng = some s') : Heralded s s' := by
  unfold registerConfigure at h
  split at h
  · cases h
  rename_i hn
  cases h
  have h₁ : Heralded s (s.nodeConfigureInstance m cr.nodeType name l cr.privilege) :=
    (Heralded.refl s).introspectionEvent (by rfl) (fun _ hc => by cases hc) |>.trans (.of_eq rfl rfl rfl)
  have h₂ := h₁.trans ((newAbiHandle_installed hn).heralded fun x hx => by
    rw [List.mem_singleton.1 hx]; exact hr)
  split
  · exact h₂.trans (.of_reclaimed (.reclaim _) (by simp) (by simp))
  · exact h₂

theorem addNodeStopper_heralded {m : NodeId} {st : NodeStopper} (h : s.addNodeStopper m st = some s') :
    Heralded s s' := by
  unfold addNodeStopper at h
  repeat' split at h <;> try (cases h <;> exact .of_eq rfl rfl rfl)

theorem nodeRegister_heralded {p : NodeId} {cr : CreatedNode} {name : String} {label : Label} {k : Handle}
    {d : Downgrading} {rng : List Handle} {r : Except OakStatus Unit} (hh : s.InHeap)
    (h : s.nodeRegister p cr name label k d rng = some (r, s')) : Heralded s s' := by
  rcases r with _ | ⟨⟩
  · rw [nodeRegister_error h]; exact .refl _
  obtain ⟨reader, m, s₁, s₂, he, hcf, hadd⟩ := nodeRegister_ok_sections h
  have h₁ := registerEnter_heralded he
  have hr := hh reader (mem_halves_of_lookupHandle (registerEnter_reader he))
  exact (h₁.trans (registerConfigure_heralded (h₁.length ▸ hr) hcf)).trans (addNodeStopper_heralded hadd)

theorem removeNodeId_heralded {n : NodeId} (hh : s.InHeap) (h : s.removeNodeId n = some s') : Heralded s s' := by
  obtain ⟨ni, s₁, -, h₁, -, rfl⟩ := removeNodeId_sections h
  have hw : Heralded s₁ (({ s₁ with nodeInfos := s₁.nodeInfos.erase n } : Runtime).updateNodesCountMetric ni.nodeType
      (-1)) := .of_eq rfl rfl rfl
  refine ((closeHandles_heralded s hh h₁).trans hw).introspectionEvent ?_ fun _ hc => ?_
  · rfl
  · cases hc

variable {call : Call} {o : Outcome}

/-- Every call makes a `Heralded` change, while every half points into the heap; a
    `channel_create` makes it after adding its channel and logging the announcement. -/
theorem heralded_step (h : s.step call = some (o, s')) (hh : s.InHeap) :
    Heralded s s' ∨ ∃ name label,
      Heralded (({ s with nextChannelId := s.nextChannelId + 1, channels := s.channels ++ [⟨s.nextChannelId, name, label, []⟩] } :
        Runtime).introspectionEvent (.channelCreated s.nextChannelId name label)) s' := by
  cases change_of_step h with
  | same => exact .inl (.refl s)
  | wrote hw => exact .inl (channelWrite_heralded hh hw)
  | created hins =>
    refine .inr ⟨_, _, hins.heralded fun x hx => ?_⟩
    rcases List.mem_pair.1 hx with rfl | rfl <;> simp [Runtime.introspectionEvent]
  | cloned hl hins => exact .inl (hins.heralded fun x hx => by
      rw [List.mem_singleton.1 hx]; exact hh _ (mem_halves_of_lookupHandle hl))
  | read hr => exact .inl (hr.heralded hh)
  | closed hd => exact .inl (hd.heralded hh)
  | registered hr _ => exact .inl (nodeRegister_heralded hh hr)
  | removed hr _ => exact .inl (removeNodeId_heralded hh hr)
  | stopped => exact .inl (.of_eq rfl rfl rfl)

/-- Every call keeps the log announcing every channel it names, while every half
    points into the heap. -/
theorem announced_step (h : s.step call = some (o, s')) (hh : s.InHeap) (hi : s.Announced) : s'.Announced := by
  rcases heralded_step h hh with hw | ⟨name, label, hw⟩
  exacts [hi.of_heralded hw, (hi.channelCreated name label).of_heralded hw]

theorem announced_fresh : fresh.Announced where
  log := by
    show IntroducedAfter _ _ [] [EventDetails.nodeCreated 0 "implicit.initial" Label.publicUntrusted]
    exact ⟨fun _ hn => (by cases hn), trivial⟩
  heap x hx := absurd hx (Nat.not_lt_zero _)

/-- The log announces every channel before it names it. After every run from a fresh
    runtime, every event of the log that carries a channel id is the `ChannelCreated` of
    that id or has a `ChannelCreated` of that id before it. -/
theorem channelCreated_first {calls : List Call} {ts : List Transition} (h : fresh.run calls = some (ts, s')) :
    ∀ p e q, s'.introspectionEventQueue = p ++ e :: q → ∀ c, e.channelId = some c →
      (∃ name l, e = .channelCreated c name l) ∨ ∃ name l, .channelCreated c name l ∈ p := by
  intro p e q hl c hc
  have hi := (run_invariant h (P := fun s => s.InHeap ∧ s.Announced)
    (fun _ ht ⟨hh, ha⟩ => ⟨inHeap_step (step_of_mem_run h ht) hh, announced_step (step_of_mem_run h ht) hh ha⟩)
    ⟨journal_fresh.inHeap, announced_fresh⟩).2.2.log
  rcases (hl ▸ hi).first hc with he | ⟨e', he', ha⟩
  · exact .inl (EventDetails.announces_iff.1 he)
  · obtain ⟨name, l, rfl⟩ := EventDetails.announces_iff.1 ha
    exact .inr ⟨name, l, he'⟩

theorem channelCreated_first_handleCalls :
    ∃ ts s', fresh.run handleCalls = some (ts, s') ∧
      ∀ p e q, s'.introspectionEventQueue = p ++ e :: q → ∀ c, e.channelId = some c →
        (∃ name l, e = .channelCreated c name l) ∨ ∃ name l, .channelCreated c name l ∈ p :=
  ⟨_, _, rfl, channelCreated_first (rfl : fresh.run handleCalls = _)⟩

/-! ### The log lists the heap -/

/-- The log lists the heap: its `ChannelCreated` events, in order, record the heap's
    channels; the channel at position `i` has id `i` mod `2 ^ 64`, and the counter holds
    the next position. -/
structure Catalogued (s : Runtime) : Prop where
  log : s.introspectionEventQueue.filterMap EventDetails.createdChannel = s.channels.map Channel.header
  ids : ∀ i ch, s.channels[i]? = some ch → ch.id.toNat = i % 2 ^ 64
  counter : s.nextChannelId.toNat = s.channels.length % 2 ^ 64

theorem Catalogued.of_heralded (hc : s.Catalogued) (hw : Heralded s s') : s'.Catalogued := by
  obtain ⟨evs, hl, he⟩ := hw.log
  refine ⟨?_, fun i ch' hch' => ?_, by rw [hw.counter, hw.length, hc.counter]⟩
  · rw [hl, List.filterMap_append, List.filterMap_eq_nil_iff.2 fun e he' => (he e he').1, List.append_nil, hc.log,
      hw.headers]
  · have hi : (s.channels[i]?).map Channel.header = some ch'.header := by
      rw [← List.getElem?_map, ← hw.headers, List.getElem?_map, hch', Option.map_some']
    obtain ⟨ch, hch, hh⟩ := Option.map_eq_some'.1 hi
    rw [show ch'.id = ch.id from (congrArg Prod.fst hh).symm]
    exact hc.ids i ch hch

/-- `channel_create` lists its channel at the end of the heap with the counter's id. -/
theorem Catalogued.channelCreated (hc : s.Catalogued) (name : String) (label : Label) :
    (({ s with nextChannelId := s.nextChannelId + 1, channels := s.channels ++ [⟨s.nextChannelId, name, label, []⟩] } :
      Runtime).introspectionEvent (.channelCreated s.nextChannelId name label)).Catalogued := by
  refine ⟨?_, fun i ch hch => ?_, ?_⟩
  · show (s.introspectionEventQueue ++ [_]).filterMap _ = (s.channels ++ [_]).map _
    rw [List.filterMap_append, List.map_append, hc.log]
    rfl
  · change (s.channels ++ [_])[i]? = some ch at hch
    rcases lt_or_ge i s.channels.length with hi | hi
    · rw [List.getElem?_append_left hi] at hch
      exact hc.ids i ch hch
    · rw [List.getElem?_append_right hi] at hch
      obtain ⟨h1, rfl⟩ := List.getElem?_eq_some_iff.1 hch
      obtain rfl : i = s.channels.length := by simp only [List.length_singleton] at h1; omega
      simpa using hc.counter
  · simp only [introspectionEvent, List.length_append, List.length_singleton]
    rw [UInt64.toNat_add_one, hc.counter, Nat.mod_add_mod]

theorem catalogued_step (h : s.step call = some (o, s')) (hh : s.InHeap) (hc : s.Catalogued) : s'.Catalogued := by
  rcases heralded_step h hh with hw | ⟨name, label, hw⟩
  exacts [hc.of_heralded hw, (hc.channelCreated name label).of_heralded hw]

theorem catalogued_fresh : fresh.Catalogued :=
  ⟨rfl, (fun _ _ h => by cases h), rfl⟩

theorem catalogued_run {calls : List Call} {ts : List Transition} (h : fresh.run calls = some (ts, s')) :
    s'.InHeap ∧ s'.Catalogued :=
  (run_invariant h (P := fun s => s.InHeap ∧ s.Catalogued)
    (fun _ ht ⟨hh, hc⟩ => ⟨inHeap_step (step_of_mem_run h ht) hh, catalogued_step (step_of_mem_run h ht) hh hc⟩)
    ⟨journal_fresh.inHeap, catalogued_fresh⟩).2

/-- The log lists the channel heap. After every run from a fresh runtime, the
    `ChannelCreated` events of the log, in order, record the id, name and label of the
    heap's channels, in order. -/
theorem log_lists_channels {calls : List Call} {ts : List Transition} (h : fresh.run calls = some (ts, s')) :
    s'.introspectionEventQueue.filterMap EventDetails.createdChannel = s'.channels.map Channel.header :=
  (catalogued_run h).2.log

theorem log_lists_channels_handleCalls :
    ∃ ts s', fresh.run handleCalls = some (ts, s') ∧
      s'.introspectionEventQueue.filterMap EventDetails.createdChannel = s'.channels.map Channel.header :=
  ⟨_, _, rfl, log_lists_channels (rfl : fresh.run handleCalls = _)⟩

/-- Channel ids repeat only when the counter comes round. After every run from a fresh
    runtime, two channels of the heap share an id exactly when their positions differ by
    a multiple of `2 ^ 64`. -/
theorem channel_ids_collide_iff {calls : List Call} {ts : List Transition} (h : fresh.run calls = some (ts, s')) :
    ∀ i j ch ch', s'.channels[i]? = some ch → s'.channels[j]? = some ch' →
      (ch.id = ch'.id ↔ i % 2 ^ 64 = j % 2 ^ 64) := by
  intro i j ch ch' hi hj
  have hc := (catalogued_run h).2
  rw [← hc.ids i ch hi, ← hc.ids j ch' hj]
  exact ⟨congrArg _, UInt64.toNat.inj⟩

theorem channel_ids_collide_iff_handleCalls :
    ∃ ts s', fresh.run handleCalls = some (ts, s') ∧
      ∀ i j ch ch', s'.channels[i]? = some ch → s'.channels[j]? = some ch' →
        (ch.id = ch'.id ↔ i % 2 ^ 64 = j % 2 ^ 64) :=
  ⟨_, _, rfl, channel_ids_collide_iff (rfl : fresh.run handleCalls = _)⟩

theorem getChannelLabel_of_lookupHandle {n : NodeId} {k : Handle} {half : ChannelHalf}
    (hk : s.lookupHandle n k = some half) :
    s.getChannelLabel n k = (s.channels[half.channel]?).map fun ch => .ok ch.label := by
  rw [getChannelLabel, abiToHalf_eq_ok.2 hk]
  cases hd : half.direction <;>
    simp [getReaderChannelLabel, getWriterChannelLabel, withReaderChannel, withWriterChannel, hd, Option.map_map,
      Function.comp_def, Except.map]

/-- `get_channel_label` reports what the log recorded. After every run from a fresh
    runtime, on every handle a node holds, `get_channel_label` returns `Ok` with the label
    of the `ChannelCreated` event that announced the handle's channel: the event at the
    channel's position among the log's `ChannelCreated` events, which carries the
    channel's id. -/
theorem channel_label_as_logged {calls : List Call} {ts : List Transition} (h : fresh.run calls = some (ts, s'))
    {n : NodeId} {k : Handle} {x : ChannelHalf} (hk : s'.lookupHandle n k = some x) :
    ∃ name l, s'.getChannelLabel n k = some (.ok l) ∧
      (s'.introspectionEventQueue.filterMap EventDetails.createdChannel)[x.channel]? =
        some (s'.channelIdOf x, name, l) := by
  obtain ⟨hh, hc⟩ := catalogued_run h
  obtain ⟨ch, hch⟩ : ∃ ch, s'.channels[x.channel]? = some ch :=
    ⟨_, List.getElem?_eq_getElem (hh x (mem_halves_of_lookupHandle hk))⟩
  refine ⟨ch.name, ch.label, by rw [getChannelLabel_of_lookupHandle hk, hch]; rfl, ?_⟩
  rw [hc.log, List.getElem?_map, hch]
  simp only [channelIdOf, hch]
  rfl

theorem channel_label_as_logged_create :
    ∃ ts s', fresh.run [.channelCreate ⟨0⟩ "in" Label.publicUntrusted .no [5, 6]] = some (ts, s') ∧
      s'.lookupHandle ⟨0⟩ 5 = some ⟨0, .write⟩ ∧
      ∃ name l, s'.getChannelLabel ⟨0⟩ 5 = some (.ok l) ∧
        (s'.introspectionEventQueue.filterMap EventDetails.createdChannel)[0]? =
          some (s'.channelIdOf ⟨0, .write⟩, name, l) := by
  refine ⟨_, _, rfl, ?_, channel_label_as_logged (rfl : fresh.run [.channelCreate ⟨0⟩ "in" Label.publicUntrusted .no [5, 6]] = _)
    (x := ⟨0, .write⟩) ?_⟩ <;> rfl

end Runtime

end OakRuntime

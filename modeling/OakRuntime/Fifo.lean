import OakRuntime.Effects

/-!
# Channels Are FIFO Queues

A channel hands out the messages written to it in the order they were accepted, each
once, and nothing else: over any run, the messages read from a channel followed by
what is still queued are the messages written to it, after those it held at the start.

`Transition.enqueued` and `Transition.dequeued` read off one transition the message it
put on or took off a channel, the way the two sides of the node interface see it: the
writer's bytes with the halves its handles named, and the reader's bytes with the
halves its new handles name. `queue_step` is the conservation law for one call, and
`queue_run` chains it along a run.

One thing removes messages without delivering them: the drop cascade empties the queue
of a channel that no half refers to any more (in the source the channel is freed with
its queue). No node can read such a channel, and none can ever refer to it again, since
a call can only copy halves that exist or make the two halves of a new channel
(`halves_step`). So a dropped channel stays dropped (`dropped_run`), and the law holds
exactly for every channel that is still alive at the end of the run.

## Main definitions

* `Transition.enqueued`: The message a transition wrote to a channel.
* `Transition.dequeued`: The message a transition read from a channel.
* `Runtime.Dropped`: A channel whose last half is gone.

## Theorems

* `Runtime.halves_step`: No call forges a half.
* `Runtime.queue_step`: One call conserves every queue.
* `Runtime.dropped_run`: A dropped channel stays dropped, with nothing moving on it.
* `Runtime.queue_run`: Conservation along a run.
* `Runtime.channel_fifo`: Channels are lossless, duplicate-free FIFO queues.
-/

namespace OakRuntime

theorem filterMap_cons_toList {α β : Type} (f : α → Option β) (a : α) (l : List α) :
    (a :: l).filterMap f = (f a).toList ++ l.filterMap f := by
  cases h : f a <;> simp [List.filterMap_cons, h]

namespace Transition

/-- What a successful `channel_write` submitted: the writer, its write handle and the
    node message. -/
def submitted (t : Transition) : Option (NodeId × Handle × NodeMessage) :=
  match t.call, t.outcome with
  | .channelWrite n h nm _, .written (.ok ()) => some (n, h, nm)
  | _, _ => none

/-- What a successful read delivered: the reader, its read handle and the node message
    returned by `channel_read`, or in the `Success` of `channel_try_read_message`. -/
def delivered (t : Transition) : Option (NodeId × Handle × NodeMessage) :=
  match t.call, t.outcome with
  | .channelRead n h _ _, .read (.ok (some nm)) => some (n, h, nm)
  | .channelTryReadMessage n h _ _ _ _, .tryRead (.ok (some (.success nm))) => some (n, h, nm)
  | _, _ => none

/-- The message a transition put on channel `c`: the one `message_from` built for a
    successful `channel_write` through a write half of `c`. -/
def enqueued (t : Transition) (c : Nat) : Option Message :=
  t.submitted.bind fun (n, h, nm) =>
    match t.pre.abiToWriteHalf n h, t.pre.messageFrom nm n with
    | some (.ok half), some (.ok m) => if half.channel = c then some m else none
    | _, _ => none

/-- A message node `n` received through its handle `h` on channel `c`, as the reader
    holds it: the bytes, and the halves the received handles map to after the read. -/
def received (t : Transition) (n : NodeId) (h : Handle) (nm : NodeMessage) (c : Nat) : Option Message :=
  match t.pre.abiToReadHalf n h, t.post.abiToHalves n nm.handles with
  | some (.ok half), some (.ok halves) => if half.channel = c then some ⟨nm.bytes, halves⟩ else none
  | _, _ => none

/-- The message a transition took off channel `c`, as the reader received it. -/
def dequeued (t : Transition) (c : Nat) : Option Message :=
  t.delivered.bind fun (n, h, nm) => t.received n h nm c

theorem enqueued_eq_none {t : Transition} (h : t.outcome ≠ .written (.ok ())) (c : Nat) :
    t.enqueued c = none := by
  unfold enqueued submitted
  split
  · exact absurd ‹_› h
  · rfl

theorem dequeued_eq_none {t : Transition} (h₁ : ∀ nm, t.outcome ≠ .read (.ok (some nm)))
    (h₂ : ∀ nm, t.outcome ≠ .tryRead (.ok (some (.success nm)))) (c : Nat) : t.dequeued c = none := by
  unfold dequeued delivered
  split
  · exact absurd ‹_› (h₁ _)
  · exact absurd ‹_› (h₂ _)
  · rfl

/-- Only a successful `channel_write` submits, its own node message. -/
theorem submitted_eq_some {t : Transition} {n : NodeId} {k : Handle} {nm : NodeMessage}
    (h : t.submitted = some (n, k, nm)) : ∃ d, t.call = .channelWrite n k nm d ∧ t.outcome = .written (.ok ()) := by
  unfold submitted at h
  split at h
  · cases h
    exact ⟨_, ‹_›, ‹_›⟩
  · cases h

/-- Only a read that returned a message delivers, that message. -/
theorem delivered_eq_some {t : Transition} {n : NodeId} {k : Handle} {nm : NodeMessage}
    (h : t.delivered = some (n, k, nm)) :
    (∃ d rng, t.call = .channelRead n k d rng ∧ t.outcome = .read (.ok (some nm))) ∨
      ∃ b c d rng, t.call = .channelTryReadMessage n k b c d rng ∧ t.outcome = .tryRead (.ok (some (.success nm))) := by
  unfold delivered at h
  split at h
  · cases h
    exact .inl ⟨_, _, ‹_›, ‹_›⟩
  · cases h
    exact .inr ⟨_, _, _, _, ‹_›, ‹_›⟩
  · cases h

/-- A failed call moves no message. -/
theorem enqueued_dequeued_of_failed {t : Transition} (hf : t.outcome.Failed) (c : Nat) :
    t.enqueued c = none ∧ t.dequeued c = none :=
  ⟨enqueued_eq_none (by rintro h; simp [h, Outcome.Failed] at hf) c,
    dequeued_eq_none (fun _ h => by simp [h, Outcome.Failed] at hf)
      (fun _ h => by simp [h, Outcome.Failed] at hf) c⟩

end Transition

namespace Runtime

variable {s s' : Runtime}

/-! ### Queues and queued halves -/

theorem queueOf_setQueue_self {c : Nat} {ch : Channel} (hc : s.channels[c]? = some ch) (q : List Message) :
    (s.setQueue c q).queueOf c = q := by
  simp [queueOf, getElem?_setQueue, hc]

theorem queueOf_setQueue_ne {c c' : Nat} (h : c ≠ c') (q : List Message) :
    (s.setQueue c q).queueOf c' = s.queueOf c' := by
  simp [queueOf, getElem?_setQueue, h]

theorem queueOf_of_channels_eq (h : s'.channels = s.channels) (c : Nat) : s'.queueOf c = s.queueOf c := by
  simp only [queueOf, h]

/-- A new channel with an empty queue changes no channel's queue. -/
theorem queueOf_append_empty (ch : Channel) (hch : ch.messages = []) (c : Nat) :
    ({ s with channels := s.channels ++ [ch] } : Runtime).queueOf c = s.queueOf c := by
  simp only [queueOf]
  rcases Nat.lt_or_ge c s.channels.length with hc | hc
  · rw [List.getElem?_append_left hc]
  · rw [List.getElem?_append_right hc, List.getElem?_eq_none hc]
    rcases Nat.eq_or_lt_of_le hc with rfl | hc
    · simp [hch]
    · simp [List.getElem?_eq_none (show [ch].length ≤ c - s.channels.length by simp; omega)]

theorem mem_queuedHalves {x : ChannelHalf} :
    x ∈ s.queuedHalves ↔
      ∃ (c : Nat) (ch : Channel), s.channels[c]? = some ch ∧ ∃ m ∈ ch.messages, x ∈ m.channels := by
  simp only [queuedHalves, List.mem_flatMap]
  constructor
  · rintro ⟨ch, hch, m, hm, hx⟩
    obtain ⟨c, hc⟩ := List.mem_iff_getElem?.1 hch
    exact ⟨c, ch, hc, m, hm, hx⟩
  · rintro ⟨c, ch, hc, m, hm, hx⟩
    exact ⟨ch, List.mem_iff_getElem?.2 ⟨c, hc⟩, m, hm, hx⟩

theorem mem_queuedHalves_setQueue {c : Nat} {q : List Message} {x : ChannelHalf}
    (hx : x ∈ (s.setQueue c q).queuedHalves) : x ∈ s.queuedHalves ∨ ∃ m ∈ q, x ∈ m.channels := by
  obtain ⟨c', ch', hc', m, hm, hx⟩ := mem_queuedHalves.1 hx
  rw [getElem?_setQueue] at hc'
  split at hc'
  · obtain ⟨ch, -, rfl⟩ := Option.map_eq_some'.1 hc'
    exact .inr ⟨m, hm, hx⟩
  · exact .inl (mem_queuedHalves.2 ⟨c', ch', hc', m, hm, hx⟩)

/-! ### What the message paths move -/

/-- The halves of the message a write builds are halves the writer holds. -/
theorem mem_tableHalves_of_messageFrom {nm : NodeMessage} {n : NodeId} {m : Message}
    (hm : s.messageFrom nm n = some (.ok m)) {x : ChannelHalf} (hx : x ∈ m.channels) : x ∈ s.tableHalves := by
  have hmap := (messageFrom_spec.1 hm).2
  have : some x ∈ nm.handles.map (s.lookupHandle n) := hmap ▸ List.mem_map_of_mem _ hx
  obtain ⟨h, -, hh⟩ := List.mem_map.1 this
  exact mem_tableHalves.2 ⟨n, h, hh⟩

namespace WriteStep

variable {n : NodeId} {handle : Handle} {d : Downgrading} {nm : NodeMessage} {ni : NodeInfo}
  {half : ChannelHalf} {ch : Channel} {m : Message}

theorem enqueued (hw : s.WriteStep s' n handle d nm ni half ch m) (c : Nat) :
    Transition.enqueued ⟨s, .channelWrite n handle nm d, .written (.ok ()), s'⟩ c =
      if half.channel = c then some m else none := by
  have hh : s.abiToWriteHalf n handle = some (.ok half) :=
    abiToWriteHalf_eq_ok.2 ⟨lookupHandle_eq_some.2 ⟨ni, hw.lookup_node, hw.lookup_handle⟩, hw.direction⟩
  simp only [Transition.enqueued, Transition.submitted, Option.some_bind, hh, hw.message]

theorem queueOf (hw : s.WriteStep s' n handle d nm ni half ch m) (c : Nat) :
    s'.queueOf c = if half.channel = c then s.queueOf c ++ [m] else s.queueOf c := by
  rw [hw.post]
  change (s.setQueue half.channel (ch.messages ++ [m])).queueOf c = _
  split
  · subst c
    rw [queueOf_setQueue_self hw.channel]
    simp [Runtime.queueOf, hw.channel]
  · exact queueOf_setQueue_ne ‹_› _

theorem halves_subset (hw : s.WriteStep s' n handle d nm ni half ch m) : s'.halves ⊆ s.halves := by
  rw [hw.post]
  intro x hx
  rcases mem_halves.1 hx with ⟨m', k, hmk⟩ | hq
  · exact mem_halves.2 (.inl ⟨m', k, hmk⟩)
  rcases mem_queuedHalves_setQueue hq with hq | ⟨m', hm', hx⟩
  · exact mem_halves.2 (.inr hq)
  rcases List.mem_append.1 hm' with hm' | hm'
  · exact mem_halves.2 (.inr (mem_queuedHalves.2 ⟨half.channel, ch, hw.channel, m', hm', hx⟩))
  · rw [List.mem_singleton.1 hm'] at hx
    exact List.mem_append_left _ (mem_tableHalves_of_messageFrom hw.message hx)

end WriteStep

namespace ReadStep

variable {n : NodeId} {handle : Handle} {d : Downgrading} {nm : NodeMessage} {ni : NodeInfo}
  {half : ChannelHalf} {ch : Channel} {m : Message} {rest : List Message}

/-- The reader receives exactly the message it popped. -/
theorem received (hr : s.ReadStep s' n handle d nm ni half ch m rest) (call : Call) (o : Outcome) (c : Nat) :
    Transition.received ⟨s, call, o, s'⟩ n handle nm c = if half.channel = c then some m else none := by
  obtain ⟨s₁, hi, rfl⟩ := hr.post
  have hh : s.abiToReadHalf n handle = some (.ok half) :=
    abiToReadHalf_eq_ok.2 ⟨lookupHandle_eq_some.2 ⟨ni, hr.lookup_node, hr.lookup_handle⟩, hr.direction⟩
  have hs : (s₁.introspectionEvent (.messageDequeued n.val (s.channelIdOf half) nm.handles)).abiToHalves n
      nm.handles = some (.ok m.channels) := abiToHalves_eq_ok.2 hi.map_lookupHandle
  simp only [Transition.received, hh, hs, hr.bytes]

theorem queueOf_self (hr : s.ReadStep s' n handle d nm ni half ch m rest) :
    s.queueOf half.channel = m :: s'.queueOf half.channel := by
  obtain ⟨s₁, hi, rfl⟩ := hr.post
  change _ = m :: s₁.queueOf half.channel
  rw [queueOf_of_channels_eq hi.channels_eq, queueOf_setQueue_self hr.channel]
  simp [Runtime.queueOf, hr.channel, hr.front]

theorem queueOf_ne (hr : s.ReadStep s' n handle d nm ni half ch m rest) {c : Nat} (hc : half.channel ≠ c) :
    s'.queueOf c = s.queueOf c := by
  obtain ⟨s₁, hi, rfl⟩ := hr.post
  change s₁.queueOf c = _
  rw [queueOf_of_channels_eq hi.channels_eq, queueOf_setQueue_ne hc]

theorem halves_subset (hr : s.ReadStep s' n handle d nm ni half ch m rest) : s'.halves ⊆ s.halves := by
  obtain ⟨s₁, hi, rfl⟩ := hr.post
  have hmem : ∀ m' ∈ ch.messages, ∀ y ∈ m'.channels, y ∈ s.halves := fun m' hm' y hy =>
    mem_halves.2 (.inr (mem_queuedHalves.2 ⟨half.channel, ch, hr.channel, m', hm', hy⟩))
  have hfront : m ∈ ch.messages := by rw [hr.front]; exact List.mem_cons_self _ _
  intro x hx
  change x ∈ s₁.halves at hx
  rcases mem_halves.1 hx with ⟨m', k, hmk⟩ | hq
  · rcases hi.lookupHandle_cases hmk with hmk | ⟨-, -, hx⟩
    · exact mem_halves.2 (.inl ⟨m', k, hmk⟩)
    · exact hmem m hfront x hx
  · rw [hi.queuedHalves_eq] at hq
    rcases mem_queuedHalves_setQueue hq with hq | ⟨m', hm', hx⟩
    · exact mem_halves.2 (.inr hq)
    · exact hmem m' (by rw [hr.front]; exact List.mem_cons_of_mem _ hm') x hx

end ReadStep

/-! ### The heap of channels -/

theorem label_setQueue (c c' : Nat) (q : List Message) :
    ((s.setQueue c q).channels[c']?).map Channel.label = (s.channels[c']?).map Channel.label := by
  rw [getElem?_setQueue]
  split <;> simp [Option.map_map, Function.comp_def]

/-- A call only adds channels, and keeps the label of every channel there was. -/
theorem heap_step {call : Call} {o : Outcome} (h : s.step call = some (o, s')) :
    s.channels.length ≤ s'.channels.length ∧
      ∀ c, c < s.channels.length → (s'.channels[c]?).map Channel.label = (s.channels[c]?).map Channel.label := by
  cases step_effect h with
  | failed _ hl => obtain ⟨_, rfl⟩ := hl; exact ⟨le_rfl, fun _ _ => rfl⟩
  | empty _ | waited => exact ⟨le_rfl, fun _ _ => rfl⟩
  | created _ _ hi =>
    rw [hi.channels_eq]
    exact ⟨by simp [introspectionEvent], fun c hc => by simp [introspectionEvent, List.getElem?_append_left hc]⟩
  | cloned _ _ hi => rw [hi.channels_eq]; exact ⟨le_rfl, fun _ _ => rfl⟩
  | written hw =>
    rw [hw.post]
    exact ⟨by simp [introspectionEvent], fun c _ => label_setQueue _ c _⟩
  | read hr | tryRead hr =>
    obtain ⟨s₁, hi, rfl⟩ := hr.post
    change s.channels.length ≤ s₁.channels.length ∧ ∀ c, c < _ → (s₁.channels[c]?).map _ = _
    rw [hi.channels_eq]
    exact ⟨by simp, fun c _ => label_setQueue _ c _⟩
  | closed hd => exact ⟨hd.reclaimed.length_eq.ge, fun c _ => hd.reclaimed.label c⟩
  | registered _ hreg => exact ⟨hreg.reclaimed.length_eq.ge, fun c _ => hreg.reclaimed.label c⟩
  | removed hrm => exact ⟨hrm.reclaimed.length_eq.ge, fun c _ => hrm.reclaimed.label c⟩
  | stopped => exact ⟨le_rfl, fun _ _ => rfl⟩

/-! ### No forged halves -/

/-- No call forges a half: every half after a call was there before, or belongs to the
    channel the call created. -/
theorem halves_step {call : Call} {o : Outcome} (h : s.step call = some (o, s')) {x : ChannelHalf}
    (hx : x ∈ s'.halves) : x ∈ s.halves ∨ x.channel = s.channels.length := by
  cases step_effect h with
  | failed _ hl => obtain ⟨_, rfl⟩ := hl; exact .inl hx
  | empty _ | waited => exact .inl hx
  | created _ _ hi =>
    rcases mem_halves.1 hx with ⟨m, k, hmk⟩ | hq
    · rcases hi.lookupHandle_cases hmk with hmk | ⟨-, -, hmem⟩
      · exact .inl (mem_halves.2 (.inl ⟨m, k, hmk⟩))
      · simp only [List.mem_cons, List.mem_singleton, List.not_mem_nil, or_false] at hmem
        rcases hmem with rfl | rfl <;> exact .inr rfl
    · rw [hi.queuedHalves_eq] at hq
      refine .inl (mem_halves.2 (.inr ?_))
      simpa [queuedHalves, introspectionEvent] using hq
  | cloned _ hl hi =>
    rcases mem_halves.1 hx with ⟨m, k, hmk⟩ | hq
    · rcases hi.lookupHandle_cases hmk with hmk | ⟨-, -, hmem⟩
      · exact .inl (mem_halves.2 (.inl ⟨m, k, hmk⟩))
      · rw [List.mem_singleton.1 hmem]
        exact .inl (mem_halves.2 (.inl ⟨_, _, hl⟩))
    · rw [hi.queuedHalves_eq] at hq
      exact .inl (mem_halves.2 (.inr hq))
  | written hw => exact .inl (hw.halves_subset hx)
  | read hr | tryRead hr => exact .inl (hr.halves_subset hx)
  | closed hd => exact .inl (hd.halves_subset hx)
  | registered _ hreg => exact .inl (hreg.halves_subset hx)
  | removed hrm => exact .inl (hrm.halves_subset hx)
  | stopped =>
    rcases mem_halves.1 hx with ⟨m, k, hmk⟩ | hq
    · exact .inl (mem_halves.2 (.inl ⟨m, k, by simpa using hmk⟩))
    · exact .inl (mem_halves.2 (.inr hq))

/-- A channel that nothing refers to stays so: its halves can no longer be copied. -/
theorem not_referenced_step {call : Call} {o : Outcome} (h : s.step call = some (o, s')) {c : Nat}
    (hc : c < s.channels.length) (hn : ¬ s.Referenced c) : ¬ s'.Referenced c := by
  rintro ⟨x, hx, rfl⟩
  rcases halves_step h hx with hx | hx
  · exact hn ⟨x, hx, rfl⟩
  · omega

/-- Channel `c` exists, nothing refers to it, and its queue is empty: a channel whose
    last half was dropped. -/
def Dropped (s : Runtime) (c : Nat) : Prop :=
  s.queueOf c = [] ∧ ¬ s.Referenced c ∧ c < s.channels.length

end Runtime

namespace Transition

/-- One transition conserves the messages of channel `c`: the queue before, followed
    by what it enqueued, is what it dequeued followed by the queue after; or the drop
    cascade emptied the queue of a channel nothing refers to any more. -/
def Conserves (t : Transition) (c : Nat) : Prop :=
  t.pre.queueOf c ++ (t.enqueued c).toList = (t.dequeued c).toList ++ t.post.queueOf c ∨
    (t.enqueued c = none ∧ t.dequeued c = none ∧ t.post.Dropped c)

theorem Conserves.of_quiet {t : Transition} {c : Nat} (he : t.enqueued c = none) (hd : t.dequeued c = none)
    (hq : t.post.queueOf c = t.pre.queueOf c) : t.Conserves c :=
  .inl (by rw [he, hd, hq]; simp)

theorem Conserves.of_reclaimed {t : Transition} {c : Nat} (he : t.enqueued c = none)
    (hd : t.dequeued c = none) (hr : Reclaimed t.pre t.post) : t.Conserves c := by
  rcases hr.queueOf c with hq | hq
  · exact .of_quiet he hd hq
  · exact .inr ⟨he, hd, hq⟩

/-- A channel a transition writes to or reads from was referenced before it. -/
theorem referenced_of_enqueued {t : Transition} {c : Nat} {m : Message} (h : t.enqueued c = some m) :
    t.pre.Referenced c := by
  obtain ⟨⟨n, k, nm⟩, -, h⟩ := Option.bind_eq_some.1 h
  dsimp only at h
  split at h
  · rename_i half _ hh _
    split at h
    · obtain ⟨hl, -⟩ := Runtime.abiToWriteHalf_eq_ok.1 hh
      exact ⟨half, Runtime.mem_halves.2 (.inl ⟨_, _, hl⟩), ‹_›⟩
    · cases h
  · cases h

theorem referenced_of_received {t : Transition} {n : NodeId} {h : Handle} {nm : NodeMessage} {c : Nat}
    {m : Message} (hr : t.received n h nm c = some m) : t.pre.Referenced c := by
  unfold received at hr
  split at hr
  · rename_i half _ hh _
    split at hr
    · obtain ⟨hl, -⟩ := Runtime.abiToReadHalf_eq_ok.1 hh
      exact ⟨half, Runtime.mem_halves.2 (.inl ⟨_, _, hl⟩), ‹_›⟩
    · cases hr
  · cases hr

theorem referenced_of_dequeued {t : Transition} {c : Nat} {m : Message} (h : t.dequeued c = some m) :
    t.pre.Referenced c := by
  obtain ⟨⟨n, k, nm⟩, -, h⟩ := Option.bind_eq_some.1 h
  exact referenced_of_received h

/-- The message a write put on a channel is what `message_from` built from the node
    message it submitted. -/
theorem enqueued_spec {t : Transition} {c : Nat} {m : Message} {n : NodeId} {h : Handle}
    {nm : NodeMessage} (he : t.enqueued c = some m) (hs : t.submitted = some (n, h, nm)) :
    m.data = nm.bytes ∧ nm.handles.map (t.pre.lookupHandle n) = m.channels.map some := by
  unfold enqueued at he
  rw [hs, Option.some_bind] at he
  dsimp only at he
  split at he
  · rename_i hm
    split at he
    · cases he; exact Runtime.messageFrom_spec.1 hm
    · cases he
  · cases he

/-- The message a read took off a channel is what the reader holds afterwards. -/
theorem dequeued_spec {t : Transition} {c : Nat} {m : Message} {n : NodeId} {h : Handle}
    {nm : NodeMessage} (hd : t.dequeued c = some m) (hdel : t.delivered = some (n, h, nm)) :
    m.data = nm.bytes ∧ nm.handles.map (t.post.lookupHandle n) = m.channels.map some := by
  unfold dequeued at hd
  rw [hdel, Option.some_bind] at hd
  dsimp only [received] at hd
  split at hd
  · rename_i hh
    split at hd
    · cases hd; exact ⟨rfl, Runtime.abiToHalves_eq_ok.1 hh⟩
    · cases hd
  · cases hd

end Transition

namespace Runtime

variable {s s' : Runtime}

/-- One call conserves every queue. -/
theorem queue_step {call : Call} {o : Outcome} (h : s.step call = some (o, s')) (c : Nat) :
    Transition.Conserves ⟨s, call, o, s'⟩ c := by
  cases step_effect h with
  | failed hf hl =>
    obtain ⟨he, hd⟩ := Transition.enqueued_dequeued_of_failed (t := ⟨s, call, o, s'⟩) hf c
    obtain ⟨_, rfl⟩ := hl
    exact .of_quiet he hd rfl
  | empty ho =>
    rcases ho with rfl | rfl <;>
      exact .of_quiet (Transition.enqueued_eq_none (by simp) c)
        (Transition.dequeued_eq_none (by simp) (by simp) c) rfl
  | waited => exact .of_quiet rfl rfl rfl
  | created _ _ hi =>
    exact .of_quiet rfl rfl ((queueOf_of_channels_eq hi.channels_eq c).trans (queueOf_append_empty _ rfl c))
  | cloned _ _ hi => exact .of_quiet rfl rfl (queueOf_of_channels_eq hi.channels_eq c)
  | written hw =>
    refine .inl ?_
    rw [hw.enqueued, hw.queueOf]
    split <;> simp [Transition.dequeued, Transition.delivered]
  | read hr | tryRead hr =>
    refine .inl ?_
    simp only [Transition.dequeued, Transition.delivered, Option.some_bind, hr.received, Transition.enqueued,
      Transition.submitted, Option.none_bind]
    split
    · subst c; rw [hr.queueOf_self]; simp
    · rw [hr.queueOf_ne ‹_›]; simp
  | closed hd => exact .of_reclaimed rfl rfl hd.reclaimed
  | registered hc hreg =>
    exact .of_reclaimed (Transition.enqueued_eq_none (by simp) c)
      (Transition.dequeued_eq_none (by simp) (by simp) c) hreg.reclaimed
  | removed hrm => exact .of_reclaimed rfl rfl hrm.reclaimed
  | stopped => exact .of_quiet rfl rfl rfl

/-- A dropped channel stays dropped, and no call moves a message on it. -/
theorem dropped_step {call : Call} {o : Outcome} (h : s.step call = some (o, s')) {c : Nat}
    (hd : s.Dropped c) :
    s'.Dropped c ∧ Transition.enqueued ⟨s, call, o, s'⟩ c = none ∧ Transition.dequeued ⟨s, call, o, s'⟩ c = none := by
  obtain ⟨hq, hn, hc⟩ := hd
  have he : Transition.enqueued ⟨s, call, o, s'⟩ c = none :=
    Option.eq_none_iff_forall_not_mem.2 fun m hm => hn (Transition.referenced_of_enqueued hm)
  have hde : Transition.dequeued ⟨s, call, o, s'⟩ c = none :=
    Option.eq_none_iff_forall_not_mem.2 fun m hm => hn (Transition.referenced_of_dequeued hm)
  refine ⟨⟨?_, not_referenced_step h hc hn, lt_of_lt_of_le hc (heap_step h).1⟩, he, hde⟩
  rcases queue_step h c with hcons | ⟨-, -, hq', -⟩
  · simpa [he, hde, hq] using hcons.symm
  · exact hq'

theorem dropped_run {calls : List Call} {ts : List Transition} (h : s.run calls = some (ts, s')) {c : Nat}
    (hd : s.Dropped c) :
    s'.Dropped c ∧ ts.filterMap (·.enqueued c) = [] ∧ ts.filterMap (·.dequeued c) = [] := by
  induction calls generalizing s ts with
  | nil => cases h; exact ⟨hd, rfl, rfl⟩
  | cons call calls ih =>
    obtain ⟨o, s₁, ts', hs, hr, rfl⟩ := run_cons.1 h
    obtain ⟨hd₁, he, hde⟩ := dropped_step hs hd
    obtain ⟨hd', he', hde'⟩ := ih hr hd₁
    exact ⟨hd', by rw [filterMap_cons_toList, he, he']; rfl, by rw [filterMap_cons_toList, hde, hde']; rfl⟩

/-- Conservation along a run: the queue at the start followed by everything written is
    everything read followed by the queue at the end; or the channel was dropped, and
    what was read is a prefix of what was there to read. -/
theorem queue_run {calls : List Call} {ts : List Transition} (h : s.run calls = some (ts, s')) (c : Nat) :
    s.queueOf c ++ ts.filterMap (·.enqueued c) = ts.filterMap (·.dequeued c) ++ s'.queueOf c ∨
      (ts.filterMap (·.dequeued c) <+: s.queueOf c ++ ts.filterMap (·.enqueued c) ∧ s'.Dropped c) := by
  induction calls generalizing s ts with
  | nil => cases h; exact .inl (by simp)
  | cons call calls ih =>
    obtain ⟨o, s₁, ts', hs, hr, rfl⟩ := run_cons.1 h
    simp only [filterMap_cons_toList]
    rcases queue_step hs c with hstep | ⟨he, hde, hd₁⟩
    · rcases ih hr with hrest | ⟨hpre, hd'⟩
      · refine .inl ?_
        rw [← List.append_assoc, hstep, List.append_assoc, hrest, List.append_assoc]
      · refine .inr ⟨?_, hd'⟩
        rw [← List.append_assoc, hstep, List.append_assoc]
        exact (List.prefix_append_right_inj _).2 hpre
    · obtain ⟨hd', he', hde'⟩ := dropped_run hr hd₁
      exact .inr ⟨by simp [he, hde, he', hde'], hd'⟩

/-- What a run read from a channel is a prefix of what there was to read. -/
theorem dequeued_isPrefix_written {calls : List Call} {ts : List Transition} (h : s.run calls = some (ts, s')) (c : Nat) :
    ts.filterMap (·.dequeued c) <+: s.queueOf c ++ ts.filterMap (·.enqueued c) := by
  rcases queue_run h c with heq | ⟨hpre, -⟩
  · exact ⟨s'.queueOf c, heq.symm⟩
  · exact hpre

/-- Channels are lossless, duplicate-free FIFO queues. Over any run, the messages read
    from channel `c` (by `channel_read`, or by a `channel_try_read_message` that
    returned `Success`), compared by their bytes and the halves they carry, are a
    prefix of the messages the channel held at the start followed by those written to
    it, in the order accepted. While the channel is alive, what was read followed by
    its current queue is exactly that sequence. And a call that failed, or that read no
    message, changed no channel at all. -/
theorem channel_fifo (s : Runtime) (calls : List Call) (ts : List Transition) (s' : Runtime)
    (h : s.run calls = some (ts, s')) (c : Nat) :
    ts.filterMap (·.dequeued c) <+: s.queueOf c ++ ts.filterMap (·.enqueued c) ∧
      (s'.Referenced c →
        ts.filterMap (·.dequeued c) ++ s'.queueOf c = s.queueOf c ++ ts.filterMap (·.enqueued c)) ∧
      ∀ t ∈ ts, (t.outcome.Failed ∨ t.outcome = .read (.ok none) ∨ t.outcome = .tryRead (.ok none)) →
        t.post.channels = t.pre.channels := by
  refine ⟨dequeued_isPrefix_written h c, fun href => ?_, fun t ht ho => ?_⟩
  · rcases queue_run h c with heq | ⟨-, hd⟩
    · exact heq.symm
    · exact absurd href hd.2.1
  · obtain ⟨pre, call, o, post⟩ := t
    have hs : pre.step call = some (o, post) := step_of_mem_run h ht
    cases step_effect hs
    case failed hl => obtain ⟨_, e⟩ := hl; rw [e]
    case empty => rfl
    all_goals simp [Outcome.Failed] at ho

/-- One message written and read back on a new channel. -/
theorem channel_fifo_echo :
    ∃ ts s', fresh.run [.channelCreate ⟨0⟩ "echo" Label.publicUntrusted .no [5, 6],
        .channelWrite ⟨0⟩ 5 ⟨[1, 2], []⟩ .no, .channelRead ⟨0⟩ 6 .no []] = some (ts, s') ∧
      (ts.filterMap (·.dequeued 0) <+: fresh.queueOf 0 ++ ts.filterMap (·.enqueued 0) ∧
        (s'.Referenced 0 →
          ts.filterMap (·.dequeued 0) ++ s'.queueOf 0 = fresh.queueOf 0 ++ ts.filterMap (·.enqueued 0)) ∧
        ∀ t ∈ ts, (t.outcome.Failed ∨ t.outcome = .read (.ok none) ∨ t.outcome = .tryRead (.ok none)) →
          t.post.channels = t.pre.channels) := by
  obtain ⟨ts, s', h⟩ : ∃ ts s', fresh.run [.channelCreate ⟨0⟩ "echo" Label.publicUntrusted .no [5, 6],
      .channelWrite ⟨0⟩ 5 ⟨[1, 2], []⟩ .no, .channelRead ⟨0⟩ 6 .no []] = some (ts, s') := ⟨_, _, rfl⟩
  exact ⟨ts, s', h, channel_fifo fresh _ ts s' h 0⟩

/-! ### Handles carried by messages -/

theorem getElem?_filterMap_take {α β : Type} {f : α → Option β} {l : List α} {i : Nat} (hi : i < l.length)
    {b : β} (hb : f l[i] = some b) : (l.filterMap f)[((l.take i).filterMap f).length]? = some b := by
  have hsplit : l.filterMap f = (l.take i).filterMap f ++ b :: (l.drop (i + 1)).filterMap f := by
    conv_lhs => rw [← List.take_append_drop i l, List.drop_eq_getElem_cons hi]
    rw [List.filterMap_append, List.filterMap_cons_some hb]
  rw [hsplit, List.getElem?_append_right (le_refl _), Nat.sub_self, List.getElem?_cons_zero]

/-- A read installs the halves it received under fresh, distinct handles of the
    reader's table, and keeps every handle the reader held. -/
theorem ReadStep.installs {n : NodeId} {handle : Handle} {d : Downgrading} {nm : NodeMessage} {ni : NodeInfo}
    {half : ChannelHalf} {ch : Channel} {m : Message} {rest : List Message}
    (hr : s.ReadStep s' n handle d nm ni half ch m rest) :
    nm.handles.Nodup ∧ (∀ k ∈ nm.handles, s.lookupHandle n k = none) ∧
      ∀ k x, s.lookupHandle n k = some x → s'.lookupHandle n k = some x := by
  obtain ⟨s₁, hi, rfl⟩ := hr.post
  refine ⟨hi.nodup, fun k hk => ?_, fun k x hx => hi.lookupHandle_of hx⟩
  obtain ⟨ni', hni', hnone⟩ := hi.fresh k hk
  change (s.nodeInfos.lookup n).bind _ = none
  rw [show s.nodeInfos = (s.setQueue half.channel rest).nodeInfos from rfl, hni']
  exact hnone

/-- A transition that submitted a message is a successful `channel_write`. -/
theorem submitted_step {call : Call} {o : Outcome} (h : s.step call = some (o, s')) {n : NodeId}
    {k : Handle} {nm : NodeMessage} (hsub : Transition.submitted ⟨s, call, o, s'⟩ = some (n, k, nm)) :
    ∃ d ni half ch m, call = .channelWrite n k nm d ∧ o = .written (.ok ()) ∧
      s.WriteStep s' n k d nm ni half ch m := by
  obtain ⟨d, rfl, rfl⟩ := Transition.submitted_eq_some hsub
  cases step_effect h with
  | failed hf _ => cases hf
  | empty ho => rcases ho with ho | ho <;> cases ho
  | written hw => exact ⟨_, _, _, _, _, rfl, rfl, hw⟩

/-- A transition that delivered a message is a successful read. -/
theorem delivered_step {call : Call} {o : Outcome} (h : s.step call = some (o, s')) {n : NodeId}
    {k : Handle} {nm : NodeMessage} (hdel : Transition.delivered ⟨s, call, o, s'⟩ = some (n, k, nm)) :
    ∃ d ni half ch m rest, call.nodeId = some n ∧ call.downgrading = some d ∧
      s.ReadStep s' n k d nm ni half ch m rest := by
  rcases Transition.delivered_eq_some hdel with ⟨d, rng, rfl, rfl⟩ | ⟨b, c, d, rng, rfl, rfl⟩
  · cases step_effect h with
    | failed hf _ => cases hf
    | empty ho => rcases ho with ho | ho <;> cases ho
    | read hr => exact ⟨_, _, _, _, _, _, rfl, rfl, hr⟩
  · cases step_effect h with
    | failed hf _ => cases hf
    | empty ho => rcases ho with ho | ho <;> cases ho
    | tryRead hr => exact ⟨_, _, _, _, _, _, rfl, rfl, hr⟩

theorem delivered_spec {call : Call} {o : Outcome} (h : s.step call = some (o, s')) {r : NodeId}
    {handle : Handle} {nm : NodeMessage} (hdel : Transition.delivered ⟨s, call, o, s'⟩ = some (r, handle, nm)) :
    nm.handles.Nodup ∧ (∀ k ∈ nm.handles, s.lookupHandle r k = none) ∧
      ∀ k x, s.lookupHandle r k = some x → s'.lookupHandle r k = some x :=
  let ⟨_, _, _, _, _, _, _, _, hr⟩ := delivered_step h hdel
  hr.installs

/-- Handles survive transfer. Take a successful write by node `w` of the node message
    `nm` to channel `c`, and a successful read by node `r` that returned `nm'` from `c`,
    where the read takes the message the write enqueued: by `channel_fifo`, the `k`-th
    message read from `c` is the `k`-th of what `c` held at the start followed by what
    was written to it, so the read returns that write's message when the messages
    before it on each side are equally many (`hmatch`). Then `nm'` has the bytes of
    `nm`, as many handles, pairwise distinct and new to `r`'s table; `r` keeps every
    handle it held; and each new handle maps to the half, of the same channel and
    direction, that the writer's corresponding handle mapped to when the write was
    accepted. -/
theorem handles_survive_transfer (s : Runtime) (calls : List Call) (ts : List Transition) (s' : Runtime)
    (h : s.run calls = some (ts, s')) (c i j : Nat) (hi : i < ts.length) (hj : j < ts.length)
    (w r : NodeId) (hw hr : Handle) (nm nm' : NodeMessage)
    (hsub : ts[i].submitted = some (w, hw, nm)) (hdel : ts[j].delivered = some (r, hr, nm'))
    (hwc : (ts[i].enqueued c).isSome) (hrc : (ts[j].dequeued c).isSome)
    (hmatch : (s.queueOf c).length + ((ts.take i).filterMap (·.enqueued c)).length =
      ((ts.take j).filterMap (·.dequeued c)).length) :
    nm'.bytes = nm.bytes ∧ nm'.handles.length = nm.handles.length ∧ nm'.handles.Nodup ∧
      (∀ k ∈ nm'.handles, ts[j].pre.lookupHandle r k = none) ∧
      (∀ k x, ts[j].pre.lookupHandle r k = some x → ts[j].post.lookupHandle r k = some x) ∧
      nm'.handles.map (ts[j].post.lookupHandle r) = nm.handles.map (ts[i].pre.lookupHandle w) := by
  obtain ⟨mw, hmw⟩ := Option.isSome_iff_exists.1 hwc
  obtain ⟨mr, hmr⟩ := Option.isSome_iff_exists.1 hrc
  -- The read returns the message the write enqueued: both sit at the same position of
  -- what the channel held followed by what was written.
  have hsame : mr = mw := by
    have hW := getElem?_filterMap_take (f := (·.enqueued c)) hi hmw
    have hR := getElem?_filterMap_take (f := (·.dequeued c)) hj hmr
    obtain ⟨rest, hrest⟩ : ts.filterMap (·.dequeued c) <+: s.queueOf c ++ ts.filterMap (·.enqueued c) := by
      rcases queue_run h c with heq | ⟨hpre, -⟩
      · exact ⟨s'.queueOf c, heq.symm⟩
      · exact hpre
    have hread : (ts.filterMap (·.dequeued c) ++ rest)[((ts.take j).filterMap (·.dequeued c)).length]? =
        some mr := by
      rw [List.getElem?_append_left (List.getElem?_eq_some_iff.1 hR).1, hR]
    have hwrite : (s.queueOf c ++ ts.filterMap (·.enqueued c))[((ts.take j).filterMap (·.dequeued c)).length]? =
        some mw := by
      rw [← hmatch, List.getElem?_append_right (Nat.le_add_right _ _), Nat.add_sub_cancel_left, hW]
    rw [hrest] at hread
    exact Option.some.inj (hread.symm.trans hwrite)
  subst hsame
  obtain ⟨hbw, hmapw⟩ := Transition.enqueued_spec hmw hsub
  obtain ⟨hbr, hmapr⟩ := Transition.dequeued_spec hmr hdel
  obtain ⟨hnd, hfresh, hkeep⟩ := delivered_spec (step_of_mem_run h (List.getElem_mem hj)) hdel
  refine ⟨hbr.symm.trans hbw, ?_, hnd, hfresh, hkeep, hmapr.trans hmapw.symm⟩
  simpa using congrArg List.length (hmapr.trans hmapw.symm)

/-- A message carrying the write handle of a second channel, read back by its sender. -/
theorem handles_survive_transfer_one :
    ∃ ts s', fresh.run [.channelCreate ⟨0⟩ "a" Label.publicUntrusted .no [5, 6],
        .channelCreate ⟨0⟩ "b" Label.publicUntrusted .no [7, 8],
        .channelWrite ⟨0⟩ 5 ⟨[1], [7]⟩ .no, .channelRead ⟨0⟩ 6 .no [9]] = some (ts, s') ∧
      ∃ (hi : 2 < ts.length) (hj : 3 < ts.length),
        (⟨[1], [9]⟩ : NodeMessage).bytes = (⟨[1], [7]⟩ : NodeMessage).bytes ∧
        [(9 : Handle)].length = [(7 : Handle)].length ∧ [(9 : Handle)].Nodup ∧
        (∀ k ∈ [(9 : Handle)], ts[3].pre.lookupHandle ⟨0⟩ k = none) ∧
        (∀ k x, ts[3].pre.lookupHandle ⟨0⟩ k = some x → ts[3].post.lookupHandle ⟨0⟩ k = some x) ∧
        [(9 : Handle)].map (ts[3].post.lookupHandle ⟨0⟩) = [(7 : Handle)].map (ts[2].pre.lookupHandle ⟨0⟩) := by
  refine ⟨_, _, rfl, by decide, by decide, ?_⟩
  exact handles_survive_transfer fresh [.channelCreate ⟨0⟩ "a" Label.publicUntrusted .no [5, 6],
    .channelCreate ⟨0⟩ "b" Label.publicUntrusted .no [7, 8],
    .channelWrite ⟨0⟩ 5 ⟨[1], [7]⟩ .no, .channelRead ⟨0⟩ 6 .no [9]] _ _ rfl 0 2 3 _ _ ⟨0⟩ ⟨0⟩ 5 6
    ⟨[1], [7]⟩ ⟨[1], [9]⟩ rfl rfl rfl rfl rfl

end Runtime

end OakRuntime

import OakRuntime.Wakeups

/-!
# The Introspection Log Accounts for Every Message

The log exists so that an observer can rebuild the runtime's state from it: the
messages the channels with a given id hold are the `MessageEnqueued` events for that
id less the `MessageDequeued` ones. `OakRuntime.Events` shows that the count can be
too high, since a write refused for want of readers is still logged as an enqueue.
This module shows that it is never too low, and that the log, read from its start,
never shows a message leave a channel before it arrived.

In a sequential run each call appends events that move no message, then at most one
that does (`Runtime.Booked`). A write logs its `MessageEnqueued` once the message is
queued, a read logs its `MessageDequeued` once the message has left the queue, and
the drop cascade only empties queues. So in every state the dequeues the log records
for an id, together with the messages the channels of that id still hold, are at
most the enqueues it records (`Runtime.log_covers_queues`), and every prefix of the
log has no more dequeues than enqueues (`Runtime.log_never_dequeues_early`). Channel
ids come from a wrapping counter, so two channels may share one; the count is over
all of them.

With threads the log can fall behind the queues. `channel_write` logs its event after
it has left the channel's lock, and a reader can take the message and log its dequeue
in between (`Shared.dequeued_before_enqueued`). The deficit is never more than the
writes in flight, the threads between the block of `channel_write` and its log
(`Shared.log_covers_in_flight`); once none is left, the log accounts again.

## Main definitions

* `EventDetails.movesMessage`: An event that records a message put on or taken off a
  channel.
* `Runtime.queuedFor`: The messages the channels with an id hold.
* `Runtime.LogOrdered`: No prefix of a log holds more dequeues than enqueues.
* `Runtime.Booked`: What one call does to the log and the queues.
* `Runtime.Audited`: The log accounts for the queues and is ordered.
* `Runtime.Change`: What one call can do to the state, by the effect of its call.
* `Shared.SectionEffect`: What one section can do to the runtime and the writes in
  flight.
* `Shared.inFlight`, `Shared.Accounted`: The account with the writes in flight.

## Theorems

* `Runtime.change_of_step`, `Shared.sectionEffect_of_step`: Every call, and every
  section, is one of these.
* `Runtime.booked_step`: Every call is booked.
* `Runtime.audited_run`: The invariant along every run.
* `Runtime.log_covers_queues`, `Runtime.log_never_dequeues_early`: Every run from a
  fresh runtime.
* `Shared.accounted_step`, `Shared.log_covers_in_flight`: Every schedule.
-/

namespace OakRuntime

namespace EventDetails

/-- The event records a message put on or taken off a channel. -/
def movesMessage : EventDetails → Bool
  | .messageEnqueued .. | .messageDequeued .. => true
  | _ => false

variable {e : EventDetails}

theorem enqueues_eq_false (h : e.movesMessage = false) (c : ChannelId) : e.enqueues c = false := by
  cases e <;> simp_all [movesMessage, enqueues]

theorem dequeues_eq_false (h : e.movesMessage = false) (c : ChannelId) : e.dequeues c = false := by
  cases e <;> simp_all [movesMessage, dequeues]

end EventDetails

/-- Events that move no message. -/
def Unmoving (evs : List EventDetails) : Prop := ∀ e ∈ evs, e.movesMessage = false

namespace Unmoving

variable {evs evs' : List EventDetails}

theorem nil : Unmoving [] := fun _ h => absurd h (List.not_mem_nil _)

theorem singleton {e : EventDetails} (h : e.movesMessage = false) : Unmoving [e] := by
  simpa [Unmoving] using h

theorem append (h : Unmoving evs) (h' : Unmoving evs') : Unmoving (evs ++ evs') := by
  simpa [Unmoving, or_imp, forall_and] using And.intro h h'

theorem zipWith {α β : Type} {f : α → β → EventDetails} (hf : ∀ a b, (f a b).movesMessage = false) :
    ∀ (as : List α) (bs : List β), Unmoving (List.zipWith f as bs)
  | a :: as, b :: bs => by simpa [Unmoving, hf] using zipWith hf as bs
  | [], _ => nil
  | _ :: _, [] => nil

theorem countP_enqueues (h : Unmoving evs) (c : ChannelId) : evs.countP (·.enqueues c) = 0 :=
  List.countP_eq_zero.2 fun e he => by simp [EventDetails.enqueues_eq_false (h e he)]

theorem countP_dequeues (h : Unmoving evs) (c : ChannelId) : evs.countP (·.dequeues c) = 0 :=
  List.countP_eq_zero.2 fun e he => by simp [EventDetails.dequeues_eq_false (h e he)]

end Unmoving

/-- The messages channel `ch` holds if its id is `c`. -/
def Channel.queuedFor (c : ChannelId) (ch : Channel) : Nat := if ch.id = c then ch.messages.length else 0

/-- Changing one entry of a list changes a running total by the difference. -/
theorem foldr_add_modify {α : Type} (g : α → Nat) (f : α → α) :
    ∀ {l : List α} {i : Nat} {a : α}, l[i]? = some a →
      (l.modify f i).foldr (fun x n => g x + n) 0 + g a = l.foldr (fun x n => g x + n) 0 + g (f a)
  | b :: l, 0, a, h => by
    obtain rfl : b = a := Option.some.inj (by simpa using h)
    simp only [List.modify_zero_cons, List.foldr_cons]
    omega
  | b :: l, i + 1, a, h => by
    have := foldr_add_modify g f (l := l) (i := i) (by simpa using h)
    simp only [List.modify_succ_cons, List.foldr_cons]
    omega

/-- Two lists of the same length, each entry of the first bounded by the entry of the
    second at its place: the running totals are bounded too. -/
theorem foldr_add_le_of_getElem? {α : Type} (g : α → Nat) :
    ∀ {l l' : List α}, l'.length = l.length →
      (∀ (i : Nat) (a' : α), l'[i]? = some a' → ∃ a, l[i]? = some a ∧ g a' ≤ g a) →
      l'.foldr (fun x n => g x + n) 0 ≤ l.foldr (fun x n => g x + n) 0
  | [], [], _, _ => le_rfl
  | a :: l, a' :: l', hlen, h => by
    obtain ⟨b, hb, hle⟩ := h 0 a' (by simp)
    obtain rfl : a = b := Option.some.inj (by simpa using hb)
    have := @foldr_add_le_of_getElem? _ g l l' (by simpa using hlen)
      fun i x hx => by simpa using h (i + 1) x (by simpa using hx)
    simp only [List.foldr_cons]
    omega

namespace Runtime

variable {s s' : Runtime}

/-- The number of messages the channels with id `c` hold. -/
def queuedFor (s : Runtime) (c : ChannelId) : Nat := s.channels.foldr (fun ch n => ch.queuedFor c + n) 0

theorem queuedFor_of_channels_eq (h : s'.channels = s.channels) (c : ChannelId) : s'.queuedFor c = s.queuedFor c := by
  simp only [queuedFor, h]

/-- Replacing the queue of an existing channel changes the count of its id only. -/
theorem queuedFor_setQueue {i : Nat} {ch : Channel} (hch : s.channels[i]? = some ch) (q : List Message)
    (c : ChannelId) : (s.setQueue i q).queuedFor c + ch.queuedFor c = s.queuedFor c + { ch with messages := q }.queuedFor c :=
  foldr_add_modify _ _ hch

end Runtime

/-- The drop cascade only empties queues. -/
theorem Reclaimed.queuedFor_le {s s' : Runtime} (h : Reclaimed s s') (c : ChannelId) : s'.queuedFor c ≤ s.queuedFor c := by
  refine foldr_add_le_of_getElem? _ h.length_eq fun i a' ha' => ?_
  rcases h.channel i with e | ⟨e, -⟩
  · exact ⟨a', e ▸ ha', le_rfl⟩
  · obtain ⟨a, ha, rfl⟩ := Option.map_eq_some'.1 (e ▸ ha')
    refine ⟨a, ha, ?_⟩
    unfold Channel.queuedFor
    split <;> simp

namespace Runtime

variable {s s' : Runtime}

/-- The enqueues and dequeues a log records for every id are at most as many. -/
def Accounts (s : Runtime) : Prop := ∀ c, s.dequeuedEvents c + s.queuedFor c ≤ s.enqueuedEvents c

/-- No prefix of the log holds more dequeues than enqueues for an id: read from its
    start, it never shows a message leave a channel before it arrived. -/
def LogOrdered (log : List EventDetails) : Prop :=
  ∀ p, p <+: log → ∀ c, p.countP (·.dequeues c) ≤ p.countP (·.enqueues c)

theorem prefix_append_cases {α : Type} {l₁ l₂ p : List α} (h : p <+: l₁ ++ l₂) :
    p <+: l₁ ∨ ∃ q, q <+: l₂ ∧ p = l₁ ++ q := by
  rcases List.prefix_or_prefix_of_prefix h (List.prefix_append l₁ l₂) with h' | ⟨q, rfl⟩
  · exact .inl h'
  · exact .inr ⟨q, (List.prefix_append_right_inj l₁).1 h, rfl⟩

namespace LogOrdered

variable {log : List EventDetails} {evs : List EventDetails}

/-- Events that move no message keep the log ordered. -/
theorem append (h : LogOrdered log) (hu : Unmoving evs) : LogOrdered (log ++ evs) := by
  intro p hp c
  rcases prefix_append_cases hp with hp | ⟨q, ⟨r, rfl⟩, rfl⟩
  · exact h p hp c
  · have hq : Unmoving q := fun e he => hu e (List.mem_append_left r he)
    have := h log (List.prefix_refl _) c
    simp only [List.countP_append, hq.countP_enqueues, hq.countP_dequeues]
    omega

/-- One more event keeps the log ordered when the whole log after it is. -/
theorem concat {e : EventDetails} (h : LogOrdered log)
    (hc : ∀ c, (log ++ [e]).countP (·.dequeues c) ≤ (log ++ [e]).countP (·.enqueues c)) :
    LogOrdered (log ++ [e]) := by
  intro p hp c
  rcases List.prefix_concat_iff.1 hp with rfl | hp
  · exact hc c
  · exact h p hp c

end LogOrdered

/-- The log of `s'` is that of `s` with events appended that move no message. -/
def QuietLog (s s' : Runtime) : Prop :=
  ∃ evs, s'.introspectionEventQueue = s.introspectionEventQueue ++ evs ∧ Unmoving evs

namespace QuietLog

variable {s₁ : Runtime}

theorem of_eq (h : s'.introspectionEventQueue = s.introspectionEventQueue) : QuietLog s s' :=
  ⟨[], by rw [h, List.append_nil], .nil⟩

theorem refl (s : Runtime) : QuietLog s s := of_eq rfl

theorem trans (h₁ : QuietLog s s₁) (h₂ : QuietLog s₁ s') : QuietLog s s' := by
  obtain ⟨evs₁, e₁, hu₁⟩ := h₁
  obtain ⟨evs₂, e₂, hu₂⟩ := h₂
  exact ⟨evs₁ ++ evs₂, by rw [e₂, e₁, List.append_assoc], hu₁.append hu₂⟩

theorem introspectionEvent {e : EventDetails} (h : QuietLog s s') (he : e.movesMessage = false) :
    QuietLog s (s'.introspectionEvent e) :=
  h.trans ⟨[e], rfl, .singleton he⟩

theorem enqueuedEvents (h : QuietLog s s') (c : ChannelId) : s'.enqueuedEvents c = s.enqueuedEvents c := by
  obtain ⟨evs, e, hu⟩ := h
  simp [Runtime.enqueuedEvents, e, hu.countP_enqueues]

theorem dequeuedEvents (h : QuietLog s s') (c : ChannelId) : s'.dequeuedEvents c = s.dequeuedEvents c := by
  obtain ⟨evs, e, hu⟩ := h
  simp [Runtime.dequeuedEvents, e, hu.countP_dequeues]

end QuietLog

@[simp] theorem enqueuedEvents_introspectionEvent (e : EventDetails) (c : ChannelId) :
    (s.introspectionEvent e).enqueuedEvents c = s.enqueuedEvents c + if e.enqueues c then 1 else 0 := by
  simp [enqueuedEvents, introspectionEvent, List.countP_cons]

@[simp] theorem dequeuedEvents_introspectionEvent (e : EventDetails) (c : ChannelId) :
    (s.introspectionEvent e).dequeuedEvents c = s.dequeuedEvents c + if e.dequeues c then 1 else 0 := by
  simp [dequeuedEvents, introspectionEvent, List.countP_cons]

@[simp] theorem enqueuedEvents_setQueue (i : Nat) (q : List Message) (c : ChannelId) :
    (s.setQueue i q).enqueuedEvents c = s.enqueuedEvents c := rfl

@[simp] theorem dequeuedEvents_setQueue (i : Nat) (q : List Message) (c : ChannelId) :
    (s.setQueue i q).dequeuedEvents c = s.dequeuedEvents c := rfl

end Runtime

/-- Handles installed: the log gains `HandleCreated` events only. -/
theorem Installed.quietLog {s s' : Runtime} {n : NodeId} {hs : List Handle} {halves : List ChannelHalf}
    (hi : Installed s s' n hs halves) : s.QuietLog s' :=
  ⟨_, hi.events, Unmoving.zipWith (fun _ _ => by rfl) _ _⟩

namespace Runtime

variable {s s' : Runtime}

@[simp] theorem queuedFor_introspectionEvent (e : EventDetails) (c : ChannelId) :
    (s.introspectionEvent e).queuedFor c = s.queuedFor c := rfl

theorem dropAbiHandle_quietLog {n : NodeId} {k : Handle} (h : s.dropAbiHandle n k = some (.ok (), s')) :
    QuietLog s s' := by
  obtain ⟨_, _, hd⟩ := dropAbiHandle_ok h
  exact ⟨_, hd.events, .singleton rfl⟩

theorem closeHandles_quietLog {n : NodeId} {hs : List Handle} (s : Runtime) (h : closeHandles n s hs = some s') :
    QuietLog s s' := by
  induction hs generalizing s with
  | nil => cases h; exact .refl _
  | cons k hs ih =>
    simp only [closeHandles] at h
    split at h
    · exact (dropAbiHandle_quietLog ‹_›).trans (ih _ h)
    · cases h

/-- What `remove_node_id` did: it closed every handle of the node's record, then
    removed the record and logged `NodeDestroyed`. -/
theorem removeNodeId_sections {n : NodeId} (h : s.removeNodeId n = some s') :
    ∃ ni s₁, s.nodeInfos.lookup n = some ni ∧ closeHandles n s ni.abiHandles.keys = some s₁ ∧ n ∈ s₁.nodeInfos ∧
      s' = (({ s₁ with nodeInfos := s₁.nodeInfos.erase n } : Runtime).updateNodesCountMetric ni.nodeType
        (-1)).introspectionEvent (.nodeDestroyed n.val) := by
  unfold removeNodeId at h
  split at h
  · cases h
  rename_i ni hni
  split at h
  · cases h
  rename_i s₁ h₁
  split at h
  · cases h
    exact ⟨ni, s₁, hni, h₁, ‹_›, rfl⟩
  · cases h

theorem removeNodeId_quietLog {n : NodeId} (h : s.removeNodeId n = some s') : QuietLog s s' := by
  obtain ⟨ni, s₁, -, h₁, -, rfl⟩ := removeNodeId_sections h
  exact ((closeHandles_quietLog s h₁).trans (.of_eq rfl)).introspectionEvent rfl

theorem nodeConfigureInstance_quietLog (s : Runtime) (m : NodeId) (t name : String) (l : Label) (p : NodePrivilege) :
    QuietLog s (s.nodeConfigureInstance m t name l p) :=
  ⟨_, rfl, .singleton rfl⟩

theorem registerConfigure_quietLog {m : NodeId} {cr : CreatedNode} {name : String} {l : Label}
    {reader : ChannelHalf} {rng : List Handle} (h : s.registerConfigure m cr name l reader rng = some s') :
    QuietLog s s' := by
  unfold registerConfigure at h
  split at h
  · cases h
  obtain rfl := Option.some.inj h
  have hq := (nodeConfigureInstance_quietLog s m cr.nodeType name l cr.privilege).trans
    (newAbiHandle_installed ‹_›).quietLog
  split
  · exact hq.trans (.of_eq (introspectionEventQueue_reclaim _))
  · exact hq

theorem log_registerEnter {n : NodeId} {cr : CreatedNode} {l : Label} {k : Handle} {d : Downgrading}
    {r : Except OakStatus (ChannelHalf × NodeId)} (h : s.registerEnter n cr l k d = some (r, s')) :
    s'.introspectionEventQueue = s.introspectionEventQueue := by
  unfold registerEnter checked at h
  split at h
  · cases h; rfl
  repeat' split at h <;> try cases h <;> rfl

theorem log_addNodeStopper {m : NodeId} {st : NodeStopper} (h : s.addNodeStopper m st = some s') :
    s'.introspectionEventQueue = s.introspectionEventQueue := by
  unfold addNodeStopper at h
  repeat' split at h <;> try cases h <;> rfl

/-- A registration that returns `Ok` ran its three sections. -/
theorem nodeRegister_ok_sections {p : NodeId} {cr : CreatedNode} {name : String} {label : Label} {k : Handle}
    {d : Downgrading} {rng : List Handle} (h : s.nodeRegister p cr name label k d rng = some (.ok (), s')) :
    ∃ reader m s₁ s₂, s.registerEnter p cr label k d = some (.ok (reader, m), s₁) ∧
      s₁.registerConfigure m cr name label reader rng = some s₂ ∧ s₂.addNodeStopper m ⟨name⟩ = some s' := by
  rw [nodeRegister_eq_sections] at h
  obtain ⟨⟨_ | ⟨reader, m⟩, s₁⟩, he, hrest⟩ := Option.bind_eq_some.1 h
  · cases hrest
  simp only [registerRest, registerFinish, Option.map_eq_some', Option.bind_eq_some, Prod.mk.injEq] at hrest
  obtain ⟨_, ⟨s₂, hcf, hadd⟩, -, rfl⟩ := hrest
  exact ⟨reader, m, s₁, s₂, he, hcf, hadd⟩

/-- A call that registers a node runs `node_register`. -/
theorem nodeRegister_of_step {call : Call} {p : NodeId} {cr : CreatedNode} {name : String} {label : Label}
    {k : Handle} {d : Downgrading} {rng : List Handle} {o : Outcome} (h : s.step call = some (o, s'))
    (hc : call = .nodeRegister p cr name label k d rng ∨ call = .nodeCreateAndRegister p (some cr) name label k d rng) :
    ∃ r, s.nodeRegister p cr name label k d rng = some (r, s') := by
  rcases hc with rfl | rfl <;> simp only [step, nodeCreateAndRegister] at h <;>
    obtain ⟨r, hr, -⟩ := map_outcome_eq_some h <;> exact ⟨r, hr⟩

theorem removeNodeId_of_step {n : NodeId} {o : Outcome} (h : s.step (.removeNodeId n) = some (o, s')) :
    s.removeNodeId n = some s' := by
  simp only [step, Option.map_eq_some', Prod.mk.injEq] at h
  obtain ⟨_, hr, -, rfl⟩ := h
  exact hr

theorem nodeRegister_quietLog {p : NodeId} {created : CreatedNode} {name : String} {label : Label} {k : Handle}
    {d : Downgrading} {rng : List Handle} {r : Except OakStatus Unit}
    (h : s.nodeRegister p created name label k d rng = some (r, s')) : QuietLog s s' := by
  rcases r with _ | ⟨⟩
  · rw [nodeRegister_error h]; exact .refl _
  obtain ⟨reader, m, s₁, s₂, he, hcf, hadd⟩ := nodeRegister_ok_sections h
  exact ((QuietLog.of_eq (log_registerEnter he)).trans (registerConfigure_quietLog hcf)).trans
    (.of_eq (log_addNodeStopper hadd))

/-- What the block of `channel_write` did: a check failed and nothing changed; or it
    built the `MessageEnqueued` event for the half's channel and, if it enqueued,
    appended the message to that channel's queue. -/
theorem channelWriteBlock_spec {n : NodeId} {k : Handle} {nm : NodeMessage} {d : Downgrading}
    {r : Except OakStatus (ChannelHalf × Except OakStatus Unit × EventDetails)}
    (h : s.channelWriteBlock n k nm d = some (r, s')) :
    (∃ e, r = .error e ∧ s' = s) ∨ ∃ half res, r = .ok (half, res, .messageEnqueued n.val (s.channelIdOf half) nm.handles) ∧
      (s' = s ∨ ∃ ch m, s.channels[half.channel]? = some ch ∧ s' = s.setQueue half.channel (ch.messages ++ [m])) := by
  unfold channelWriteBlock at h
  obtain ⟨e, -, rfl, rfl⟩ | ⟨half, -, h₁⟩ := checked_eq_some h; · exact .inl ⟨e, rfl, rfl⟩
  obtain ⟨e, -, rfl, rfl⟩ | ⟨⟨⟩, -, h₂⟩ := checked_eq_some h₁; · exact .inl ⟨e, rfl, rfl⟩
  obtain ⟨e, -, rfl, rfl⟩ | ⟨m, -, h₃⟩ := checked_eq_some h₂; · exact .inl ⟨e, rfl, rfl⟩
  refine .inr ⟨half, ?_⟩
  split at h₃
  · cases h₃
  · cases h₃; exact ⟨_, rfl, .inl rfl⟩
  · split at h₃ <;> cases h₃
    · exact ⟨_, rfl, .inr ⟨_, m, (withWriterChannel_eq_ok.1 ‹_›).2, rfl⟩⟩
    · exact ⟨_, rfl, .inl rfl⟩

/-- What one call does to the log and the queues: it appends events that move no
    message and at most one more, and the messages it queued, with the dequeues it
    logged, are matched by the enqueues it logged. -/
structure Booked (s s' : Runtime) : Prop where
  log : ∃ evs, Unmoving evs ∧ (s'.introspectionEventQueue = s.introspectionEventQueue ++ evs ∨
    ∃ e, s'.introspectionEventQueue = s.introspectionEventQueue ++ evs ++ [e])
  tally : ∀ c, s'.dequeuedEvents c + s'.queuedFor c + s.enqueuedEvents c ≤
    s.dequeuedEvents c + s.queuedFor c + s'.enqueuedEvents c

namespace Booked

theorem of_quiet (h : QuietLog s s') (hq : ∀ c, s'.queuedFor c ≤ s.queuedFor c) : Booked s s' := by
  refine ⟨?_, fun c => ?_⟩
  · obtain ⟨evs, e, hu⟩ := h
    exact ⟨evs, hu, .inl e⟩
  · rw [h.enqueuedEvents, h.dequeuedEvents]
    have := hq c
    omega

theorem refl (s : Runtime) : Booked s s := of_quiet (.refl s) fun _ => le_rfl

/-- A quiet change, then one more event. -/
theorem concat {s₁ : Runtime} {e : EventDetails} (h : QuietLog s s₁)
    (ht : ∀ c, s₁.dequeuedEvents c + (if e.dequeues c then 1 else 0) + s₁.queuedFor c ≤
      s.dequeuedEvents c + s.queuedFor c + (if e.enqueues c then 1 else 0)) :
    Booked s (s₁.introspectionEvent e) := by
  refine ⟨?_, fun c => ?_⟩
  · obtain ⟨evs, he, hu⟩ := h
    exact ⟨evs, hu, .inr ⟨e, by rw [← he]; rfl⟩⟩
  · simp only [dequeuedEvents_introspectionEvent, enqueuedEvents_introspectionEvent, queuedFor_introspectionEvent,
      h.enqueuedEvents]
    have := ht c
    omega

end Booked

theorem channelIdOf_of_getElem? {half : ChannelHalf} {ch : Channel} (h : s.channels[half.channel]? = some ch) :
    s.channelIdOf half = ch.id := by
  simp [channelIdOf, h]

/-- The write block followed by its log. -/
theorem booked_logBlock {n : NodeId} {k : Handle} {nm : NodeMessage} {d : Downgrading}
    {r : Except OakStatus (ChannelHalf × Except OakStatus Unit × EventDetails)}
    (h : s.channelWriteBlock n k nm d = some (r, s')) : Booked s (logBlock (r, s')).2 := by
  rcases channelWriteBlock_spec h with ⟨e, rfl, rfl⟩ | ⟨half, res, rfl, rfl | ⟨ch, m, hch, rfl⟩⟩
  · exact .refl _
  · exact Booked.concat (.refl _) fun c => by simp [EventDetails.dequeues]
  · refine Booked.concat (.of_eq rfl) fun c => ?_
    have hq := queuedFor_setQueue hch (ch.messages ++ [m]) c
    rw [channelIdOf_of_getElem? hch]
    by_cases hc : ch.id = c <;> simp_all [Channel.queuedFor, EventDetails.enqueues, EventDetails.dequeues]
    omega

theorem booked_channelWrite {n : NodeId} {k : Handle} {nm : NodeMessage} {d : Downgrading} {o : Outcome}
    (h : s.step (.channelWrite n k nm d) = some (o, s')) : Booked s s' := by
  simp only [step, channelWrite_eq_block, Option.map_map] at h
  obtain ⟨⟨r, s₁⟩, hb, he⟩ := Option.map_eq_some'.1 h
  cases he
  exact booked_logBlock hb

/-- A read: the front message left the queue of the half's channel, the reader's table
    took its halves, and the dequeue was logged last. -/
theorem ReadStep.booked {n : NodeId} {k : Handle} {d : Downgrading} {nm : NodeMessage} {ni : NodeInfo}
    {half : ChannelHalf} {ch : Channel} {m : Message} {rest : List Message}
    (hr : s.ReadStep s' n k d nm ni half ch m rest) : Booked s s' := by
  obtain ⟨s₁, hi, rfl⟩ := hr.post
  have hq : QuietLog s s₁ := (QuietLog.of_eq rfl).trans hi.quietLog
  refine Booked.concat hq fun c => ?_
  have hset := queuedFor_setQueue hr.channel rest c
  rw [queuedFor_of_channels_eq hi.channels_eq, channelIdOf_of_getElem? hr.channel, hq.dequeuedEvents]
  have hf := hr.front
  by_cases hc : ch.id = c <;> simp_all [Channel.queuedFor, EventDetails.enqueues, EventDetails.dequeues]
  omega

/-- A failed call other than `channel_write` returns the state it was given. -/
theorem step_failed_eq {call : Call} {o : Outcome} (h : s.step call = some (o, s')) (hf : o.Failed)
    (hw : ∀ n k nm d, call ≠ .channelWrite n k nm d) : s' = s := by
  cases call <;> simp only [step] at h
  case channelWrite => exact absurd rfl (hw _ _ _ _)
  case channelTryReadMessage => exact channelTryReadMessage_failed h hf
  case waitOnChannels | removeNodeId =>
    simp only [Option.map_eq_some', Prod.mk.injEq] at h
    obtain ⟨_, _, rfl, -⟩ := h
    exact hf.elim
  case stop =>
    obtain ⟨rfl, -⟩ := Prod.mk.inj (Option.some.inj h)
    exact hf.elim
  all_goals
    obtain ⟨_ | _, hr, rfl⟩ := map_outcome_eq_some h
    · first
        | exact channelCreate_error hr | exact handleClone_error hr | exact channelRead_error hr
        | exact dropAbiHandle_error hr | exact nodeRegister_error hr | exact nodeCreateAndRegister_error hr
    · exact hf.elim

/-- What one call does, in the terms the invariants of the log need: nothing, a whole
    `channel_write`, a new channel with its two handles, a cloned handle, a read, a closed
    handle, a registration, a removal, or `stop`. -/
inductive Change (s : Runtime) : Runtime → Prop
  | same : Change s s
  | wrote {n : NodeId} {k : Handle} {nm : NodeMessage} {d : Downgrading} {o : Outcome} {s' : Runtime} :
      s.step (.channelWrite n k nm d) = some (o, s') → Change s s'
  | created {n : NodeId} {name : String} {label : Label} {w r : Handle} {s' : Runtime} :
      Installed
        (({ s with nextChannelId := s.nextChannelId + 1, channels := s.channels ++ [⟨s.nextChannelId, name, label, []⟩] } :
          Runtime).introspectionEvent (.channelCreated s.nextChannelId name label))
        s' n [w, r] [⟨s.channels.length, .write⟩, ⟨s.channels.length, .read⟩] → Change s s'
  | cloned {n : NodeId} {handle h' : Handle} {half : ChannelHalf} {s' : Runtime} :
      s.lookupHandle n handle = some half → Installed s s' n [h'] [half] → Change s s'
  | read {n : NodeId} {handle : Handle} {d : Downgrading} {nm : NodeMessage} {ni : NodeInfo} {half : ChannelHalf}
      {ch : Channel} {m : Message} {rest : List Message} {s' : Runtime} :
      s.ReadStep s' n handle d nm ni half ch m rest → Change s s'
  | closed {n : NodeId} {handle : Handle} {ni : NodeInfo} {half : ChannelHalf} {s' : Runtime} :
      s.DropStep s' n handle ni half → Change s s'
  | registered {p : NodeId} {created : CreatedNode} {name : String} {label : Label} {handle : Handle}
      {d : Downgrading} {rng : List Handle} {r : Except OakStatus Unit} {ni : NodeInfo} {half : ChannelHalf}
      {x : Handle} {s' : Runtime} :
      s.nodeRegister p created name label handle d rng = some (r, s') →
      s.RegisterStep s' p created name label handle d ni half x → Change s s'
  | removed {n : NodeId} {s' : Runtime} : s.removeNodeId n = some s' → s.RemoveStep s' n → Change s s'
  | stopped : Change s s.stop

/-- Say once what a call does to the log's invariants: a failed call other than a write
    changes nothing, and a registration or a removal ran its function. -/
theorem change_of_step {call : Call} {o : Outcome} (h : s.step call = some (o, s')) : Change s s' := by
  by_cases hw : ∃ n k nm d, call = .channelWrite n k nm d
  · obtain ⟨n, k, nm, d, rfl⟩ := hw
    exact .wrote h
  push_neg at hw
  cases step_effect h with
  | failed hf _ => rw [step_failed_eq h hf hw]; exact .same
  | empty _ | waited => exact .same
  | created _ _ hi => exact .created hi
  | cloned _ hl hi => exact .cloned hl hi
  | written => exact absurd rfl (hw _ _ _ _)
  | read hr | tryRead hr => exact .read hr
  | closed hd => exact .closed hd
  | registered hc hreg =>
    obtain ⟨_, hr⟩ := nodeRegister_of_step h hc
    exact .registered hr hreg
  | removed hrm => exact .removed (removeNodeId_of_step h) hrm
  | stopped => exact .stopped

/-- Every call is booked. -/
theorem booked_step {call : Call} {o : Outcome} (h : s.step call = some (o, s')) : Booked s s' := by
  cases change_of_step h with
  | same => exact .refl _
  | wrote hw => exact booked_channelWrite hw
  | created hi =>
    refine .of_quiet (QuietLog.trans ?_ hi.quietLog) fun c => ?_
    · exact ⟨_, rfl, .singleton rfl⟩
    · rw [queuedFor_of_channels_eq hi.channels_eq]
      simp [queuedFor, Channel.queuedFor, introspectionEvent, List.foldr_append]
  | cloned _ hi => exact .of_quiet hi.quietLog fun c => (queuedFor_of_channels_eq hi.channels_eq c).le
  | read hr => exact hr.booked
  | closed hd => exact .of_quiet ⟨_, hd.events, .singleton rfl⟩ hd.reclaimed.queuedFor_le
  | registered hr hreg => exact .of_quiet (nodeRegister_quietLog hr) hreg.reclaimed.queuedFor_le
  | removed hr hrm => exact .of_quiet (removeNodeId_quietLog hr) hrm.reclaimed.queuedFor_le
  | stopped => exact .of_quiet (.of_eq rfl) fun _ => le_rfl

/-- A change that keeps the channels and the log. -/
theorem Booked.of_frame (hc : s'.channels = s.channels) (hl : s'.introspectionEventQueue = s.introspectionEventQueue) :
    Booked s s' :=
  .of_quiet (.of_eq hl) fun c => (queuedFor_of_channels_eq hc c).le

/-! ### Runs -/

/-- The log accounts for the queues, and no prefix of it holds more dequeues than
    enqueues. -/
structure Audited (s : Runtime) : Prop where
  accounts : s.Accounts
  ordered : LogOrdered s.introspectionEventQueue

theorem LogOrdered.nil : LogOrdered [] := fun p hp c => by rw [List.prefix_nil.1 hp]; rfl

/-- A booked change keeps the audit. The one event that may move a message comes last,
    so every prefix before it counts as the log before the change, and the whole log
    as the state after it. -/
theorem Audited.booked (hi : s.Audited) (hb : Booked s s') : s'.Audited := by
  have ha : s'.Accounts := fun c => by
    have := hi.accounts c
    have := hb.tally c
    omega
  refine ⟨ha, ?_⟩
  obtain ⟨evs, hu, he | ⟨e, he⟩⟩ := hb.log <;> rw [he]
  · exact hi.ordered.append hu
  · refine (hi.ordered.append hu).concat fun c => ?_
    rw [← he]
    exact le_trans (Nat.le_add_right _ _) (ha c)

theorem audited_fresh : fresh.Audited := by
  have hu : Unmoving fresh.introspectionEventQueue := .singleton rfl
  refine ⟨fun c => ?_, by simpa using LogOrdered.nil.append hu⟩
  rw [show fresh.queuedFor c = 0 from rfl, dequeuedEvents, hu.countP_dequeues]
  exact Nat.zero_le _

/-- The audit holds in every state of a run. -/
theorem audited_run {calls : List Call} {ts : List Transition} (h : s.run calls = some (ts, s')) (hi : s.Audited) :
    (∀ t ∈ ts, t.pre.Audited) ∧ s'.Audited :=
  run_invariant h (fun _ ht hpre => hpre.booked (booked_step (step_of_mem_run h ht))) hi

/-- The log never counts fewer messages on a channel than it holds. After every run from
    a fresh runtime, for every channel id, the `MessageDequeued` events the log records
    and the messages the channels with that id still hold are together at most the
    `MessageEnqueued` events it records. -/
theorem log_covers_queues {calls : List Call} {ts : List Transition} (h : fresh.run calls = some (ts, s'))
    (c : ChannelId) : s'.dequeuedEvents c + s'.queuedFor c ≤ s'.enqueuedEvents c :=
  (audited_run h audited_fresh).2.accounts c

/-- Node 0 writes a message to a channel it created and reads it back. -/
def echoCalls : List Call :=
  [.channelCreate ⟨0⟩ "echo" Label.publicUntrusted .no [5, 6], .channelWrite ⟨0⟩ 5 ⟨[7], []⟩ .no,
    .channelWrite ⟨0⟩ 5 ⟨[8], [6]⟩ .no, .channelRead ⟨0⟩ 6 .no [9]]

theorem log_covers_queues_echo :
    ∃ ts s', fresh.run echoCalls = some (ts, s') ∧ s'.dequeuedEvents 0 + s'.queuedFor 0 ≤ s'.enqueuedEvents 0 :=
  ⟨_, _, rfl, log_covers_queues (rfl : fresh.run echoCalls = _) 0⟩

/-- Read from its start, the log never shows a message leave a channel before it
    arrived. After every run from a fresh runtime, no prefix of the log holds more
    `MessageDequeued` than `MessageEnqueued` events for any channel id. -/
theorem log_never_dequeues_early {calls : List Call} {ts : List Transition} (h : fresh.run calls = some (ts, s')) :
    ∀ p, p <+: s'.introspectionEventQueue → ∀ c, p.countP (·.dequeues c) ≤ p.countP (·.enqueues c) :=
  (audited_run h audited_fresh).2.ordered

theorem log_never_dequeues_early_echo :
    ∃ ts s', fresh.run echoCalls = some (ts, s') ∧
      ∀ p, p <+: s'.introspectionEventQueue → ∀ c, p.countP (·.dequeues c) ≤ p.countP (·.enqueues c) :=
  ⟨_, _, rfl, log_never_dequeues_early (rfl : fresh.run echoCalls = _)⟩

/-- What the block of `channel_write` leaves in the log: nothing. -/
theorem log_channelWriteBlock {n : NodeId} {k : Handle} {nm : NodeMessage} {d : Downgrading}
    {r : Except OakStatus (ChannelHalf × Except OakStatus Unit × EventDetails)}
    (h : s.channelWriteBlock n k nm d = some (r, s')) : s'.introspectionEventQueue = s.introspectionEventQueue := by
  rcases channelWriteBlock_spec h with ⟨_, -, rfl⟩ | ⟨_, _, -, rfl | ⟨_, _, -, rfl⟩⟩ <;> rfl

/-- `node_configure_instance` and the new handle change the channels only by the
    cascade. -/
theorem registerConfigure_reclaimed {m : NodeId} {cr : CreatedNode} {name : String} {l : Label}
    {reader : ChannelHalf} {rng : List Handle} (h : s.registerConfigure m cr name l reader rng = some s') :
    Reclaimed s s' := by
  unfold registerConfigure at h
  split at h
  · cases h
  rename_i hn
  obtain rfl := Option.some.inj h
  have hc : _ = s.channels := (newAbiHandle_installed hn).channels_eq
  split
  · exact (Reclaimed.of_channels_eq hc).trans (.reclaim _) fun _ => referenced_of_reclaim
  · exact .of_channels_eq hc

end Runtime

/-! ### Threads -/

namespace Shared

variable {σ σ' : Shared} {o : Option Outcome}

theorem logging_waitStep {w : Waiter} (h : σ.waitStep w = some (o, σ')) : σ'.logging = σ.logging := by
  unfold waitStep at h
  split at h
  · split at h <;> cases h <;> rfl
  · cases h
    rfl
  · obtain ⟨_ | _, -, he⟩ := Option.map_eq_some'.1 h <;> cases he <;> rfl
  · split at h <;> cases h <;> rfl
  · cases h

/-- What one section does to the runtime and to the writes in flight: nothing, a call
    run whole, the block of a write, which puts the event the writer is to log in
    flight, the log of that event, or a section of `node_register` or of `stop`. -/
inductive SectionEffect (σ σ' : Shared) : Prop
  | idle : σ'.runtime = σ.runtime → σ'.logging = σ.logging → SectionEffect σ σ'
  | whole {c o s'} : σ.runtime.step c = some (o, s') → σ'.runtime = s' → σ'.logging = σ.logging →
      SectionEffect σ σ'
  | block {n k nm d half res e s'} : σ.busy n = false →
      σ.runtime.channelWriteBlock n k nm d = some (.ok (half, res, e), s') → σ'.runtime = s' →
      σ'.logging = σ.logging ++ [⟨n, res, e⟩] → SectionEffect σ σ'
  | log {n l} : σ.logging.find? (·.nodeId == n) = some l → σ'.runtime = σ.runtime.introspectionEvent l.event →
      σ'.logging = σ.logging.filter (·.nodeId != n) → SectionEffect σ σ'
  | enter {n c label k d r s'} : σ.runtime.registerEnter n c label k d = some (r, s') → σ'.runtime = s' →
      σ'.logging = σ.logging → SectionEffect σ σ'
  | configure {m c name label reader rng s'} : σ.runtime.registerConfigure m c name label reader rng = some s' →
      σ'.runtime = s' → σ'.logging = σ.logging → SectionEffect σ σ'
  | stopper {m st s'} : σ.runtime.addNodeStopper m st = some s' → σ'.runtime = s' → σ'.logging = σ.logging →
      SectionEffect σ σ'
  | store : σ'.runtime = σ.runtime.storeTerminating → σ'.logging = σ.logging → SectionEffect σ σ'
  | take : σ'.runtime = σ.runtime.takeStoppers → σ'.logging = σ.logging → SectionEffect σ σ'

namespace SectionEffect

theorem of_whole {c : Call} (h : σ.whole c = some (o, σ')) : SectionEffect σ σ' := by
  obtain ⟨⟨o, s'⟩, hs, he⟩ := Option.map_eq_some'.1 h
  cases he
  exact .whole hs (runtime_commit _ _) (logging_commit _ _)

theorem of_beginRegister {n : NodeId} {c : CreatedNode} {name : String} {label : Label} {k : Handle}
    {d : Downgrading} {rng : List Handle} (h : σ.beginRegister n c name label k d rng = some (o, σ')) :
    SectionEffect σ σ' := by
  obtain ⟨⟨r, s'⟩, hs, he⟩ := Option.map_eq_some'.1 h
  rcases r with _ | ⟨_, _⟩ <;> cases he <;> exact .enter hs (runtime_commit _ _) (logging_commit _ _)

/-- The first section of a call. A write that fails before its channel changes nothing;
    one that reaches it wakes the channel's waiters, which keeps both. -/
theorem of_begin {c : Call} (hnb : c.nodeId.any σ.busy = false) (h : σ.begin c = some (o, σ')) :
    SectionEffect σ σ' := by
  cases c
  case channelWrite n k nm d =>
    obtain ⟨⟨_ | ⟨half, res, e⟩, s'⟩, hb, he⟩ := Option.map_eq_some'.1 h
    · rcases Runtime.channelWriteBlock_spec hb with ⟨_, -, rfl⟩ | ⟨_, _, h, -⟩
      · cases he
        exact .idle (runtime_commit _ _) (logging_commit _ _)
      · cases h
    · have hw : Woken { σ.commit s' with logging := σ.logging ++ [⟨n, res, e⟩] } σ' := by
        rcases res with _ | ⟨⟩ <;> cases he
        · exact .refl _
        · exact .wakeWaiters _ _
      exact .block hnb hb (hw.runtime.trans (runtime_commit _ _)) hw.logging
  case nodeRegister => exact .of_beginRegister h
  case nodeCreateAndRegister cr _ _ _ _ _ =>
    cases cr
    · exact .of_whole h
    · exact .of_beginRegister h
  case waitOnChannels =>
    simp only [Shared.begin] at h
    split at h
    · cases h
      exact .idle rfl rfl
    · cases h
  case stop => cases h
  all_goals exact .of_whole h

theorem of_registerStep {g : Registering} (h : σ.registerStep g = some (o, σ')) : SectionEffect σ σ' := by
  unfold Shared.registerStep at h
  split at h
  · obtain ⟨s', hs, he⟩ := Option.map_eq_some'.1 h
    cases he
    exact .configure hs (runtime_commit _ _) (logging_commit _ _)
  · cases h
    exact .idle rfl rfl
  · obtain ⟨s', hs, he⟩ := Option.map_eq_some'.1 h
    cases he
    exact .stopper hs (runtime_commit _ _) (logging_commit _ _)

theorem of_stopStep {pc : StopPc} (h : σ.stopStep pc = some (o, σ')) : SectionEffect σ σ' := by
  cases pc with
  | idle => cases h; exact .store (runtime_commit _ _) (logging_commit _ _)
  | stored => cases h; exact .idle (Woken.notifyAllWaiters σ).runtime (Woken.notifyAllWaiters σ).logging
  | notified => cases h; exact .take (runtime_commit _ _) (logging_commit _ _)
  | joining stoppers joined =>
    cases stoppers with
    | nil => cases h; exact .idle rfl rfl
    | cons n rest =>
      simp only [Shared.stopStep] at h
      split at h <;> cases h
      exact .idle rfl rfl
  | returned => cases h

end SectionEffect

/-- Every section is one of the effects of `SectionEffect`. -/
theorem sectionEffect_of_step {sec : Section} (h : σ.step sec = some (o, σ')) : SectionEffect σ σ' := by
  cases sec with
  | call c =>
    simp only [Shared.step] at h
    split at h
    · cases h
    exact .of_begin (Bool.eq_false_iff.2 ‹_›) h
  | log n =>
    simp only [Shared.step] at h
    split at h
    · cases h
    rename_i l hl
    cases h
    exact .log hl (runtime_commit _ _) rfl
  | wait n =>
    obtain ⟨w, -, hs⟩ := Option.bind_eq_some.1 h
    exact .idle (waitStep_keeps hs).2 (logging_waitStep hs)
  | register n =>
    obtain ⟨g, -, hs⟩ := Option.bind_eq_some.1 h
    exact .of_registerStep hs
  | stop => exact .of_stopStep h

/-- The writes in flight for channel id `c`: threads past the block of `channel_write`
    that have not yet logged its `MessageEnqueued`. -/
def inFlight (σ : Shared) (c : ChannelId) : Nat := σ.logging.countP (·.event.enqueues c)

/-- The log accounts for the queues up to the writes in flight. A thread is inside at
    most one write, and what it logs next is an enqueue. -/
structure Accounted (σ : Shared) : Prop where
  nodup : (σ.logging.map (·.nodeId)).Nodup
  enqueue : ∀ l ∈ σ.logging, ∀ c, l.event.dequeues c = false
  accounts : ∀ c, σ.runtime.dequeuedEvents c + σ.runtime.queuedFor c ≤ σ.runtime.enqueuedEvents c + σ.inFlight c

theorem accounted_init {s : Runtime} (hs : s.Accounts) : (init s).Accounted :=
  ⟨List.nodup_nil, fun _ h => absurd h (List.not_mem_nil _), fun c => by simpa [inFlight] using hs c⟩

/-- A section that keeps the threads inside writes and books its change of the
    runtime. -/
theorem Accounted.of_booked (hi : σ.Accounted) (hl : σ'.logging = σ.logging) (hb : σ.runtime.Booked σ'.runtime) :
    σ'.Accounted := by
  refine ⟨hl ▸ hi.nodup, hl ▸ hi.enqueue, fun c => ?_⟩
  have h₁ := hi.accounts c
  have h₂ := hb.tally c
  unfold inFlight at h₁ ⊢
  rw [hl]
  omega

theorem Accounted.of_eq (hi : σ.Accounted) (hl : σ'.logging = σ.logging) (hr : σ'.runtime = σ.runtime) :
    σ'.Accounted :=
  hi.of_booked hl (hr ▸ .refl _)

/-- The block of a write: the message it queued, if any, is in flight. -/
theorem Accounted.writeBlock {n : NodeId} {k : Handle} {nm : NodeMessage} {d : Downgrading} {half : ChannelHalf}
    {res : Except OakStatus Unit} {e : EventDetails} {s' : Runtime} (hi : σ.Accounted) (hn : σ.busy n = false)
    (hb : σ.runtime.channelWriteBlock n k nm d = some (.ok (half, res, e), s')) (hr : σ'.runtime = s')
    (hl : σ'.logging = σ.logging ++ [⟨n, res, e⟩]) : σ'.Accounted := by
  obtain ⟨_, _, he, -⟩ := (Runtime.channelWriteBlock_spec hb).resolve_left fun ⟨_, h, _⟩ => by cases h
  obtain ⟨-, -, rfl⟩ := Prod.mk.inj_iff.1 (Prod.mk.inj_iff.1 (Except.ok.inj he)).2
  have hbk := Runtime.booked_logBlock hb
  have hlog := Runtime.log_channelWriteBlock hb
  have hnot : n ∉ σ.logging.map (·.nodeId) := by
    simp only [busy, Bool.or_eq_false_iff, List.any_eq_false, beq_iff_eq] at hn
    simpa using hn.1.1
  refine ⟨?_, ?_, fun c => ?_⟩
  · rw [hl]
    simpa [List.nodup_append, hnot] using hi.nodup
  · rw [hl]
    simpa [or_imp, forall_and, EventDetails.dequeues] using hi.enqueue
  · have h₁ := hi.accounts c
    have h₂ := hbk.tally c
    have hd : s'.dequeuedEvents c = σ.runtime.dequeuedEvents c := by simp only [Runtime.dequeuedEvents, hlog]
    have hq : s'.enqueuedEvents c = σ.runtime.enqueuedEvents c := by simp only [Runtime.enqueuedEvents, hlog]
    simp only [Runtime.logBlock, Runtime.dequeuedEvents_introspectionEvent, Runtime.enqueuedEvents_introspectionEvent,
      Runtime.queuedFor_introspectionEvent, EventDetails.dequeues, hd, hq] at h₂
    unfold inFlight at h₁ ⊢
    rw [hr, hd, hq, hl]
    simp only [List.countP_append, List.countP_cons, List.countP_nil, Bool.false_eq_true, if_false] at h₂ ⊢
    omega

/-- With one entry per thread, the entry of node `n` is the only one the filter drops. -/
theorem countP_eq_filter_add {p : Logging → Bool} {n : NodeId} {l : Logging} :
    ∀ {ls : List Logging}, (ls.map (·.nodeId)).Nodup → ls.find? (·.nodeId == n) = some l →
      ls.countP p = (ls.filter (·.nodeId != n)).countP p + if p l then 1 else 0
  | x :: xs, hnd, hf => by
    rw [List.map_cons, List.nodup_cons] at hnd
    by_cases hx : x.nodeId = n
    · rw [List.find?_cons_of_pos _ (by simpa using hx)] at hf
      cases hf
      have hkeep : xs.filter (·.nodeId != n) = xs := List.filter_eq_self.2 fun y hy => by
        simpa using fun e => hnd.1 (by rw [hx, ← e]; exact List.mem_map_of_mem _ hy)
      rw [List.filter_cons_of_neg (by simpa using hx), hkeep, List.countP_cons]
    · rw [List.find?_cons_of_neg _ (by simpa using hx)] at hf
      rw [List.filter_cons_of_pos (by simpa using hx), List.countP_cons, List.countP_cons,
        countP_eq_filter_add hnd.2 hf]
      omega

/-- A thread logs the enqueue of its write: the event leaves the writes in flight for
    the log. -/
theorem Accounted.log {n : NodeId} {l : Logging} (hi : σ.Accounted) (hf : σ.logging.find? (·.nodeId == n) = some l)
    (hr : σ'.runtime = σ.runtime.introspectionEvent l.event) (hl : σ'.logging = σ.logging.filter (·.nodeId != n)) :
    σ'.Accounted := by
  have hmem := List.mem_of_find?_eq_some hf
  refine ⟨hl ▸ hi.nodup.sublist ((List.filter_sublist _).map _),
    fun l' hl' => hi.enqueue l' (List.mem_of_mem_filter (hl ▸ hl')), fun c => ?_⟩
  have h₁ := hi.accounts c
  have h₂ := @countP_eq_filter_add (fun x => x.event.enqueues c) n l _ hi.nodup hf
  unfold inFlight at h₁ ⊢
  rw [hr, hl]
  simp only [Runtime.dequeuedEvents_introspectionEvent, Runtime.enqueuedEvents_introspectionEvent,
    Runtime.queuedFor_introspectionEvent, hi.enqueue l hmem c, Bool.false_eq_true, if_false] at h₂ ⊢
  omega

/-- Every section keeps the account. -/
theorem accounted_step {sec : Section} (hi : σ.Accounted) (h : σ.step sec = some (o, σ')) : σ'.Accounted := by
  cases sectionEffect_of_step h with
  | idle hr hl => exact hi.of_eq hl hr
  | whole hs hr hl => exact hi.of_booked hl (hr ▸ Runtime.booked_step hs)
  | block hn hb hr hl => exact hi.writeBlock hn hb hr hl
  | log hf hr hl => exact hi.log hf hr hl
  | enter hs hr hl =>
    exact hi.of_booked hl (hr ▸ .of_frame (Runtime.channels_registerEnter hs) (Runtime.log_registerEnter hs))
  | configure hs hr hl =>
    exact hi.of_booked hl
      (hr ▸ .of_quiet (Runtime.registerConfigure_quietLog hs) (Runtime.registerConfigure_reclaimed hs).queuedFor_le)
  | stopper hs hr hl =>
    exact hi.of_booked hl (hr ▸ .of_frame (Runtime.channels_addNodeStopper hs) (Runtime.log_addNodeStopper hs))
  | store hr hl => exact hi.of_booked hl (hr ▸ .of_frame rfl rfl)
  | take hr hl => exact hi.of_booked hl (hr ▸ .of_frame rfl rfl)

theorem accounted_run {secs : List Section} (hi : σ.Accounted) (h : σ.run secs = some σ') : σ'.Accounted :=
  run_invariant accounted_step hi h

/-- The log falls behind the queues by no more than the writes in flight. Along every
    schedule from a fresh runtime, for every channel id, the `MessageDequeued` events
    the log records and the messages the channels with that id hold are together at
    most the `MessageEnqueued` events it records plus the threads between the block of
    a `channel_write` on that id and its log. With no such thread, the log accounts for
    every message, as in a sequential run. -/
theorem log_covers_in_flight {secs : List Section} (h : (init Runtime.fresh).run secs = some σ) (c : ChannelId) :
    σ.runtime.dequeuedEvents c + σ.runtime.queuedFor c ≤ σ.runtime.enqueuedEvents c + σ.inFlight c :=
  (accounted_run (accounted_init Runtime.audited_fresh.accounts) h).accounts c

/-- In the schedule of `dequeued_before_enqueued` the log holds a dequeue and no
    enqueue, and node 0's write is in flight. -/
theorem log_covers_in_flight_dequeueFirst :
    ∃ σ, run (init Runtime.fresh) dequeueFirst = some σ ∧
      σ.runtime.dequeuedEvents 0 + σ.runtime.queuedFor 0 ≤ σ.runtime.enqueuedEvents 0 + σ.inFlight 0 :=
  ⟨_, rfl, log_covers_in_flight (rfl : run (init Runtime.fresh) dequeueFirst = _) 0⟩

end Shared

end OakRuntime

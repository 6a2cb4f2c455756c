import OakRuntime.Journal

/-!
# The Log Introduces Every Node Before It Names It

`node_configure_instance` logs `NodeCreated` before it adds the node's record, and
asks (`TODO(#913)`) for a check that `NodeCreated` is always logged before any other
introspection event about the node. It is. After every run of calls from a fresh
runtime, every event that carries a node id (a handle created in or dropped from the
node's table, a message the node enqueued or dequeued, the node's destruction) is a
`NodeCreated` for that id or comes after one (`Runtime.nodeCreated_first`).

Every call logs events only about nodes that have a record, and every record came
with its `NodeCreated`: a registration logs the new node's `NodeCreated` before the
handle it installs for it. No bound on the node id counter is needed, since a record
that a reused id replaces had its own `NodeCreated` logged, and the new one is logged
again.

The same holds in every interleaving of the threads
(`Shared.nodeCreated_first_any_schedule`). A thread inside `channel_write` logs its
`MessageEnqueued` after other threads may have run, even `remove_node_id` of another
node; what it logs names the writer, which the log introduced before the block ran.

## Main definitions

* `EventDetails.nodeId`, `EventDetails.creates`: The node id an event carries, and
  whether it is that node's `NodeCreated`.
* `IntroducedAfter`: Every event with an id comes after the creation of that id.
* `Runtime.Introduced`: The invariant: the log introduces every node it names, and
  every record's `NodeCreated` is in the log.
* `Runtime.Within`: A change that logs events only about nodes with a record.
* `Shared.Introducing`: The invariant with the threads: also the events the threads
  inside `channel_write` are still to log name introduced nodes.

## Theorems

* `Runtime.Introduced.of_within`: Such a change keeps the invariant.
* `Runtime.nodeRegister_introduced`: So does a registration.
* `Runtime.introduced_step`, `Runtime.nodeCreated_first`: Every call, every run.
* `Shared.introducing_step`, `Shared.nodeCreated_first_any_schedule`: Every section,
  every schedule.
-/

namespace OakRuntime

namespace EventDetails

/-- The `node_id` field of an event; `ChannelCreated` has none. -/
def nodeId : EventDetails → Option UInt64
  | .channelCreated .. => none
  | .handleCreated n .. | .handleDestroyed n .. | .messageEnqueued n .. | .messageDequeued n ..
  | .nodeCreated n .. | .nodeDestroyed n => some n

/-- The event is the `NodeCreated` of node `n`. -/
def creates (n : UInt64) : EventDetails → Bool
  | .nodeCreated m .. => m == n
  | _ => false

theorem creates_iff {n : UInt64} {e : EventDetails} : e.creates n = true ↔ ∃ name l, e = .nodeCreated n name l := by
  cases e with
  | nodeCreated m name l =>
    simp only [creates, beq_iff_eq, nodeCreated.injEq]
    constructor
    · rintro rfl; exact ⟨name, l, rfl, rfl, rfl⟩
    · rintro ⟨_, _, rfl, -, -⟩; rfl
  | _ => simp [creates]

end EventDetails

section IntroducedAfter

variable (key : EventDetails → Option UInt64) (creates : UInt64 → EventDetails → Bool)

/-- Every event of `evs` whose `key` is an id is the event that `creates` that id, or
    comes after one, in `log` or earlier in `evs`. For nodes the key is the node id and
    the creation `NodeCreated`; for channels, the channel id and `ChannelCreated`. -/
def IntroducedAfter : List EventDetails → List EventDetails → Prop
  | _, [] => True
  | log, e :: evs => (∀ n, key e = some n → creates n e ∨ log.any (creates n)) ∧ IntroducedAfter (log ++ [e]) evs

theorem introducedAfter_append (log a b : List EventDetails) :
    IntroducedAfter key creates log (a ++ b) ↔
      IntroducedAfter key creates log a ∧ IntroducedAfter key creates (log ++ a) b := by
  induction a generalizing log with
  | nil => simp [IntroducedAfter]
  | cons e a ih => simp [IntroducedAfter, ih, and_assoc]

variable {key creates}

/-- Events about ids the log has introduced. -/
theorem IntroducedAfter.of_forall {log evs : List EventDetails}
    (h : ∀ e ∈ evs, ∀ n, key e = some n → log.any (creates n)) : IntroducedAfter key creates log evs := by
  induction evs generalizing log with
  | nil => trivial
  | cons e evs ih =>
    refine ⟨fun n hn => .inr (h e (List.mem_cons_self _ _) n hn), ih fun e' he' n hn => ?_⟩
    simp only [List.any_append, h e' (List.mem_cons_of_mem _ he') n hn, Bool.true_or]

/-- Where the log holds an event with an id, the event creates it or a creation of it
    comes before. -/
theorem IntroducedAfter.first {p q : List EventDetails} {e : EventDetails}
    (h : IntroducedAfter key creates [] (p ++ e :: q)) {n : UInt64} (hn : key e = some n) :
    creates n e ∨ ∃ e' ∈ p, creates n e' := by
  rw [introducedAfter_append] at h
  simpa using h.2.1 n hn

end IntroducedAfter

namespace Runtime

/-- The log introduces every node it names, and the `NodeCreated` of every node with a
    record is in the log. -/
structure Introduced (s : Runtime) : Prop where
  log : IntroducedAfter EventDetails.nodeId EventDetails.creates [] s.introspectionEventQueue
  records : ∀ m ∈ s.nodeInfos, s.introspectionEventQueue.any (·.creates m.val)

/-- `s'` extends the log of `s` by events about nodes with a record in `s`, and has no
    record that `s` lacks. -/
structure Within (s s' : Runtime) : Prop where
  log : ∃ evs, s'.introspectionEventQueue = s.introspectionEventQueue ++ evs ∧
    ∀ e ∈ evs, ∀ n, e.nodeId = some n → (⟨n⟩ : NodeId) ∈ s.nodeInfos
  records : ∀ m ∈ s'.nodeInfos, m ∈ s.nodeInfos

variable {s s' s₁ : Runtime}

theorem Introduced.of_within (hi : s.Introduced) (hw : Within s s') : s'.Introduced := by
  obtain ⟨evs, hl, he⟩ := hw.log
  refine ⟨?_, fun m hm => ?_⟩
  · rw [hl, introducedAfter_append]
    exact ⟨hi.log, .of_forall fun e hev n hn => by simpa using hi.records _ (he e hev n hn)⟩
  · rw [hl, List.any_append, hi.records m (hw.records m hm), Bool.true_or]

namespace Within

theorem of_eq (hl : s'.introspectionEventQueue = s.introspectionEventQueue) (hr : ∀ m ∈ s'.nodeInfos, m ∈ s.nodeInfos) :
    Within s s' :=
  ⟨⟨[], by simp [hl], by simp⟩, hr⟩

theorem refl (s : Runtime) : Within s s := .of_eq rfl fun _ => id

theorem trans (h₁ : Within s s₁) (h₂ : Within s₁ s') : Within s s' := by
  obtain ⟨e₁, hl₁, he₁⟩ := h₁.log
  obtain ⟨e₂, hl₂, he₂⟩ := h₂.log
  refine ⟨⟨e₁ ++ e₂, by rw [hl₂, hl₁, List.append_assoc], fun e he n hn => ?_⟩, fun m hm => h₁.records m (h₂.records m hm)⟩
  rcases List.mem_append.1 he with he | he
  · exact he₁ e he n hn
  · exact h₁.records _ (he₂ e he n hn)

/-- One more event, about a node with a record. -/
theorem introspectionEvent (h : Within s s') {e : EventDetails} (he : ∀ n, e.nodeId = some n → (⟨n⟩ : NodeId) ∈ s.nodeInfos) :
    Within s (s'.introspectionEvent e) := by
  obtain ⟨evs, hl, hev⟩ := h.log
  refine ⟨⟨evs ++ [e], by simp [Runtime.introspectionEvent, hl], fun e' he' n hn => ?_⟩, h.records⟩
  rcases List.mem_append.1 he' with he' | he'
  · exact hev e' he' n hn
  · rw [List.mem_singleton.1 he'] at hn; exact he n hn

theorem grows (h : Within s s') : s.introspectionEventQueue <+: s'.introspectionEventQueue :=
  let ⟨evs, hl, _⟩ := h.log
  ⟨evs, hl.symm⟩

end Within

theorem mem_of_lookup_map {α : Type} {f : NodeInfo → α} {m : NodeId}
    (h : (s'.nodeInfos.lookup m).map f = (s.nodeInfos.lookup m).map f) (hm : m ∈ s'.nodeInfos) : m ∈ s.nodeInfos := by
  rw [← AList.lookup_isSome] at hm ⊢
  have := congrArg Option.isSome h
  simp only [Option.isSome_map'] at this
  exact this ▸ hm

end Runtime

theorem EventDetails.nodeId_of_mem_zipWith {n : UInt64} {g : ChannelHalf → ChannelId} {hs : List Handle}
    {halves : List ChannelHalf} {e : EventDetails}
    (he : e ∈ List.zipWith (fun h half => EventDetails.handleCreated n h (g half) half.direction) hs halves) :
    e.nodeId = some n ∧ ∃ h, h ∈ hs := by
  induction hs generalizing halves with
  | nil => simp at he
  | cons h hs ih =>
    cases halves with
    | nil => simp at he
    | cons half halves =>
      rcases List.mem_cons.1 he with rfl | he
      · exact ⟨rfl, h, List.mem_cons_self _ _⟩
      · obtain ⟨e₁, h', hh'⟩ := ih he
        exact ⟨e₁, h', List.mem_cons_of_mem _ hh'⟩

/-- Installing handles logs `HandleCreated` events about the node whose table takes
    them, which has a record. -/
theorem Installed.within {s s' : Runtime} {n : NodeId} {hs : List Handle} {halves : List ChannelHalf}
    (hi : Installed s s' n hs halves) : Runtime.Within s s' := by
  refine ⟨⟨_, hi.events, fun e he m hm => ?_⟩,
    fun m => Runtime.mem_of_lookup_map (hi.map_lookup (fun _ => ()) (fun _ _ => rfl) m)⟩
  obtain ⟨he, h, hh⟩ := EventDetails.nodeId_of_mem_zipWith he
  obtain ⟨ni, hni, -⟩ := hi.fresh h hh
  obtain rfl := Option.some.inj (hm.symm.trans he)
  exact AList.lookup_isSome.1 (by rw [hni]; rfl)

namespace Runtime

variable {s s' : Runtime}

theorem DropStep.within {n : NodeId} {handle : Handle} {ni : NodeInfo} {half : ChannelHalf}
    (hd : s.DropStep s' n handle ni half) : Within s s' := by
  refine ⟨⟨_, hd.events, fun e he m hm => ?_⟩, fun m => mem_of_lookup_map (hd.map_lookup (fun _ => ()) (fun _ _ => rfl) m)⟩
  rw [List.mem_singleton.1 he] at hm
  cases hm
  exact AList.lookup_isSome.1 (by rw [hd.lookup_node]; rfl)

theorem closeHandles_within {n : NodeId} {hs : List Handle} (s : Runtime) (h : closeHandles n s hs = some s') :
    Within s s' := by
  induction hs generalizing s with
  | nil => cases h; exact .refl _
  | cons handle hs ih =>
    simp only [closeHandles] at h
    split at h
    · obtain ⟨ni, half, hd⟩ := dropAbiHandle_ok ‹_›
      exact hd.within.trans (ih _ h)
    · cases h

/-- `remove_node_id` logs the `HandleDestroyed` of each handle it closes, and then the
    node's `NodeDestroyed`, all about a node with a record. -/
theorem removeNodeId_within {n : NodeId} (h : s.removeNodeId n = some s') : Within s s' := by
  obtain ⟨ni, s₁, hni, h₁, -, rfl⟩ := removeNodeId_sections h
  have hw : Within s₁ (({ s₁ with nodeInfos := s₁.nodeInfos.erase n } : Runtime).updateNodesCountMetric ni.nodeType
      (-1)) := .of_eq rfl fun m hm => (AList.mem_erase.1 hm).2
  refine ((closeHandles_within s h₁).trans hw).introspectionEvent fun m hm => ?_
  cases hm
  exact AList.lookup_isSome.1 (by rw [hni]; rfl)

theorem mem_of_channelWriteBlock {n : NodeId} {k : Handle} {nm : NodeMessage} {d : Downgrading}
    {x : ChannelHalf × Except OakStatus Unit × EventDetails} (h : s.channelWriteBlock n k nm d = some (.ok x, s')) :
    n ∈ s.nodeInfos := by
  unfold channelWriteBlock at h
  obtain ⟨e, -, he, -⟩ | ⟨half, hhalf, -⟩ := checked_eq_some h
  · cases he
  obtain ⟨ni, hni, -⟩ := lookupHandle_eq_some.1 (abiToWriteHalf_eq_ok.1 hhalf).1
  exact AList.lookup_isSome.1 (by rw [hni]; rfl)

theorem within_setQueue (c : Nat) (q : List Message) : Within s (s.setQueue c q) := .of_eq rfl fun _ => id

theorem channelWriteBlock_within {n : NodeId} {k : Handle} {nm : NodeMessage} {d : Downgrading}
    {r : Except OakStatus (ChannelHalf × Except OakStatus Unit × EventDetails)}
    (hb : s.channelWriteBlock n k nm d = some (r, s')) : Within s s' := by
  rcases channelWriteBlock_spec hb with ⟨e, rfl, rfl⟩ | ⟨half, res, rfl, rfl | ⟨ch, m, -, rfl⟩⟩
  exacts [.refl _, .refl _, within_setQueue _ _]

/-- A write logs its `MessageEnqueued` only once its checks found the writer's handle. -/
theorem channelWrite_within {n : NodeId} {k : Handle} {nm : NodeMessage} {d : Downgrading} {o : Outcome}
    (h : s.step (.channelWrite n k nm d) = some (o, s')) : Within s s' := by
  simp only [step, channelWrite_eq_block, Option.map_map] at h
  obtain ⟨⟨r, s₁⟩, hb, he⟩ := Option.map_eq_some'.1 h
  cases he
  rcases channelWriteBlock_spec hb with ⟨e, rfl, rfl⟩ | ⟨half, res, rfl, -⟩
  · exact .refl _
  refine Within.introspectionEvent (channelWriteBlock_within hb) fun _ hm => ?_
  cases hm
  exact mem_of_channelWriteBlock hb

/-- `node_configure_instance` logs the `NodeCreated` of the record it adds. -/
theorem Introduced.nodeConfigureInstance (hi : s.Introduced) (m : NodeId) (t name : String) (l : Label)
    (p : NodePrivilege) : (s.nodeConfigureInstance m t name l p).Introduced := by
  have hl : (s.nodeConfigureInstance m t name l p).introspectionEventQueue =
      s.introspectionEventQueue ++ [.nodeCreated m.val name l] := rfl
  refine ⟨?_, fun m' hm' => ?_⟩
  · rw [hl, introducedAfter_append]
    exact ⟨hi.log, fun n hn => .inl (by cases hn; simp [EventDetails.creates]), trivial⟩
  · rw [hl, List.any_append]
    rcases (AList.mem_insert _).1 hm' with rfl | hm'
    · simp [EventDetails.creates]
    · rw [hi.records m' hm', Bool.true_or]

theorem mem_addNodeStopper {m : NodeId} {st : NodeStopper} (h : s.addNodeStopper m st = some s') :
    ∀ m' ∈ s'.nodeInfos, m' ∈ s.nodeInfos := by
  unfold addNodeStopper at h
  split at h
  · cases h; exact fun _ => id
  rename_i ni hni
  split at h
  · cases h
    intro m' hm'
    rcases (AList.mem_insert _).1 hm' with rfl | hm'
    · exact AList.lookup_isSome.1 (by rw [hni]; rfl)
    · exact hm'
  · cases h

theorem registerEnter_within {n : NodeId} {cr : CreatedNode} {l : Label} {k : Handle} {d : Downgrading}
    {r : Except OakStatus (ChannelHalf × NodeId)} (h : s.registerEnter n cr l k d = some (r, s')) : Within s s' := by
  refine .of_eq (log_registerEnter h) ?_
  unfold registerEnter checked at h
  repeat' split at h <;> try cases h <;> exact fun _ => id

/-- `node_configure_instance` and the handle of the new node: its `NodeCreated`, then its
    handle's `HandleCreated`. A record the id still had is replaced. -/
theorem Introduced.registerConfigure {m : NodeId} {cr : CreatedNode} {name : String} {l : Label}
    {reader : ChannelHalf} {rng : List Handle} (hi : s.Introduced)
    (h : s.registerConfigure m cr name l reader rng = some s') : s'.Introduced := by
  unfold Runtime.registerConfigure at h
  split at h
  · cases h
  rename_i hn
  cases h
  have h₁ := (hi.nodeConfigureInstance _ _ _ _ _).of_within (newAbiHandle_installed hn).within
  split
  · exact h₁.of_within (.of_eq (by simp) fun _ hm => by simpa using hm)
  · exact h₁

theorem nodeRegister_introduced {p : NodeId} {cr : CreatedNode} {name : String} {label : Label} {k : Handle}
    {d : Downgrading} {rng : List Handle} {r : Except OakStatus Unit} (hi : s.Introduced)
    (h : s.nodeRegister p cr name label k d rng = some (r, s')) : s'.Introduced := by
  rcases r with _ | ⟨⟩
  · rw [nodeRegister_error h]; exact hi
  obtain ⟨reader, m, s₁, s₂, he, hcf, hadd⟩ := nodeRegister_ok_sections h
  exact ((hi.of_within (registerEnter_within he)).registerConfigure hcf).of_within
    (.of_eq (log_addNodeStopper hadd) (mem_addNodeStopper hadd))

theorem within_storeTerminating (s : Runtime) : Within s s.storeTerminating := .of_eq rfl fun _ => id

theorem within_takeStoppers (s : Runtime) : Within s s.takeStoppers :=
  .of_eq rfl fun m => mem_of_lookup_map (f := fun _ => ()) (by
    rw [show s.takeStoppers.nodeInfos = s.stop.nodeInfos from rfl, lookup_stop, Option.map_map])

variable {call : Call} {o : Outcome}

/-- Every call keeps the log introducing every node it names. -/
theorem introduced_step (h : s.step call = some (o, s')) (hi : s.Introduced) : s'.Introduced := by
  cases change_of_step h with
  | same => exact hi
  | wrote hw => exact hi.of_within (channelWrite_within hw)
  | created hins =>
    refine hi.of_within (.trans (.introspectionEvent (.of_eq ?_ ?_) fun _ hm => by cases hm) hins.within)
    exacts [rfl, fun _ => id]
  | cloned _ hins => exact hi.of_within hins.within
  | read hr =>
    obtain ⟨s₁, hins, rfl⟩ := hr.post
    refine hi.of_within (.introspectionEvent ((within_setQueue _ _).trans hins.within) fun _ hm => ?_)
    cases hm
    exact AList.lookup_isSome.1 (by rw [hr.lookup_node]; rfl)
  | closed hd => exact hi.of_within hd.within
  | registered hr _ => exact nodeRegister_introduced hi hr
  | removed hr _ => exact hi.of_within (removeNodeId_within hr)
  | stopped => exact hi.of_within ((within_storeTerminating s).trans (within_takeStoppers _))

theorem introduced_fresh : fresh.Introduced where
  log := by
    show IntroducedAfter EventDetails.nodeId EventDetails.creates [] [.nodeCreated 0 "implicit.initial" Label.publicUntrusted]
    exact ⟨fun n hn => .inl (by cases hn; rfl), trivial⟩
  records m hm := by
    rw [AList.mem_keys, show fresh.nodeInfos.keys = [⟨0⟩] from rfl, List.mem_singleton] at hm
    subst hm; rfl

/-- What the invariant says of the log: every event with a node id is that node's
    `NodeCreated` or comes after one. -/
theorem Introduced.first (hi : s.Introduced) :
    ∀ p e q, s.introspectionEventQueue = p ++ e :: q → ∀ n, e.nodeId = some n →
      (∃ name l, e = .nodeCreated n name l) ∨ ∃ name l, .nodeCreated n name l ∈ p := by
  intro p e q hl n hn
  rcases (hl ▸ hi.log).first hn with he | ⟨e', he', hc⟩
  · exact .inl (EventDetails.creates_iff.1 he)
  · obtain ⟨name, l, rfl⟩ := EventDetails.creates_iff.1 hc
    exact .inr ⟨name, l, he'⟩

/-- The log introduces every node before it names it. After every run from a fresh
    runtime, every event of the log that carries a node id is the `NodeCreated` of that
    node or has a `NodeCreated` of that node before it. -/
theorem nodeCreated_first {calls : List Call} {ts : List Transition} (h : fresh.run calls = some (ts, s')) :
    ∀ p e q, s'.introspectionEventQueue = p ++ e :: q → ∀ n, e.nodeId = some n →
      (∃ name l, e = .nodeCreated n name l) ∨ ∃ name l, .nodeCreated n name l ∈ p :=
  (run_invariant h (fun _ ht => introduced_step (step_of_mem_run h ht)) introduced_fresh).2.first

theorem nodeCreated_first_handleCalls :
    ∃ ts s', fresh.run handleCalls = some (ts, s') ∧
      ∀ p e q, s'.introspectionEventQueue = p ++ e :: q → ∀ n, e.nodeId = some n →
        (∃ name l, e = .nodeCreated n name l) ∨ ∃ name l, .nodeCreated n name l ∈ p :=
  ⟨_, _, rfl, nodeCreated_first (rfl : fresh.run handleCalls = _)⟩

end Runtime


/-! ### Threads -/

namespace Runtime

variable {s s' : Runtime}

theorem creates_of_prefix {l₁ l₂ : List EventDetails} (hp : l₁ <+: l₂) {n : UInt64} (h : l₁.any (·.creates n)) :
    l₂.any (·.creates n) := by
  obtain ⟨evs, rfl⟩ := hp
  rw [List.any_append, h, Bool.true_or]

/-- A thread logs the event of its write once its block has run: the node it names has
    been introduced, with or without a record left. -/
theorem Introduced.introspectionEvent (hi : s.Introduced) {e : EventDetails}
    (he : ∀ n, e.nodeId = some n → s.introspectionEventQueue.any (·.creates n)) :
    (s.introspectionEvent e).Introduced := by
  refine ⟨?_, fun m hm => creates_of_prefix (List.prefix_append _ [e]) (hi.records m hm)⟩
  show IntroducedAfter EventDetails.nodeId EventDetails.creates [] (s.introspectionEventQueue ++ [e])
  rw [introducedAfter_append]
  exact ⟨hi.log, fun n hn => .inr (by simpa using he n hn), trivial⟩

theorem log_grows_step {call : Call} {o : Outcome} (h : s.step call = some (o, s')) :
    s.introspectionEventQueue <+: s'.introspectionEventQueue := by
  obtain ⟨evs, -, hl | ⟨e, hl⟩⟩ := (booked_step h).log <;> rw [hl]
  · exact List.prefix_append _ _
  · exact (List.prefix_append _ evs).trans (List.prefix_append _ [e])

end Runtime

namespace Shared

variable {σ σ' : Shared} {o : Option Outcome}

/-- The log introduces every node it names, and so does the event each thread inside
    `channel_write` is still to log. -/
structure Introducing (σ : Shared) : Prop where
  runtime : σ.runtime.Introduced
  logging : ∀ l ∈ σ.logging, ∀ n, l.event.nodeId = some n → σ.runtime.introspectionEventQueue.any (·.creates n)

theorem introducing_init {s : Runtime} (hs : s.Introduced) : (init s).Introducing :=
  ⟨hs, fun _ h => absurd h (List.not_mem_nil _)⟩

/-- A section that keeps the runtime's invariant, only appends to the log, and starts
    no write. -/
theorem Introducing.of_runtime (hi : σ.Introducing) (hr : σ'.runtime.Introduced)
    (hp : σ.runtime.introspectionEventQueue <+: σ'.runtime.introspectionEventQueue)
    (hl : ∀ l ∈ σ'.logging, l ∈ σ.logging) : σ'.Introducing :=
  ⟨hr, fun l hm n hn => Runtime.creates_of_prefix hp (hi.logging l (hl l hm) n hn)⟩

theorem Introducing.of_within (hi : σ.Introducing) (hw : σ.runtime.Within σ'.runtime)
    (hl : ∀ l ∈ σ'.logging, l ∈ σ.logging) : σ'.Introducing :=
  hi.of_runtime (hi.runtime.of_within hw) hw.grows hl

theorem Introducing.of_eq (hi : σ.Introducing) (hr : σ'.runtime = σ.runtime) (hl : σ'.logging = σ.logging) :
    σ'.Introducing :=
  hi.of_within (hr ▸ .refl _) (hl ▸ fun _ => id)

/-- The block of a write: the event the thread is to log names the writer, which has a
    record. -/
theorem Introducing.writeBlock {n : NodeId} {k : Handle} {nm : NodeMessage} {d : Downgrading} {half : ChannelHalf}
    {res : Except OakStatus Unit} {e : EventDetails} {s' : Runtime} (hi : σ.Introducing)
    (hb : σ.runtime.channelWriteBlock n k nm d = some (.ok (half, res, e), s')) (hr : σ'.runtime = s')
    (hl : σ'.logging = σ.logging ++ [⟨n, res, e⟩]) : σ'.Introducing := by
  obtain ⟨_, _, he, -⟩ := (Runtime.channelWriteBlock_spec hb).resolve_left fun ⟨_, h, _⟩ => by cases h
  obtain ⟨-, -, rfl⟩ := Prod.mk.inj_iff.1 (Prod.mk.inj_iff.1 (Except.ok.inj he)).2
  have hs : σ.runtime.Within σ'.runtime := hr ▸ Runtime.channelWriteBlock_within hb
  refine ⟨hi.runtime.of_within hs, fun l hm m hn => Runtime.creates_of_prefix hs.grows ?_⟩
  rw [hl, List.mem_append, List.mem_singleton] at hm
  rcases hm with hm | rfl
  · exact hi.logging l hm m hn
  · cases hn
    exact hi.runtime.records n (Runtime.mem_of_channelWriteBlock hb)

/-- A thread logs the enqueue of its write. -/
theorem Introducing.log {n : NodeId} {l : Logging} (hi : σ.Introducing) (hf : σ.logging.find? (·.nodeId == n) = some l)
    (hr : σ'.runtime = σ.runtime.introspectionEvent l.event) (hl : σ'.logging = σ.logging.filter (·.nodeId != n)) :
    σ'.Introducing :=
  hi.of_runtime (hr ▸ hi.runtime.introspectionEvent (hi.logging l (List.mem_of_find?_eq_some hf)))
    (hr ▸ List.prefix_append _ _) fun _ hm => List.mem_of_mem_filter (hl ▸ hm)

/-- Every section keeps the invariant. -/
theorem introducing_step {sec : Section} (hi : σ.Introducing) (h : σ.step sec = some (o, σ')) : σ'.Introducing := by
  cases sectionEffect_of_step h with
  | idle hr hl => exact hi.of_eq hr hl
  | whole hs hr hl =>
    exact hi.of_runtime (hr ▸ Runtime.introduced_step hs hi.runtime) (hr ▸ Runtime.log_grows_step hs) (hl ▸ fun _ => id)
  | block _ hb hr hl => exact hi.writeBlock hb hr hl
  | log hf hr hl => exact hi.log hf hr hl
  | enter hs hr hl => exact hi.of_within (hr ▸ Runtime.registerEnter_within hs) (hl ▸ fun _ => id)
  | configure hs hr hl =>
    obtain ⟨evs, he, -⟩ := Runtime.registerConfigure_quietLog hs
    exact hi.of_runtime (hr ▸ hi.runtime.registerConfigure hs) (by simp [hr, he]) (hl ▸ fun _ => id)
  | stopper hs hr hl =>
    exact hi.of_within (hr ▸ .of_eq (Runtime.log_addNodeStopper hs) (Runtime.mem_addNodeStopper hs))
      (hl ▸ fun _ => id)
  | store hr hl => exact hi.of_within (hr ▸ Runtime.within_storeTerminating _) (hl ▸ fun _ => id)
  | take hr hl => exact hi.of_within (hr ▸ Runtime.within_takeStoppers _) (hl ▸ fun _ => id)

/-- The log introduces every node before it names it, in every interleaving of the
    threads. Along every schedule from a fresh runtime, every event of the log that
    carries a node id is that node's `NodeCreated` or has one before it, though a
    write logs its `MessageEnqueued` sections after its block, and a registration
    logs the new node's `NodeCreated` sections after it took the id. -/
theorem nodeCreated_first_any_schedule {secs : List Section} (h : (init Runtime.fresh).run secs = some σ) :
    ∀ p e q, σ.runtime.introspectionEventQueue = p ++ e :: q → ∀ n, e.nodeId = some n →
      (∃ name l, e = .nodeCreated n name l) ∨ ∃ name l, .nodeCreated n name l ∈ p :=
  (run_invariant introducing_step (introducing_init Runtime.introduced_fresh) h).runtime.first

/-- The schedule of `dequeued_before_enqueued`, whose log holds node 1's dequeue and
    not yet node 0's enqueue. -/
theorem nodeCreated_first_dequeueFirst :
    ∃ σ, run (init Runtime.fresh) dequeueFirst = some σ ∧
      ∀ p e q, σ.runtime.introspectionEventQueue = p ++ e :: q → ∀ n, e.nodeId = some n →
        (∃ name l, e = .nodeCreated n name l) ∨ ∃ name l, .nodeCreated n name l ∈ p :=
  ⟨_, rfl, nodeCreated_first_any_schedule (rfl : run (init Runtime.fresh) dequeueFirst = _)⟩

end Shared

end OakRuntime

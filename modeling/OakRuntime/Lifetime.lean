import OakRuntime.Lifecycle

/-!
# The Log Journals the Live Nodes

`node_configure_instance` logs `NodeCreated` as it adds a node's record, and
`remove_node_id` logs `NodeDestroyed` as it removes one; no other code adds or removes a
record. Read in order, these events say which nodes are alive: a node is alive after a
log when its last `NodeCreated` or `NodeDestroyed` is a `NodeCreated`.

After every run of calls from a fresh runtime, a node id has a record exactly when the
log says it is alive (`Runtime.records_iff_live`), and every event that carries a node
id is that node's `NodeCreated` or is logged while the node is alive
(`Runtime.events_within_lifetime`): nothing is logged about a node after its
`NodeDestroyed` until a new `NodeCreated`. This sharpens `Runtime.nodeCreated_first`,
which only asks for some `NodeCreated` before the event. No bound on the node id counter
is needed: a registration that reuses the id of a live node logs a second `NodeCreated`
and replaces the record, and the node stays alive in both.

## Main definitions

* `EventDetails.lifecycle`: What an event does to a node's lifetime.
* `EventDetails.quiet`: The event is neither a `NodeCreated` nor a `NodeDestroyed`.
* `isLive`: A node is alive after a log.
* `LiveAfter`: Every event with a node id is logged while that node is alive, or
  creates it.
* `Runtime.Steady`: A change that logs only quiet events about nodes with a record,
  and keeps every record.
* `Runtime.Living`: The invariant: the log is `LiveAfter`, and the records are the
  live nodes.

## Theorems

* `isLive_iff`: A live node's last lifecycle event is a `NodeCreated`.
* `Runtime.Living.of_steady`: A steady change keeps the invariant.
* `Runtime.Living.nodeConfigureInstance`, `Runtime.Living.nodeDestroyed`: The two
  changes that start and end a lifetime keep it.
* `Runtime.living_step`, `Runtime.living_run`: Every call, every run.
* `Runtime.events_within_lifetime`, `Runtime.records_iff_live`: What the invariant
  says after every run.
-/

namespace OakRuntime

theorem List.exists_of_mem_zipWith {α β γ : Type} {f : α → β → γ} {e : γ} :
    ∀ {as : List α} {bs : List β}, e ∈ List.zipWith f as bs → ∃ a ∈ as, ∃ b ∈ bs, e = f a b
  | [], _, he => by simp at he
  | _ :: _, [], he => by simp at he
  | a :: as, b :: bs, he => by
    rcases List.mem_cons.1 he with rfl | he
    · exact ⟨a, List.mem_cons_self _ _, b, List.mem_cons_self _ _, rfl⟩
    · obtain ⟨a', ha', b', hb', rfl⟩ := List.exists_of_mem_zipWith he
      exact ⟨a', List.mem_cons_of_mem _ ha', b', List.mem_cons_of_mem _ hb', rfl⟩

theorem NodeId.val_inj {a b : NodeId} : a.val = b.val ↔ a = b :=
  ⟨fun h => by cases a; cases b; cases h; rfl, congrArg _⟩

namespace EventDetails

/-- What an event does to node `n`'s lifetime: its `NodeCreated` starts one
    (`some true`), its `NodeDestroyed` ends it (`some false`), any other event leaves it
    as it is. -/
def lifecycle (n : UInt64) : EventDetails → Option Bool
  | .nodeCreated m .. => if m = n then some true else none
  | .nodeDestroyed m => if m = n then some false else none
  | _ => none

/-- Neither a `NodeCreated` nor a `NodeDestroyed`. -/
def quiet : EventDetails → Bool
  | .nodeCreated .. | .nodeDestroyed .. => false
  | _ => true

theorem lifecycle_of_quiet {e : EventDetails} (h : e.quiet = true) (n : UInt64) : e.lifecycle n = none := by
  cases e <;> first | rfl | cases h

end EventDetails

/-- Node `n` is alive after the log: the last of its `NodeCreated` and `NodeDestroyed`
    events is a `NodeCreated`. -/
def isLive (log : List EventDetails) (n : UInt64) : Bool :=
  log.foldl (fun a e => (e.lifecycle n).getD a) false

@[simp]
theorem isLive_nil (n : UInt64) : isLive [] n = false := rfl

theorem isLive_concat (log : List EventDetails) (e : EventDetails) (n : UInt64) :
    isLive (log ++ [e]) n = (e.lifecycle n).getD (isLive log n) := by
  simp [isLive, List.foldl_append]

theorem isLive_nodeCreated (log : List EventDetails) (m n : UInt64) (name : String) (l : Label) :
    isLive (log ++ [.nodeCreated m name l]) n = (m == n || isLive log n) := by
  rw [isLive_concat]
  by_cases h : m = n <;> simp [h, EventDetails.lifecycle]

theorem isLive_nodeDestroyed (log : List EventDetails) (m n : UInt64) :
    isLive (log ++ [.nodeDestroyed m]) n = (m != n && isLive log n) := by
  rw [isLive_concat]
  by_cases h : m = n <;> simp [h, EventDetails.lifecycle]

/-- Quiet events leave every lifetime as it is. -/
theorem isLive_append_quiet {log evs : List EventDetails} (h : ∀ e ∈ evs, e.quiet = true) (n : UInt64) :
    isLive (log ++ evs) n = isLive log n := by
  induction evs using List.reverseRecOn with
  | nil => rw [List.append_nil]
  | append_singleton evs e ih =>
    rw [← List.append_assoc, isLive_concat, EventDetails.lifecycle_of_quiet (h e (by simp)), Option.getD_none,
      ih fun e' he' => h e' (by simp [he'])]

theorem List.append_singleton_eq_append_cons {α : Type} {log p₁ p₂ : List α} {e c : α}
    (h : log ++ [e] = p₁ ++ c :: p₂) : p₂ = [] ∧ log = p₁ ∧ e = c ∨ ∃ p, p₂ = p ++ [e] ∧ log = p₁ ++ c :: p := by
  rcases List.eq_nil_or_concat p₂ with rfl | ⟨p, x, rfl⟩
  · obtain ⟨rfl, he⟩ := List.append_inj' h rfl
    exact .inl ⟨rfl, rfl, (List.cons.inj he).1⟩
  · rw [List.concat_eq_append, show p₁ ++ c :: (p ++ [x]) = (p₁ ++ c :: p) ++ [x] by simp] at h
    obtain ⟨rfl, he⟩ := List.append_inj' h rfl
    exact .inr ⟨p, by rw [List.concat_eq_append, (List.cons.inj he).1], rfl⟩

/-- The log has a `NodeCreated` for `n` with no `NodeDestroyed` for `n` after it. -/
theorem createdSince_concat {log : List EventDetails} {e : EventDetails} {n : UInt64} :
    (∃ p₁ p₂ name l, log ++ [e] = p₁ ++ .nodeCreated n name l :: p₂ ∧ .nodeDestroyed n ∉ p₂) ↔
      (∃ name l, e = .nodeCreated n name l) ∨
        e ≠ .nodeDestroyed n ∧ ∃ p₁ p₂ name l, log = p₁ ++ .nodeCreated n name l :: p₂ ∧ .nodeDestroyed n ∉ p₂ := by
  constructor
  · rintro ⟨p₁, p₂, name, l, he, hd⟩
    rcases List.append_singleton_eq_append_cons he with ⟨-, -, rfl⟩ | ⟨p, rfl, rfl⟩
    · exact .inl ⟨name, l, rfl⟩
    · simp only [List.mem_append, List.mem_singleton, not_or] at hd
      exact .inr ⟨Ne.symm hd.2, p₁, p, name, l, rfl, hd.1⟩
  · rintro (⟨name, l, rfl⟩ | ⟨hne, p₁, p₂, name, l, rfl, hd⟩)
    · exact ⟨log, [], name, l, rfl, List.not_mem_nil _⟩
    · exact ⟨p₁, p₂ ++ [e], name, l, by simp, by simp [hd, Ne.symm hne]⟩

/-- A node is alive after a log exactly when the log has a `NodeCreated` for it with no
    `NodeDestroyed` for it after. -/
theorem isLive_iff (log : List EventDetails) (n : UInt64) :
    isLive log n = true ↔
      ∃ p₁ p₂ name l, log = p₁ ++ .nodeCreated n name l :: p₂ ∧ .nodeDestroyed n ∉ p₂ := by
  induction log using List.reverseRecOn with
  | nil => simp
  | append_singleton log e ih =>
    rw [isLive_concat, createdSince_concat, ← ih]
    cases e
    case nodeCreated m name l =>
      by_cases hm : m = n
      · subst hm; simp [EventDetails.lifecycle]
      · simp [EventDetails.lifecycle, hm]
    case nodeDestroyed m =>
      by_cases hm : m = n
      · subst hm; simp [EventDetails.lifecycle]
      · simp [EventDetails.lifecycle, hm]
    all_goals simp [EventDetails.lifecycle]

/-- Every event with a node id is logged while that node is alive, or starts its
    lifetime, after the events `log` already holds. -/
def LiveAfter : List EventDetails → List EventDetails → Prop
  | _, [] => True
  | log, e :: evs => (∀ n, e.nodeId = some n → e.creates n ∨ isLive log n) ∧ LiveAfter (log ++ [e]) evs

theorem liveAfter_append (log a b : List EventDetails) :
    LiveAfter log (a ++ b) ↔ LiveAfter log a ∧ LiveAfter (log ++ a) b := by
  induction a generalizing log with
  | nil => simp [LiveAfter]
  | cons e a ih => simp [LiveAfter, ih, and_assoc]

/-- Quiet events about nodes alive before them. -/
theorem LiveAfter.of_quiet {log evs : List EventDetails}
    (h : ∀ e ∈ evs, e.quiet = true ∧ ∀ n, e.nodeId = some n → isLive log n) : LiveAfter log evs := by
  induction evs generalizing log with
  | nil => trivial
  | cons e evs ih =>
    refine ⟨fun n hn => .inr ((h e (List.mem_cons_self _ _)).2 n hn), ih fun e' he' => ?_⟩
    refine ⟨(h e' (List.mem_cons_of_mem _ he')).1, fun n hn => ?_⟩
    rw [isLive_append_quiet (fun x hx => by rw [List.mem_singleton.1 hx]; exact (h e (List.mem_cons_self _ _)).1)]
    exact (h e' (List.mem_cons_of_mem _ he')).2 n hn

namespace Runtime

variable {s s₁ s' : Runtime}

/-- A change that logs only quiet events, about nodes with a record, and keeps every
    record. -/
structure Steady (s s' : Runtime) : Prop where
  within : Within s s'
  keeps : ∀ m ∈ s.nodeInfos, m ∈ s'.nodeInfos
  quiet : ∃ evs, s'.introspectionEventQueue = s.introspectionEventQueue ++ evs ∧ ∀ e ∈ evs, e.quiet = true

/-- The log is `LiveAfter`, and a node has a record exactly when it is alive. -/
structure Living (s : Runtime) : Prop where
  log : LiveAfter [] s.introspectionEventQueue
  records : ∀ m : NodeId, m ∈ s.nodeInfos ↔ isLive s.introspectionEventQueue m.val = true

theorem Living.of_steady (hi : s.Living) (hs : Steady s s') : s'.Living := by
  obtain ⟨evs, hl, hq⟩ := hs.quiet
  obtain ⟨evs', hl', he⟩ := hs.within.log
  obtain rfl : evs' = evs := List.append_cancel_left (hl'.symm.trans hl)
  refine ⟨?_, fun m => ?_⟩
  · rw [hl, liveAfter_append]
    exact ⟨hi.log, .of_quiet fun e he' => ⟨hq e he', fun n hn => by simpa using (hi.records _).1 (he e he' n hn)⟩⟩
  · rw [hl, isLive_append_quiet hq, ← hi.records]
    exact ⟨hs.within.records m, hs.keeps m⟩

namespace Steady

theorem of_eq (hl : s'.introspectionEventQueue = s.introspectionEventQueue) (hr : ∀ m, m ∈ s'.nodeInfos ↔ m ∈ s.nodeInfos) :
    Steady s s' :=
  ⟨.of_eq hl fun m => (hr m).1, fun m => (hr m).2, ⟨[], by simp [hl], by simp⟩⟩

theorem refl (s : Runtime) : Steady s s := .of_eq rfl fun _ => Iff.rfl

theorem trans (h₁ : Steady s s₁) (h₂ : Steady s₁ s') : Steady s s' := by
  obtain ⟨e₁, hl₁, hq₁⟩ := h₁.quiet
  obtain ⟨e₂, hl₂, hq₂⟩ := h₂.quiet
  refine ⟨h₁.within.trans h₂.within, fun m hm => h₂.keeps m (h₁.keeps m hm), e₁ ++ e₂,
    by rw [hl₂, hl₁, List.append_assoc], fun e he => ?_⟩
  rcases List.mem_append.1 he with he | he
  exacts [hq₁ e he, hq₂ e he]

/-- One more quiet event, about a node with a record. -/
theorem introspectionEvent (h : Steady s s') {e : EventDetails} (hq : e.quiet = true)
    (he : ∀ n, e.nodeId = some n → (⟨n⟩ : NodeId) ∈ s.nodeInfos) : Steady s (s'.introspectionEvent e) := by
  obtain ⟨evs, hl, hqs⟩ := h.quiet
  refine ⟨h.within.introspectionEvent he, h.keeps, evs ++ [e], by simp [Runtime.introspectionEvent, hl],
    fun e' he' => ?_⟩
  rcases List.mem_append.1 he' with he' | he'
  · exact hqs e' he'
  · rw [List.mem_singleton.1 he']; exact hq

end Steady

theorem steady_of_lookup_map {α : Type} {f : NodeInfo → α} (hw : Within s s')
    (h : ∀ m, (s'.nodeInfos.lookup m).map f = (s.nodeInfos.lookup m).map f)
    (hq : ∃ evs, s'.introspectionEventQueue = s.introspectionEventQueue ++ evs ∧ ∀ e ∈ evs, e.quiet = true) :
    Steady s s' :=
  ⟨hw, fun m => mem_of_lookup_map (h m).symm, hq⟩

end Runtime

theorem Installed.steady {s s' : Runtime} {n : NodeId} {hs : List Handle} {halves : List ChannelHalf}
    (hi : Installed s s' n hs halves) : Runtime.Steady s s' :=
  Runtime.steady_of_lookup_map hi.within (hi.map_lookup (fun _ => ()) fun _ _ => rfl) ⟨_, hi.events, fun e he => by
    obtain ⟨h, -, half, -, rfl⟩ := List.exists_of_mem_zipWith he
    rfl⟩

namespace Runtime

variable {s s' : Runtime}

theorem DropStep.steady {n : NodeId} {handle : Handle} {ni : NodeInfo} {half : ChannelHalf}
    (hd : s.DropStep s' n handle ni half) : Steady s s' :=
  steady_of_lookup_map hd.within (hd.map_lookup (fun _ => ()) fun _ _ => rfl)
    ⟨_, hd.events, fun e he => by rw [List.mem_singleton.1 he]; rfl⟩

theorem closeHandles_steady {n : NodeId} {hs : List Handle} (s : Runtime) (h : closeHandles n s hs = some s') :
    Steady s s' := by
  induction hs generalizing s with
  | nil => cases h; exact .refl _
  | cons handle hs ih =>
    simp only [closeHandles] at h
    split at h
    · obtain ⟨ni, half, hd⟩ := dropAbiHandle_ok ‹_›
      exact hd.steady.trans (ih _ h)
    · cases h

theorem steady_setQueue (c : Nat) (q : List Message) : Steady s (s.setQueue c q) := .of_eq rfl fun _ => Iff.rfl

theorem channelWriteBlock_steady {n : NodeId} {k : Handle} {nm : NodeMessage} {d : Downgrading}
    {r : Except OakStatus (ChannelHalf × Except OakStatus Unit × EventDetails)}
    (hb : s.channelWriteBlock n k nm d = some (r, s')) : Steady s s' := by
  rcases channelWriteBlock_spec hb with ⟨e, rfl, rfl⟩ | ⟨half, res, rfl, rfl | ⟨ch, m, -, rfl⟩⟩
  exacts [.refl _, .refl _, steady_setQueue _ _]

theorem channelWrite_steady {n : NodeId} {k : Handle} {nm : NodeMessage} {d : Downgrading} {o : Outcome}
    (h : s.step (.channelWrite n k nm d) = some (o, s')) : Steady s s' := by
  simp only [step, channelWrite_eq_block, Option.map_map] at h
  obtain ⟨⟨r, s₁⟩, hb, he⟩ := Option.map_eq_some'.1 h
  cases he
  rcases channelWriteBlock_spec hb with ⟨e, rfl, rfl⟩ | ⟨half, res, rfl, -⟩
  · exact .refl _
  refine Steady.introspectionEvent (channelWriteBlock_steady hb) rfl fun _ hm => ?_
  cases hm
  exact mem_of_channelWriteBlock hb

theorem registerEnter_steady {n : NodeId} {cr : CreatedNode} {l : Label} {k : Handle} {d : Downgrading}
    {r : Except OakStatus (ChannelHalf × NodeId)} (h : s.registerEnter n cr l k d = some (r, s')) : Steady s s' := by
  refine .of_eq (log_registerEnter h) ?_
  unfold registerEnter checked at h
  repeat' split at h <;> try cases h <;> exact fun _ => Iff.rfl

theorem addNodeStopper_steady {m : NodeId} {st : NodeStopper} (h : s.addNodeStopper m st = some s') : Steady s s' := by
  refine ⟨.of_eq (log_addNodeStopper h) (mem_addNodeStopper h), fun m' hm' => ?_, ⟨[], by simp [log_addNodeStopper h],
    by simp⟩⟩
  unfold addNodeStopper at h
  split at h
  · cases h; exact hm'
  split at h
  · cases h; exact (AList.mem_insert _).2 (.inr hm')
  · cases h

theorem steady_reclaim (s : Runtime) : Steady s s.reclaim := .of_eq (by simp) fun _ => by simp

theorem steady_storeTerminating (s : Runtime) : Steady s s.storeTerminating := .of_eq rfl fun _ => Iff.rfl

theorem steady_takeStoppers (s : Runtime) : Steady s s.takeStoppers :=
  .of_eq rfl fun m => ⟨mem_of_lookup_map (f := fun _ => ()) (by
    rw [show s.takeStoppers.nodeInfos = s.stop.nodeInfos from rfl, lookup_stop, Option.map_map]),
    mem_of_lookup_map (f := fun _ => ()) (by
    rw [show s.takeStoppers.nodeInfos = s.stop.nodeInfos from rfl, lookup_stop, Option.map_map])⟩

/-- `node_configure_instance` starts the lifetime of the node whose record it adds. -/
theorem Living.nodeConfigureInstance (hi : s.Living) (m : NodeId) (t name : String) (l : Label)
    (p : NodePrivilege) : (s.nodeConfigureInstance m t name l p).Living := by
  have hl : (s.nodeConfigureInstance m t name l p).introspectionEventQueue =
      s.introspectionEventQueue ++ [.nodeCreated m.val name l] := rfl
  refine ⟨?_, fun m' => ?_⟩
  · rw [hl, liveAfter_append]
    exact ⟨hi.log, fun n hn => .inl (by cases hn; simp [EventDetails.creates]), trivial⟩
  · rw [hl, isLive_nodeCreated, Bool.or_eq_true, beq_iff_eq, ← hi.records]
    show m' ∈ s.nodeInfos.insert m _ ↔ _
    rw [AList.mem_insert, NodeId.val_inj, eq_comm]

/-- `remove_node_id` ends the lifetime of the node whose record it removes. -/
theorem Living.nodeDestroyed (hi : s.Living) {n : NodeId} (hn : n ∈ s.nodeInfos) (t : String) :
    ((({ s with nodeInfos := s.nodeInfos.erase n } : Runtime).updateNodesCountMetric t (-1)).introspectionEvent
      (.nodeDestroyed n.val)).Living := by
  refine ⟨?_, fun m => ?_⟩
  · show LiveAfter [] (s.introspectionEventQueue ++ [.nodeDestroyed n.val])
    rw [liveAfter_append]
    exact ⟨hi.log, fun n' hn' => .inr (by cases hn'; simpa using (hi.records n).1 hn), trivial⟩
  · show m ∈ s.nodeInfos.erase n ↔ isLive (s.introspectionEventQueue ++ [.nodeDestroyed n.val]) m.val = true
    rw [isLive_nodeDestroyed, Bool.and_eq_true, bne_iff_ne, ne_eq, ← hi.records, AList.mem_erase, NodeId.val_inj,
      ne_eq, eq_comm]

theorem removeNodeId_living {n : NodeId} (hi : s.Living) (h : s.removeNodeId n = some s') : s'.Living := by
  obtain ⟨ni, s₁, -, h₁, hn, rfl⟩ := removeNodeId_sections h
  exact (hi.of_steady (closeHandles_steady s h₁)).nodeDestroyed hn _

theorem Living.registerConfigure {m : NodeId} {cr : CreatedNode} {name : String} {l : Label}
    {reader : ChannelHalf} {rng : List Handle} (hi : s.Living)
    (h : s.registerConfigure m cr name l reader rng = some s') : s'.Living := by
  unfold Runtime.registerConfigure at h
  split at h
  · cases h
  rename_i hn
  cases h
  have h₁ := (hi.nodeConfigureInstance _ _ _ _ _).of_steady (newAbiHandle_installed hn).steady
  split
  · exact h₁.of_steady (steady_reclaim _)
  · exact h₁

theorem nodeRegister_living {p : NodeId} {cr : CreatedNode} {name : String} {label : Label} {k : Handle}
    {d : Downgrading} {rng : List Handle} {r : Except OakStatus Unit} (hi : s.Living)
    (h : s.nodeRegister p cr name label k d rng = some (r, s')) : s'.Living := by
  rcases r with _ | ⟨⟩
  · rw [nodeRegister_error h]; exact hi
  obtain ⟨reader, m, s₁, s₂, he, hcf, hadd⟩ := nodeRegister_ok_sections h
  exact ((hi.of_steady (registerEnter_steady he)).registerConfigure hcf).of_steady (addNodeStopper_steady hadd)

variable {call : Call} {o : Outcome}

/-- Every call keeps the records the live nodes of the log. -/
theorem living_step (h : s.step call = some (o, s')) (hi : s.Living) : s'.Living := by
  cases change_of_step h with
  | same => exact hi
  | wrote hw => exact hi.of_steady (channelWrite_steady hw)
  | created hins =>
    refine hi.of_steady (.trans (.introspectionEvent (.of_eq ?_ ?_) ?_ fun _ hm => by cases hm) hins.steady)
    exacts [rfl, fun _ => Iff.rfl, rfl]
  | cloned _ hins => exact hi.of_steady hins.steady
  | read hr =>
    obtain ⟨s₁, hins, rfl⟩ := hr.post
    refine hi.of_steady (.introspectionEvent ((steady_setQueue _ _).trans hins.steady) rfl fun _ hm => ?_)
    cases hm
    exact AList.lookup_isSome.1 (by rw [hr.lookup_node]; rfl)
  | closed hd => exact hi.of_steady hd.steady
  | registered hr _ => exact nodeRegister_living hi hr
  | removed hr _ => exact removeNodeId_living hi hr
  | stopped => exact hi.of_steady ((steady_storeTerminating s).trans (steady_takeStoppers _))

theorem living_fresh : fresh.Living where
  log := by
    show LiveAfter [] [.nodeCreated 0 "implicit.initial" Label.publicUntrusted]
    exact ⟨fun n hn => .inl (by cases hn; rfl), trivial⟩
  records m := by
    rw [AList.mem_keys, show fresh.nodeInfos.keys = [⟨0⟩] from rfl, List.mem_singleton,
      show fresh.introspectionEventQueue = [] ++ [.nodeCreated 0 "implicit.initial" Label.publicUntrusted] from rfl,
      isLive_nodeCreated, isLive_nil, Bool.or_false, beq_iff_eq, ← NodeId.val_inj, eq_comm]

theorem living_run {calls : List Call} {ts : List Transition} (h : fresh.run calls = some (ts, s')) : s'.Living :=
  (run_invariant h (fun _ ht => living_step (step_of_mem_run h ht)) living_fresh).2

/-- Nothing is logged about a node outside its lifetime. After every run from a fresh
    runtime, every event of the log that carries a node id is that node's `NodeCreated`,
    or comes after a `NodeCreated` for that node with no `NodeDestroyed` for it in
    between. -/
theorem events_within_lifetime {calls : List Call} {ts : List Transition} (h : fresh.run calls = some (ts, s')) :
    ∀ p e q, s'.introspectionEventQueue = p ++ e :: q → ∀ n, e.nodeId = some n →
      (∃ name l, e = .nodeCreated n name l) ∨
        ∃ p₁ p₂ name l, p = p₁ ++ .nodeCreated n name l :: p₂ ∧ .nodeDestroyed n ∉ p₂ := by
  intro p e q hl n hn
  have hi := (living_run h).log
  rw [hl, liveAfter_append] at hi
  rcases hi.2.1 n hn with he | he
  · exact .inl (EventDetails.creates_iff.1 he)
  · exact .inr ((isLive_iff p n).1 (by simpa using he))

theorem events_within_lifetime_handleCalls :
    ∃ ts s', fresh.run handleCalls = some (ts, s') ∧
      ∀ p e q, s'.introspectionEventQueue = p ++ e :: q → ∀ n, e.nodeId = some n →
        (∃ name l, e = .nodeCreated n name l) ∨
          ∃ p₁ p₂ name l, p = p₁ ++ .nodeCreated n name l :: p₂ ∧ .nodeDestroyed n ∉ p₂ :=
  ⟨_, _, rfl, events_within_lifetime (rfl : fresh.run handleCalls = _)⟩

/-- The records are the nodes the log says are alive. After every run from a fresh
    runtime, a node id has a record exactly when the log holds a `NodeCreated` for it
    with no `NodeDestroyed` for it after. -/
theorem records_iff_live {calls : List Call} {ts : List Transition} (h : fresh.run calls = some (ts, s'))
    (n : UInt64) :
    (⟨n⟩ : NodeId) ∈ s'.nodeInfos ↔
      ∃ p₁ p₂ name l, s'.introspectionEventQueue = p₁ ++ .nodeCreated n name l :: p₂ ∧ .nodeDestroyed n ∉ p₂ :=
  ((living_run h).records ⟨n⟩).trans (isLive_iff _ n)

/-- In the run of `handleCalls`, node 1 was registered and removed again. -/
theorem records_iff_live_handleCalls :
    ∃ ts s', fresh.run handleCalls = some (ts, s') ∧
      ((⟨1⟩ : NodeId) ∈ s'.nodeInfos ↔
        ∃ p₁ p₂ name l, s'.introspectionEventQueue = p₁ ++ .nodeCreated 1 name l :: p₂ ∧ .nodeDestroyed 1 ∉ p₂) :=
  ⟨_, _, rfl, records_iff_live (rfl : fresh.run handleCalls = _) 1⟩

end Runtime

end OakRuntime

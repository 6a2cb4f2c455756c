import OakRuntime.Wraparound

/-!
# Confinement of Handle Tables

A node's handle table is its set of capabilities: a node can name a channel only
through a handle in its own table. The runtime adds entries to a table in four places:
`channel_create` installs both halves of the new channel, `handle_clone` copies an
entry, a successful read installs the halves the message carried, and `node_register`
starts the new node with one handle for a read half of its creator. `table_step` says
so, for every call; every other change to a table removes entries.

Two results follow. A node's call leaves every other node's record alone, so long as
the counter's next id is unused (`confined_step`); and along any run from a fresh
runtime every half in a table came, by a chain of clones, from a channel its holder
created, the half it was started with, or a message it read (`provenance_run`). The
first needs its hypothesis: the counter wraps, and the registration that reaches an id
in use again replaces that node's record, handle table included
(`confinement_breaks_at_wrap`). Over fewer successful registrations than the counter
has values, the next id is always unused (`nextNodeId_unused_run`).

## Main definitions

* `Transition.Acquires`: A half a node acquires by its own call: of a channel it
  created, or carried by a message it read.

## Theorems

* `Runtime.newAbiHandle_inserts_fresh`: A new handle is fresh and replaces nothing.
* `Runtime.table_step`: Where a new entry of a table comes from.
* `Runtime.confined_step`: A call changes no other node's record and adds only what it
  acquires to its caller's table.
* `Runtime.provenance_run`: Every half a node holds has a source in the run.
* `Runtime.handle_tables_confined`: Capability confinement.
* `Runtime.confinement_breaks_at_wrap`: A registration at the wrap takes another
  node's handle.
-/

namespace OakRuntime

namespace Transition

/-- How node `n` acquires half `x` by its own call in `t`: `x` is a half of the channel
    `n`'s `channel_create` made, or `x` was carried by the message `n` read. -/
inductive Acquires (t : Transition) (n : NodeId) (x : ChannelHalf) : Prop
  | created {name : String} {label : Label} {d : Downgrading} {rng : List Handle} {w r : Handle} :
      t.call = .channelCreate n name label d rng → t.outcome = .created (.ok (w, r)) →
      x.channel = t.pre.channels.length → Acquires t n x
  | received {h : Handle} {nm : NodeMessage} {c : Nat} {m : Message} :
      t.delivered = some (n, h, nm) → t.dequeued c = some m → x ∈ m.channels → Acquires t n x

end Transition

/-- A handle an installation adds was not in the node's table before. -/
theorem Installed.lookupHandle_new {s s' : Runtime} {n : NodeId} {hs : List Handle} {halves : List ChannelHalf}
    (hi : Installed s s' n hs halves) {k : Handle} (hk : k ∈ hs) : s.lookupHandle n k = none := by
  obtain ⟨ni, hni, hnone⟩ := hi.fresh k hk
  simp [Runtime.lookupHandle, hni, hnone]

namespace Runtime

variable {s s' : Runtime} {call : Call} {o : Outcome}

theorem DropStep.lookupHandle_of {n : NodeId} {handle : Handle} {ni : NodeInfo} {half : ChannelHalf}
    (hd : s.DropStep s' n handle ni half) {m : NodeId} {k : Handle} {x : ChannelHalf}
    (hx : s'.lookupHandle m k = some x) : s.lookupHandle m k = some x := by
  by_cases hm : m = n
  · subst hm
    simp only [lookupHandle, hd.lookup_self, Option.some_bind] at hx
    by_cases hk : k = handle
    · subst hk; rw [AList.lookup_erase] at hx; cases hx
    · rw [AList.lookup_erase_ne hk] at hx
      exact lookupHandle_eq_some.2 ⟨ni, hd.lookup_node, hx⟩
  · simpa [lookupHandle, hd.lookup_ne m hm] using hx

theorem RemoveStep.lookupHandle_of {n : NodeId} (hrm : s.RemoveStep s' n) {m : NodeId} {k : Handle}
    {x : ChannelHalf} (hx : s'.lookupHandle m k = some x) : s.lookupHandle m k = some x := by
  by_cases hm : m = n
  · subst hm; simp [lookupHandle, hrm.lookup_self] at hx
  · simpa [lookupHandle, hrm.lookup_ne m hm] using hx

/-- After a registration, a handle maps to what it mapped to before, or is the new
    node's one handle. -/
theorem RegisterStep.lookupHandle_cases {p : NodeId} {created : CreatedNode} {name : String} {label : Label}
    {handle : Handle} {d : Downgrading} {ni : NodeInfo} {half : ChannelHalf} {x : Handle}
    (hreg : s.RegisterStep s' p created name label handle d ni half x) {m : NodeId} {k : Handle}
    {y : ChannelHalf} (hy : s'.lookupHandle m k = some y) :
    s.lookupHandle m k = some y ∨ (m = ⟨s.nextNodeId⟩ ∧ k = x ∧ y = half) := by
  by_cases hm : m = ⟨s.nextNodeId⟩
  · subst hm
    simp only [lookupHandle, hreg.lookup_new, Option.some_bind] at hy
    by_cases hk : k = x
    · subst hk
      rw [AList.lookup_insert, Option.some.injEq] at hy
      exact .inr ⟨rfl, rfl, hy.symm⟩
    · rw [AList.lookup_insert_ne hk] at hy; cases hy
  · exact .inl (by simpa [lookupHandle, hreg.lookup_ne m hm] using hy)

theorem RegisterStep.started {p : NodeId} {created : CreatedNode} {name : String} {label : Label}
    {handle : Handle} {d : Downgrading} {rng : List Handle} {ni : NodeInfo} {half : ChannelHalf} {x : Handle}
    (hreg : s.RegisterStep s' p created name label handle d ni half x)
    (hcall : call = .nodeRegister p created name label handle d rng ∨
      call = .nodeCreateAndRegister p (some created) name label handle d rng) :
    Transition.started ⟨s, call, .registered (.ok ()), s'⟩ = some (⟨s.nextNodeId⟩, half) := by
  have hl : s.lookupHandle p handle = some half := lookupHandle_eq_some.2 ⟨ni, hreg.lookup_node, hreg.lookup_handle⟩
  rcases hcall with rfl | rfl <;> simp [Transition.started, hl]

theorem ReadStep.dequeued_self {n : NodeId} {handle : Handle} {d : Downgrading} {nm : NodeMessage}
    {ni : NodeInfo} {half : ChannelHalf} {ch : Channel} {m : Message} {rest : List Message}
    (hr : s.ReadStep s' n handle d nm ni half ch m rest)
    (hdel : Transition.delivered ⟨s, call, o, s'⟩ = some (n, handle, nm)) :
    Transition.dequeued ⟨s, call, o, s'⟩ half.channel = some m := by
  simp only [Transition.dequeued, hdel, Option.some_bind]
  rw [hr.received, if_pos rfl]

/-- `new_abi_handle` inserts one fresh handle and nothing else. Its retry loop takes the
    first candidate the node's table does not map, whenever the candidates hold one; the
    table becomes the old one with that handle mapped to the half in front, and no
    other entry and no other record changes. So the two handles `channel_create`
    returns differ, and `handle_clone` and `node_message_from` install handles the node
    did not hold, distinct from each other, and keep every handle every node held. -/
theorem newAbiHandle_inserts_fresh :
    (∀ (table : HandleTable) (rng : List Handle), (∃ c ∈ rng, table.lookup c = none) →
      ∃ pre h rest, rng = pre ++ h :: rest ∧ (∀ c ∈ pre, table.lookup c ≠ none) ∧ table.lookup h = none ∧
        firstFreeHandle table rng = some (h, rest)) ∧
    (∀ (s : Runtime) (n : NodeId) (ni : NodeInfo) (half : ChannelHalf) (rng : List Handle),
      s.nodeInfos.lookup n = some ni → (∃ c ∈ rng, ni.abiHandles.lookup c = none) →
      ∃ h rest s', s.newAbiHandle n half rng = some (h, rest, s') ∧
        firstFreeHandle ni.abiHandles rng = some (h, rest) ∧ ni.abiHandles.lookup h = none ∧
        s'.nodeInfos.lookup n = some { ni with abiHandles := ni.abiHandles.insert h half } ∧
        (ni.abiHandles.insert h half).entries = ⟨h, half⟩ :: ni.abiHandles.entries ∧
        ∀ m, m ≠ n → s'.nodeInfos.lookup m = s.nodeInfos.lookup m) ∧
    (∀ (s s' : Runtime) (n : NodeId) (name : String) (label : Label) (d : Downgrading) (rng : List Handle)
      (w r : Handle), s.channelCreate n name label d rng = some (.ok (w, r), s') → w ≠ r) ∧
    (∀ (s s' : Runtime) (n : NodeId) (k k' : Handle) (rng : List Handle),
      s.handleClone n k rng = some (.ok k', s') →
        s.lookupHandle n k' = none ∧ ∀ m k₀ x, s.lookupHandle m k₀ = some x → s'.lookupHandle m k₀ = some x) ∧
    (∀ (s s' : Runtime) (msg : Message) (n : NodeId) (rng : List Handle) (nm : NodeMessage),
      s.nodeMessageFrom msg n rng = some (nm, s') →
        nm.handles.Nodup ∧ (∀ k ∈ nm.handles, s.lookupHandle n k = none) ∧
          ∀ m k₀ x, s.lookupHandle m k₀ = some x → s'.lookupHandle m k₀ = some x) := by
  refine ⟨fun table _ hfree => firstFreeHandle_first table hfree, fun s n ni half rng hni hfree => ?_,
    fun s s' n name label d rng w r h => ?_, fun s s' n k k' rng h => ?_, fun s s' msg n rng nm h => ?_⟩
  · obtain ⟨-, h, rest, -, -, hnone, hf⟩ := firstFreeHandle_first ni.abiHandles hfree
    have hnew : s.newAbiHandle n half rng = some (h, rest, _) := newAbiHandle_eq_some.2 ⟨ni, hni, hf, rfl⟩
    refine ⟨h, rest, _, hnew, hf, hnone, ?_, AList.insert_entries_of_neg (AList.lookup_eq_none.1 hnone),
      (newAbiHandle_installed hnew).lookup_ne⟩
    simp [introspectionEvent, lookup_setNodeInfo]
  · have hnd := (channelCreate_ok h).2.2.nodup
    simp only [List.nodup_cons, List.mem_singleton] at hnd
    exact hnd.1
  · obtain ⟨-, _, -, hi⟩ := handleClone_ok h
    exact ⟨hi.lookupHandle_new (List.mem_singleton_self _), fun _ _ _ => hi.lookupHandle_of⟩
  · obtain ⟨-, hi⟩ := nodeMessageFrom_spec h
    exact ⟨hi.nodup, fun _ hk => hi.lookupHandle_new hk, fun _ _ _ => hi.lookupHandle_of⟩

/-- Where a table entry after a call comes from: it was there before, the call cloned it
    from an entry of the same table, the node acquired it by its own call, or the call
    started the node with it. -/
theorem table_step (h : s.step call = some (o, s')) {m : NodeId} {k : Handle} {x : ChannelHalf}
    (hx : s'.lookupHandle m k = some x) :
    s.lookupHandle m k = some x ∨
      (∃ h' rng, call = .handleClone m h' rng ∧ o = .cloned (.ok k) ∧ s.lookupHandle m h' = some x) ∨
      Transition.Acquires ⟨s, call, o, s'⟩ m x ∨ Transition.started ⟨s, call, o, s'⟩ = some (m, x) := by
  cases step_effect h with
  | failed _ hl => obtain ⟨_, rfl⟩ := hl; exact .inl hx
  | empty _ | waited => exact .inl hx
  | stopped => exact .inl (by simpa using hx)
  | written hw => rw [hw.post] at hx; exact .inl hx
  | closed hd => exact .inl (hd.lookupHandle_of hx)
  | removed hrm => exact .inl (hrm.lookupHandle_of hx)
  | created _ _ hi =>
    rcases hi.lookupHandle_cases hx with e | ⟨rfl, -, hmem⟩
    · exact .inl e
    refine .inr (.inr (.inl (.created rfl rfl ?_)))
    rcases List.mem_pair.1 hmem with rfl | rfl <;> rfl
  | cloned _ hl hi =>
    rcases hi.lookupHandle_cases hx with e | ⟨rfl, hk, hmem⟩
    · exact .inl e
    rw [List.mem_singleton.1 hk, List.mem_singleton.1 hmem]
    exact .inr (.inl ⟨_, _, rfl, rfl, hl⟩)
  | read hr | tryRead hr =>
    obtain ⟨s₁, hi, rfl⟩ := hr.post
    rcases hi.lookupHandle_cases hx with e | ⟨rfl, -, hmem⟩
    · exact .inl e
    exact .inr (.inr (.inl (.received rfl (hr.dequeued_self rfl) hmem)))
  | registered hcall hreg =>
    rcases hreg.lookupHandle_cases hx with e | ⟨rfl, -, rfl⟩
    · exact .inl e
    exact .inr (.inr (.inr (hreg.started hcall)))

/-- Capability confinement of one call by node `n`, when the counter's next id is
    unused: every other node's record is unchanged; a registration adds one node whose
    table holds one handle, for the read half `n` designated; and an entry new to `n`'s
    table is a clone of one of its entries or a half `n` acquired. -/
theorem confined_step (h : s.step call = some (o, s')) {n : NodeId} (hn : call.nodeId = some n)
    (hfresh : (⟨s.nextNodeId⟩ : NodeId) ∉ s.nodeInfos) :
    (∀ m, m ≠ n → m ∈ s.nodeInfos → s'.nodeInfos.lookup m = s.nodeInfos.lookup m) ∧
    (o = .registered (.ok ()) → ∃ x half, Transition.started ⟨s, call, o, s'⟩ = some (⟨s.nextNodeId⟩, half) ∧
      half.direction = .read ∧
      (s'.nodeInfos.lookup ⟨s.nextNodeId⟩).map NodeInfo.abiHandles = some ((∅ : HandleTable).insert x half)) ∧
    (∀ k x, s'.lookupHandle n k = some x → s.lookupHandle n k = some x ∨
      (∃ h' rng, call = .handleClone n h' rng ∧ o = .cloned (.ok k) ∧ s.lookupHandle n h' = some x) ∨
      Transition.Acquires ⟨s, call, o, s'⟩ n x) := by
  refine ⟨fun m hmn hm => ?_, fun ho => ?_, fun k x hx => ?_⟩
  · rcases lookup_step h m with e | e | ⟨-, rfl⟩ | rfl
    · exact e
    · exact absurd (Option.some.inj (hn.symm.trans e)) (Ne.symm hmn)
    · exact absurd hm hfresh
    · cases hn
  · subst ho
    cases step_effect h with
    | failed hf _ => cases hf
    | empty ho => rcases ho with ho | ho <;> cases ho
    | registered hcall hreg =>
      exact ⟨_, _, hreg.started hcall, hreg.direction, by rw [hreg.lookup_new]; rfl⟩
  · rcases table_step h hx with e | e | e | hst
    · exact .inl e
    · exact .inr (.inl e)
    · exact .inr (.inr e)
    -- `n` cannot be the node a registration starts: `n` exists, the new id does not
    obtain ⟨p, _, _, _, _, _, _, _, hp, -, -, hreg, rfl⟩ := started_step h hst
    obtain rfl : p = ⟨s.nextNodeId⟩ := Option.some.inj (hp.symm.trans hn)
    exact absurd (AList.lookup_isSome.1 (by rw [hreg.lookup_node]; rfl)) hfresh

/-- Over fewer successful registrations than the counter has values after a fresh
    runtime's, the next id is unused in every state of the run. -/
theorem nextNodeId_unused_run {calls : List Call} {ts : List Transition} (h : fresh.run calls = some (ts, s'))
    (hlen : registrations ts < 2 ^ 64 - 1) : ∀ t ∈ ts, (⟨t.pre.nextNodeId⟩ : NodeId) ∉ t.pre.nodeInfos :=
  fun t ht => ((idsBelow_run h (by rw [show fresh.nextNodeId.toNat = 1 from rfl]; omega) idsBelow_fresh).1
    t ht).not_mem

@[simp] theorem fresh_lookupHandle (n : NodeId) (k : Handle) : fresh.lookupHandle n k = none := by
  by_cases hn : n = ⟨0⟩
  · subst hn; rfl
  · have : fresh.nodeInfos.lookup n = none := AList.lookup_eq_none.2 (by
      rw [AList.mem_keys, show fresh.nodeInfos.keys = [⟨0⟩] from rfl, List.mem_singleton]; exact hn)
    simp [lookupHandle, this]

/-- Provenance. After any run from a fresh runtime, every half in a node's table is a
    half the node acquired by one of its calls, or the half it was started with. -/
theorem provenance_run {calls : List Call} {ts : List Transition} (h : fresh.run calls = some (ts, s'))
    {n : NodeId} {k : Handle} {x : ChannelHalf} (hx : s'.lookupHandle n k = some x) :
    ∃ t ∈ ts, t.Acquires n x ∨ t.started = some (n, x) := by
  let P : Runtime → Prop := fun s => ∀ n k x, s.lookupHandle n k = some x →
    ∃ t ∈ ts, t.Acquires n x ∨ t.started = some (n, x)
  refine (run_invariant (P := P) h (fun t ht hpre n k x hx => ?_) (by simp [P])).2 n k x hx
  rcases table_step (step_of_mem_run h ht) hx with e | ⟨h', -, -, -, e⟩ | e | e
  · exact hpre n k x e
  · exact hpre n h' x e
  · exact ⟨t, ht, .inl e⟩
  · exact ⟨t, ht, .inr e⟩

/-- Capability confinement of handle tables. (1) A call by node `n` from a state whose
    next node id is unused changes no other existing node's record, starts any node it
    registers with one handle for the read half `n` designated, and adds to `n`'s own
    table only clones of its entries and halves `n` acquires: both halves of the channel
    it created, or the halves carried by the message it read. (2) Every state of a run
    from a fresh runtime with fewer than `2 ^ 64 - 1` successful registrations is such a
    state. (3) After any
    run from a fresh runtime, every half a node holds is one it acquired or was started
    with. -/
theorem handle_tables_confined :
    (∀ (s : Runtime) (call : Call) (o : Outcome) (s' : Runtime) (n : NodeId),
      s.step call = some (o, s') → call.nodeId = some n → (⟨s.nextNodeId⟩ : NodeId) ∉ s.nodeInfos →
      (∀ m, m ≠ n → m ∈ s.nodeInfos → s'.nodeInfos.lookup m = s.nodeInfos.lookup m) ∧
      (o = .registered (.ok ()) → ∃ x half, Transition.started ⟨s, call, o, s'⟩ = some (⟨s.nextNodeId⟩, half) ∧
        half.direction = .read ∧
        (s'.nodeInfos.lookup ⟨s.nextNodeId⟩).map NodeInfo.abiHandles = some ((∅ : HandleTable).insert x half)) ∧
      (∀ k x, s'.lookupHandle n k = some x → s.lookupHandle n k = some x ∨
        (∃ h' rng, call = .handleClone n h' rng ∧ o = .cloned (.ok k) ∧ s.lookupHandle n h' = some x) ∨
        Transition.Acquires ⟨s, call, o, s'⟩ n x)) ∧
    (∀ (calls : List Call) (ts : List Transition) (s' : Runtime), fresh.run calls = some (ts, s') →
      registrations ts < 2 ^ 64 - 1 → ∀ t ∈ ts, (⟨t.pre.nextNodeId⟩ : NodeId) ∉ t.pre.nodeInfos) ∧
    (∀ (calls : List Call) (ts : List Transition) (s' : Runtime), fresh.run calls = some (ts, s') →
      ∀ n k x, s'.lookupHandle n k = some x → ∃ t ∈ ts, t.Acquires n x ∨ t.started = some (n, x)) :=
  ⟨fun _ _ _ _ _ h hn hfresh => confined_step h hn hfresh, fun _ _ _ h hlen => nextNodeId_unused_run h hlen,
    fun _ _ _ h _ _ _ hx => provenance_run h hx⟩

end Runtime

end OakRuntime

import OakRuntime.Threads

/-!
# `stop` Can Wait for Ever

`Shared.parked_after_stop` reaches a state in which a thread is parked inside
`wait_on_channels` after `stop` has run `notify_all_waiters`, and `stop` waits to join
it. This module shows that the wait can have no end. When the channel the thread
parked on belongs to its node alone, no section of any thread, in any order, unparks
it again, and `stop` never joins it and never returns.

The argument is an invariant, `Shared.Stranded`: node `n`'s thread is parked with the
`Arc` numbered `r`, and that `Arc`'s only entry is on channel `c`; no other node holds
a half of `c` and no queued message carries one; `n`'s record holds both halves of
`c`; the runtime is terminating, no registration is past its checks, and `stop` is
joining `n`. Then:

* a call of another node cannot write to `c`, cannot take a half of `c` (none is
  queued, and a new channel is never `c`), and cannot register a node (the runtime is
  terminating), so it leaves `n`'s record as it is;
* no call drops the last reader or writer of `c`, which `n` holds, so `commit` never
  wakes `c`;
* a wake-up of any other channel finds no live entry of `n`;
* `notify_all_waiters` has run, and `stop` cannot pass `n` while its record is there.

`NodeStopper::stop_node` sends the node a notification before it joins the node's
thread; the notification goes to a receiver the node keeps and unparks no thread, so
the model leaves it out.

## Main definitions

* `Runtime.Sole`: Channel `c` is node `n`'s alone.
* `Runtime.Isolated`: What the invariant says of the runtime.
* `Shared.waitersOf`: The waiters of one node.
* `Shared.Stranded`: The invariant.
* `Shared.stopBeforeSelfWait`: A schedule that reaches it.

## Theorems

* `Runtime.Isolated.step`: A call of another node keeps the runtime isolated.
* `Shared.Stranded.step`, `Shared.stranded_run`: No section of any thread leaves a
  stranded state.
* `Shared.stop_never_returns`: After `stopBeforeSelfWait`, neither `stop` nor the
  parked thread ever runs a section again.
-/

namespace OakRuntime

namespace Runtime

variable {s s' : Runtime} {n m : NodeId} {c : Nat}

/-- Channel `c` is node `n`'s alone: no other node holds a half of it, and no queued
    message carries one. -/
def Sole (s : Runtime) (n : NodeId) (c : Nat) : Prop :=
  (∀ m k x, m ≠ n → s.lookupHandle m k = some x → x.channel ≠ c) ∧ ∀ x ∈ s.queuedHalves, x.channel ≠ c

/-- `Sole` from the records and the queues, in a form `decide` evaluates. -/
theorem sole_of_entries (ht : ∀ e ∈ s.nodeInfos.entries, e.1 ≠ n → ∀ y ∈ e.2.abiHandles.entries, y.2.channel ≠ c)
    (hq : ∀ x ∈ s.queuedHalves, x.channel ≠ c) : s.Sole n c := by
  refine ⟨fun m k x hm hx => ?_, hq⟩
  obtain ⟨ni, hni, hk⟩ := lookupHandle_eq_some.1 hx
  exact ht _ (AList.mem_lookup_iff.1 hni) hm _ (AList.mem_lookup_iff.1 hk)

/-- A call that changes no table and takes halves off the queues only keeps `Sole`. -/
theorem Sole.of_subset (hs : s.Sole n c) (ht : ∀ m k x, s'.lookupHandle m k = some x → s.lookupHandle m k = some x)
    (hq : s'.queuedHalves ⊆ s.queuedHalves) : s'.Sole n c :=
  ⟨fun m k x hm hx => hs.1 m k x hm (ht m k x hx), fun x hx => hs.2 x (hq hx)⟩

@[simp] theorem sole_introspectionEvent (e : EventDetails) : (s.introspectionEvent e).Sole n c ↔ s.Sole n c :=
  Iff.rfl

end Runtime

/-- An installation in node `m`'s table keeps `Sole` when it gives `m` no half of `c`,
    or `m` is `n`. -/
theorem Installed.sole {s s' : Runtime} {n m : NodeId} {c : Nat} {hs : List Handle} {halves : List ChannelHalf}
    (hi : Installed s s' m hs halves) (h : s.Sole n c) (hh : m ≠ n → ∀ x ∈ halves, x.channel ≠ c) :
    s'.Sole n c := by
  refine ⟨fun m' k x hm' hx => ?_, fun x hx => h.2 x (hi.queuedHalves_eq ▸ hx)⟩
  rcases hi.lookupHandle_cases hx with e | ⟨rfl, -, hmem⟩
  · exact h.1 m' k x hm' e
  · exact hh hm' x hmem

namespace Runtime

variable {s s' : Runtime} {n m : NodeId} {c : Nat}

/-- A write by another node queues only halves the writer holds. -/
theorem WriteStep.sole {handle : Handle} {d : Downgrading} {nm : NodeMessage} {ni : NodeInfo} {half : ChannelHalf}
    {ch : Channel} {msg : Message} (hw : s.WriteStep s' m handle d nm ni half ch msg) (hs : s.Sole n c)
    (hmn : m ≠ n) : s'.Sole n c := by
  rw [hw.post]
  refine ⟨hs.1, fun x hx => ?_⟩
  rw [queuedHalves_introspectionEvent] at hx
  rcases mem_queuedHalves_setQueue hx with hx | ⟨m', hm', hx⟩
  · exact hs.2 x hx
  rcases List.mem_append.1 hm' with hm' | hm'
  · exact hs.2 x (mem_queuedHalves.2 ⟨_, _, hw.channel, m', hm', hx⟩)
  · rw [List.mem_singleton.1 hm'] at hx
    have : some x ∈ nm.handles.map (s.lookupHandle m) :=
      (messageFrom_spec.1 hw.message).2 ▸ List.mem_map_of_mem _ hx
    obtain ⟨k, -, hk⟩ := List.mem_map.1 this
    exact hs.1 m k x hmn hk

/-- A read moves halves from a queue to the reader's table. -/
theorem ReadStep.sole {handle : Handle} {d : Downgrading} {nm : NodeMessage} {ni : NodeInfo} {half : ChannelHalf}
    {ch : Channel} {msg : Message} {rest : List Message} (hr : s.ReadStep s' m handle d nm ni half ch msg rest)
    (hs : s.Sole n c) : s'.Sole n c := by
  obtain ⟨s₁, hi, rfl⟩ := hr.post
  rw [sole_introspectionEvent]
  have hq : ∀ m' ∈ ch.messages, ∀ y ∈ m'.channels, y.channel ≠ c := fun m' hm' y hy =>
    hs.2 y (mem_queuedHalves.2 ⟨_, _, hr.channel, m', hm', hy⟩)
  have hs₁ : (s.setQueue half.channel rest).Sole n c := by
    refine ⟨hs.1, fun x hx => ?_⟩
    rcases mem_queuedHalves_setQueue hx with hx | ⟨m', hm', hx⟩
    · exact hs.2 x hx
    · exact hq m' (by rw [hr.front]; exact List.mem_cons_of_mem _ hm') x hx
  exact hi.sole hs₁ fun _ => hq msg (by rw [hr.front]; exact List.mem_cons_self _ _)

/-- A terminating runtime registers no node. -/
theorem not_registered_of_terminating {call : Call} {o : Outcome} (h : s.step call = some (o, s'))
    (ht : s.terminating = true) : o ≠ .registered (.ok ()) := by
  rintro rfl
  cases step_effect h with
  | failed hf _ => cases hf
  | empty ho => rcases ho with ho | ho <;> cases ho
  | registered _ hreg => exact Bool.false_ne_true (hreg.not_terminating.symm.trans ht)

/-- A call of another node, in a terminating runtime, gives no node but `n` a half of
    a channel `c` that exists, and queues none. -/
theorem Sole.step (hs : s.Sole n c) (hc : c < s.channels.length) (ht : s.terminating = true) {call : Call}
    {o : Outcome} (h : s.step call = some (o, s')) (hm : call.nodeId = some m) (hmn : m ≠ n) : s'.Sole n c := by
  cases step_effect h with
  | failed _ hl => obtain ⟨_, rfl⟩ := hl; exact hs
  | empty _ | waited => exact hs
  | created _ _ hi =>
    refine hi.sole ⟨hs.1, fun x hx => hs.2 x (by simpa [queuedHalves, introspectionEvent] using hx)⟩ ?_
    intro _ x hx
    rcases List.mem_pair.1 hx with rfl | rfl <;> exact hc.ne'
  | cloned _ hl hi =>
    cases hm
    exact hi.sole hs fun _ x hx => List.mem_singleton.1 hx ▸ hs.1 m _ _ hmn hl
  | written hw => cases hm; exact hw.sole hs hmn
  | read hr | tryRead hr => exact hr.sole hs
  | closed hd => exact hs.of_subset (fun _ _ _ => hd.lookupHandle_of) hd.reclaimed.queuedHalves_subset
  | removed hrm => exact hs.of_subset (fun _ _ _ => hrm.lookupHandle_of) hrm.reclaimed.queuedHalves_subset
  | registered _ hreg => exact absurd ht (by simp [hreg.not_terminating])
  | stopped => cases hm

/-- The runtime of a stranded waiter: terminating, with node `n`'s record `ni`, which
    holds both halves of channel `c`, and `c` is `n`'s alone. -/
structure Isolated (s : Runtime) (n : NodeId) (c : Nat) (ni : NodeInfo) : Prop where
  terminating : s.terminating = true
  record : s.nodeInfos.lookup n = some ni
  reader : ∃ k, ni.abiHandles.lookup k = some ⟨c, .read⟩
  writer : ∃ k, ni.abiHandles.lookup k = some ⟨c, .write⟩
  sole : s.Sole n c
  channel : c < s.channels.length

variable {ni : NodeInfo}

@[simp] theorem isolated_introspectionEvent (e : EventDetails) :
    (s.introspectionEvent e).Isolated n c ni ↔ s.Isolated n c ni :=
  ⟨fun ⟨h₁, h₂, h₃, h₄, h₅, h₆⟩ => ⟨h₁, h₂, h₃, h₄, h₅, h₆⟩,
    fun ⟨h₁, h₂, h₃, h₄, h₅, h₆⟩ => ⟨h₁, h₂, h₃, h₄, h₅, h₆⟩⟩

/-- `n` still holds a reader and a writer of `c`, so no change that leads to an
    isolated runtime orphans `c`. -/
theorem Isolated.not_orphaned (h : s'.Isolated n c ni) (s : Runtime) : c ∉ s.orphaned s' := by
  have held : ∀ d, (∃ k, ni.abiHandles.lookup k = some ⟨c, d⟩) → 0 < s'.halves.count ⟨c, d⟩ :=
    fun d ⟨k, hk⟩ => List.count_pos_iff.2 (mem_halves.2 (.inl ⟨n, k, lookupHandle_eq_some.2 ⟨ni, h.record, hk⟩⟩))
  have hr : s'.hasReaders c := held _ h.reader
  have hw : s'.hasWriters c := held _ h.writer
  simp [orphaned, hr, hw]

/-- A call of another node keeps the runtime isolated. -/
theorem Isolated.step (hi : s.Isolated n c ni) {call : Call} {o : Outcome} (h : s.step call = some (o, s'))
    (hm : call.nodeId = some m) (hmn : m ≠ n) : s'.Isolated n c ni where
  terminating := terminating_step h hi.terminating
  record := by
    rcases lookup_step h n with e | e | ⟨ho, -⟩ | rfl
    · rw [e, hi.record]
    · exact absurd (Option.some.inj (hm.symm.trans e)) hmn
    · exact absurd ho (not_registered_of_terminating h hi.terminating)
    · cases hm
  reader := hi.reader
  writer := hi.writer
  sole := hi.sole.step hi.channel hi.terminating h hm hmn
  channel := lt_of_lt_of_le hi.channel (heap_step h).1

/-- The half the block of `channel_write` returns is the writer's. -/
theorem channelWriteBlock_half {k : Handle} {nm : NodeMessage} {d : Downgrading} {half : ChannelHalf}
    {res : Except OakStatus Unit} {e : EventDetails}
    (h : s.channelWriteBlock m k nm d = some (.ok (half, res, e), s')) : s.lookupHandle m k = some half := by
  obtain ⟨_, -, he, -⟩ | ⟨half', hhalf, h₁⟩ := checked_eq_some h; · cases he
  obtain ⟨_, -, he, -⟩ | ⟨⟨⟩, -, h₂⟩ := checked_eq_some h₁; · cases he
  obtain ⟨_, -, he, -⟩ | ⟨msg, -, h₃⟩ := checked_eq_some h₂; · cases he
  obtain rfl : half' = half := by
    split at h₃ <;> (try split at h₃) <;> cases h₃ <;> rfl
  exact (abiToWriteHalf_eq_ok.1 hhalf).1

/-- The block of another node's `channel_write` keeps the runtime isolated. -/
theorem Isolated.channelWriteBlock (hi : s.Isolated n c ni) {k : Handle} {nm : NodeMessage} {d : Downgrading}
    {r : Except OakStatus (ChannelHalf × Except OakStatus Unit × EventDetails)}
    (h : s.channelWriteBlock m k nm d = some (r, s')) (hmn : m ≠ n) : s'.Isolated n c ni := by
  have hw : s.step (.channelWrite m k nm d) = some (.written (logBlock (r, s')).1, (logBlock (r, s')).2) := by
    simp only [Runtime.step, channelWrite_eq_block, h, Option.map_some']
  have := hi.step hw rfl hmn
  rcases r with _ | ⟨_, _, _⟩
  · exact this
  · exact (isolated_introspectionEvent _).1 this

end Runtime

namespace Shared

variable (σ : Shared)

/-- The waiters of node `n`. -/
def waitersOf (n : NodeId) : List Waiter := σ.waiting.filter (·.nodeId == n)

/-- Node `n`'s thread is parked for good on channel `c`, and `stop` waits to join it.
    The runtime is `Isolated`; `n`'s waiters are `ws`, all parked with the `Arc`
    numbered `r`; every entry of `n` for that `Arc` is on `c`; no thread is inside
    `node_register`; and `stop` is joining `n`. -/
structure Stranded (n : NodeId) (c r : Nat) (ni : NodeInfo) (ws : List Waiter) (rest joined : List NodeId) :
    Prop where
  isolated : σ.runtime.Isolated n c ni
  waiters : σ.waitersOf n = ws
  nonempty : ws ≠ []
  parked : ∀ w ∈ ws, w.pc = .parked r
  waitlist : ∀ x ∈ σ.waitlist, x.2.1 = n → x.2.2 = r → x.1 = c
  registering : σ.registering = []
  stopping : σ.stopping = .joining (n :: rest) joined

variable {σ} {σ' : Shared} {n m : NodeId} {c r : Nat} {ni : NodeInfo} {ws : List Waiter} {rest joined : List NodeId}
  {o : Option Outcome}

/-! ### Node `n`'s waiters -/

theorem waitersOf_map {f : Waiter → Waiter} (hf : ∀ w, (f w).nodeId = w.nodeId) (hfix : ∀ w, w.nodeId = n → f w = w)
    (l : List Waiter) : (l.map f).filter (·.nodeId == n) = l.filter (·.nodeId == n) := by
  induction l with
  | nil => rfl
  | cons w l ih =>
    by_cases hw : w.nodeId = n
    · simp [List.filter_cons, hf, hw, hfix w hw, ih]
    · simp [List.filter_cons, hf, hw, ih]

theorem waitersOf_unpark (hm : m ≠ n) : (σ.unpark m).waitersOf n = σ.waitersOf n := by
  unfold unpark waitersOf
  split_ifs
  · exact waitersOf_map (fun w => by split_ifs <;> rfl) (fun w hw => if_neg fun h => hm (h.symm.trans hw)) _
  all_goals rfl

theorem waitersOf_setWaiter {w : Waiter} (hw : w.nodeId ≠ n) : (σ.setWaiter w).waitersOf n = σ.waitersOf n :=
  waitersOf_map (fun v => by split_ifs with h <;> [exact h.symm; rfl])
    (fun v hv => if_neg fun (h : v.nodeId = w.nodeId) => hw (h ▸ hv)) σ.waiting

theorem waitersOf_dropWaiter (hm : m ≠ n) : (σ.dropWaiter m).waitersOf n = σ.waitersOf n := by
  simp only [waitersOf, dropWaiter, List.filter_filter]
  refine List.filter_congr fun w _ => ?_
  by_cases hw : w.nodeId = n <;> simp [hw, Ne.symm hm]

/-! ### What keeps a state stranded -/

/-- A state with the runtime, node `n`'s waiters, registrations and `stop` of a stranded
    one, and no new entry of `n`, is stranded. -/
theorem Stranded.of_frame (hs : σ.Stranded n c r ni ws rest joined) (hrt : σ'.runtime = σ.runtime)
    (hw : σ'.waitersOf n = σ.waitersOf n) (hl : ∀ x ∈ σ'.waitlist, x.2.1 = n → x ∈ σ.waitlist)
    (hg : σ'.registering = σ.registering) (hst : σ'.stopping = σ.stopping) : σ'.Stranded n c r ni ws rest joined :=
  ⟨hrt ▸ hs.isolated, hw.trans hs.waiters, hs.nonempty, hs.parked, fun x hx hn => hs.waitlist x (hl x hx hn) hn,
    hg.trans hs.registering, hst.trans hs.stopping⟩

theorem Stranded.install (hs : σ.Stranded n c r ni ws rest joined) {s' : Runtime} (h : s'.Isolated n c ni) :
    ({ σ with runtime := s' } : Shared).Stranded n c r ni ws rest joined :=
  { hs with isolated := h }

theorem Stranded.busy (hs : σ.Stranded n c r ni ws rest joined) : σ.busy n = true := by
  obtain ⟨w, hw⟩ := List.exists_mem_of_ne_nil _ hs.nonempty
  obtain ⟨hw, hwn⟩ := List.mem_filter.1 (hs.waiters ▸ hw)
  simp only [Shared.busy, Bool.or_eq_true, List.any_eq_true]
  exact .inl (.inr ⟨w, hw, hwn⟩)

theorem Stranded.unpark (hs : σ.Stranded n c r ni ws rest joined) (hm : m ≠ n) :
    (σ.unpark m).Stranded n c r ni ws rest joined :=
  have hk := Woken.unpark σ m
  hs.of_frame hk.runtime (waitersOf_unpark hm) (fun _ hx _ => hk.waitlist ▸ hx) hk.registering hk.stopping

theorem Stranded.foldl_unpark (hs : σ.Stranded n c r ni ws rest joined) {ms : List NodeId} (hn : n ∉ ms) :
    (ms.foldl Shared.unpark σ).Stranded n c r ni ws rest joined := by
  induction ms generalizing σ with
  | nil => exact hs
  | cons m ms ih =>
    exact ih (hs.unpark fun h => hn (List.mem_cons.2 (.inl h.symm))) fun h => hn (List.mem_cons_of_mem _ h)

/-- A wake-up of any channel but `c` finds no live entry of `n`: `n`'s only live `Arc`
    is the one it parked with, and its entries for that one are on `c`. -/
theorem Stranded.wakeWaiters (hs : σ.Stranded n c r ni ws rest joined) {c' : Nat} (hc : c' ≠ c) :
    (σ.wakeWaiters c').Stranded n c r ni ws rest joined := by
  refine hs.foldl_unpark fun hn => ?_
  obtain ⟨x, hx, hxn⟩ := List.mem_map.1 hn
  obtain ⟨hxl, hxc⟩ := List.mem_filter.1 hx
  simp only [Bool.and_eq_true, beq_iff_eq] at hxc
  obtain ⟨w, hw, hwx⟩ := List.any_eq_true.1 hxc.2
  simp only [Bool.and_eq_true, beq_iff_eq] at hwx
  have hws : w ∈ ws := hs.waiters ▸ List.mem_filter.2 ⟨hw, by simp [hwx.1, hxn]⟩
  rw [hs.parked w hws] at hwx
  exact hc (hxc.1 ▸ hs.waitlist x hxl hxn (Option.some.inj hwx.2).symm)

theorem Stranded.foldl_wake (hs : σ.Stranded n c r ni ws rest joined) {cs : List Nat} (hc : c ∉ cs) :
    (cs.foldl (fun τ c' => τ.wakeWaiters c') σ).Stranded n c r ni ws rest joined := by
  induction cs generalizing σ with
  | nil => exact hs
  | cons c' cs ih =>
    exact ih (hs.wakeWaiters fun h => hc (List.mem_cons.2 (.inl h.symm))) fun h => hc (List.mem_cons_of_mem _ h)

/-- Installing a runtime that is still isolated keeps the state stranded: `commit`
    wakes the orphaned channels, and `c` is not one. -/
theorem Stranded.commit (hs : σ.Stranded n c r ni ws rest joined) {s' : Runtime} (h : s'.Isolated n c ni) :
    (σ.commit s').Stranded n c r ni ws rest joined :=
  (hs.install h).foldl_wake (h.not_orphaned _)

/-! ### Every section -/

theorem Stranded.beginRegister (hs : σ.Stranded n c r ni ws rest joined) {cr : CreatedNode} {name : String}
    {label : Label} {k : Handle} {d : Downgrading} {rng : List Handle}
    (h : σ.beginRegister m cr name label k d rng = some (o, σ')) : σ'.Stranded n c r ni ws rest joined := by
  simp only [Shared.beginRegister, Runtime.registerEnter, hs.isolated.terminating, if_true, Option.map_some',
    Option.some.injEq] at h
  obtain ⟨-, rfl⟩ := Prod.mk.inj h
  exact hs.commit hs.isolated

/-- The first section of a call of another node. -/
theorem Stranded.begin (hs : σ.Stranded n c r ni ws rest joined) {call : Call} (hm : call.nodeId = some m)
    (hmn : m ≠ n) (h : σ.begin call = some (o, σ')) : σ'.Stranded n c r ni ws rest joined := by
  have hwhole : ∀ {o σ'}, σ.whole call = some (o, σ') → σ'.Stranded n c r ni ws rest joined := fun h => by
    obtain ⟨⟨o', s'⟩, hs', he⟩ := Option.map_eq_some'.1 h
    cases he
    exact hs.commit (hs.isolated.step hs' hm hmn)
  cases call
  case channelWrite m' k nm d =>
    cases hm
    obtain ⟨⟨r', s'⟩, hb, he⟩ := Option.map_eq_some'.1 h
    have hc := hs.commit (hs.isolated.channelWriteBlock hb hmn)
    rcases r' with _ | ⟨half, (_ | ⟨⟩), ev⟩ <;> cases he
    · exact hc
    · exact hc.of_frame rfl rfl (fun _ h _ => h) rfl rfl
    · refine Stranded.wakeWaiters ?_ (hs.isolated.sole.1 m k half hmn (Runtime.channelWriteBlock_half hb))
      exact hc.of_frame rfl rfl (fun _ h _ => h) rfl rfl
  case nodeRegister => exact hs.beginRegister h
  case nodeCreateAndRegister cr _ _ _ _ _ =>
    cases cr
    · exact hwhole h
    · exact hs.beginRegister h
  case waitOnChannels =>
    cases hm
    simp only [Shared.begin] at h
    split at h
    · cases h
      exact hs.of_frame rfl (by simp [waitersOf, List.filter_append, hmn]) (fun _ h _ => h) rfl rfl
    · cases h
  case stop => cases h
  all_goals exact hwhole h

/-- The sections of another node's wait loop. -/
theorem Stranded.waitStep (hs : σ.Stranded n c r ni ws rest joined) {w : Waiter} (hwn : w.nodeId ≠ n)
    (h : σ.waitStep w = some (o, σ')) : σ'.Stranded n c r ni ws rest joined := by
  have hset : ∀ pc, (σ.setWaiter { w with pc := pc }).Stranded n c r ni ws rest joined := fun _ =>
    hs.of_frame rfl (waitersOf_setWaiter hwn) (fun _ h _ => h) rfl rfl
  have hdrop : (σ.dropWaiter w.nodeId).Stranded n c r ni ws rest joined :=
    hs.of_frame rfl (waitersOf_dropWaiter hwn) (fun _ h _ => h) rfl rfl
  unfold Shared.waitStep at h
  split at h
  · simp only [hs.isolated.terminating, if_true, Option.some.injEq] at h
    obtain ⟨-, rfl⟩ := Prod.mk.inj h
    exact hdrop
  · cases h
    refine hs.of_frame rfl (waitersOf_setWaiter hwn) (fun x hx hxn => ?_) rfl rfl
    rcases List.mem_append.1 hx with hx | hx
    · exact List.mem_of_mem_filter hx
    · exact (hwn (by rw [← hxn, List.mem_singleton.1 hx])).elim
  · obtain ⟨_ | _, -, he⟩ := Option.map_eq_some'.1 h <;> cases he
    · exact hset _
    · exact hdrop
  · split at h <;> cases h
    · exact (hset _).of_frame rfl rfl (fun _ h _ => h) rfl rfl
    · exact hset _
  · cases h

/-- In a stranded state neither `stop` nor node `n`'s thread can run a section. -/
theorem Stranded.blocked (hs : σ.Stranded n c r ni ws rest joined) :
    σ.step .stop = none ∧ σ.step (.wait n) = none := by
  have hn : n ∈ σ.runtime.nodeInfos := AList.lookup_isSome.1 (by rw [hs.isolated.record]; rfl)
  refine ⟨by simp [Shared.step, hs.stopping, stopStep, hn], Option.bind_eq_none.2 fun w hw => ?_⟩
  have hwn := List.find?_some hw
  have hws : w ∈ ws := hs.waiters ▸ List.mem_filter.2 ⟨List.mem_of_find?_eq_some hw, hwn⟩
  simp [Shared.waitStep, hs.parked w hws]

/-- No section of any thread leaves a stranded state. -/
theorem Stranded.step (hs : σ.Stranded n c r ni ws rest joined) {sec : Section} (h : σ.step sec = some (o, σ')) :
    σ'.Stranded n c r ni ws rest joined := by
  cases sec with
  | call call =>
    simp only [Shared.step] at h
    split at h
    · cases h
    next hfree =>
      cases hm : call.nodeId with
      | none => cases call <;> simp [Call.nodeId, Shared.begin] at hm h
      | some m =>
        refine hs.begin hm (fun hmn => hfree ?_) h
        simp [hm, hmn, hs.busy]
  | log m =>
    simp only [Shared.step] at h
    split at h
    · cases h
    cases h
    exact (hs.commit ((Runtime.isolated_introspectionEvent _).2 hs.isolated)).of_frame rfl rfl
      (fun _ h _ => h) rfl rfl
  | wait m =>
    obtain ⟨w, hw, hs'⟩ := Option.bind_eq_some.1 h
    have hwm : w.nodeId = m := by simpa using List.find?_some hw
    by_cases hmn : m = n
    · subst hmn
      rw [hs.blocked.2] at h
      cases h
    exact hs.waitStep (hwm ▸ hmn) hs'
  | register m => simp [Shared.step, hs.registering] at h
  | stop => rw [hs.blocked.1] at h; cases h

/-- Every schedule from a stranded state keeps it stranded. -/
theorem stranded_run (hs : σ.Stranded n c r ni ws rest joined) {secs : List Section} (h : σ.run secs = some σ') :
    σ'.Stranded n c r ni ws rest joined :=
  run_invariant (fun hs h => Stranded.step hs h) hs h

/-! ### A schedule that strands a waiter -/

/-- Node 0 creates a channel (handles 5 and 6) and starts node 1 with its read half
    (node 1's handle 7); node 1 creates a channel of its own (handles 8 and 9) and
    waits on its read half, handle 9. As in `stopBeforeAddWaiter`, `stop` runs whole
    between node 1's read of `is_terminating` and its `add_waiter`; node 1 then
    registers on its channel, finds it empty, and parks. -/
def stopBeforeSelfWait : List Section :=
  [.call (.channelCreate ⟨0⟩ "in" Label.publicUntrusted .no [5, 6]),
    .call (.nodeRegister ⟨0⟩ waiterNode "waiter" Label.publicUntrusted 6 .no [7]),
    .register ⟨0⟩, .register ⟨0⟩, .register ⟨0⟩,
    .call (.channelCreate ⟨1⟩ "self" Label.publicUntrusted .no [8, 9]),
    .call (.waitOnChannels ⟨1⟩ [9] .no), .wait ⟨1⟩,
    .stop, .stop, .stop,
    .wait ⟨1⟩, .wait ⟨1⟩, .wait ⟨1⟩]

/-- The waiter `stopBeforeSelfWait` leaves parked. -/
def selfWaiter : Waiter := ⟨⟨1⟩, [9], .no, [0], [⟨1, .read⟩], .parked 0⟩

theorem stranded_after_selfWait :
    ∃ σ ni, run (init Runtime.fresh) stopBeforeSelfWait = some σ ∧ σ.Stranded ⟨1⟩ 1 0 ni [selfWaiter] [] [] :=
  ⟨_, _, rfl,
    ⟨⟨rfl, rfl, ⟨9, rfl⟩, ⟨8, rfl⟩, Runtime.sole_of_entries (by decide) (by decide), by decide⟩,
      rfl, List.cons_ne_nil _ _, by simp [selfWaiter], by decide, rfl, rfl⟩⟩

/-- `stop` never returns. After `stopBeforeSelfWait`, whatever sections the threads run
    next and in whatever order, `stop` is still joining node 1, node 1's thread is
    still parked, and neither can run a section. -/
theorem stop_never_returns :
    ∃ σ, run (init Runtime.fresh) stopBeforeSelfWait = some σ ∧ ∀ secs σ', σ.run secs = some σ' →
      σ'.stopping = .joining [⟨1⟩] [] ∧ σ'.step .stop = none ∧ σ'.step (.wait ⟨1⟩) = none ∧
        σ'.waitersOf ⟨1⟩ = [selfWaiter] := by
  obtain ⟨σ, ni, hrun, hs⟩ := stranded_after_selfWait
  refine ⟨σ, hrun, fun secs σ' h => ?_⟩
  have hs' := stranded_run hs h
  exact ⟨hs'.stopping, hs'.blocked.1, hs'.blocked.2, hs'.waiters⟩

end Shared

end OakRuntime

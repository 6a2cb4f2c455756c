import OakRuntime.Sections
import OakRuntime.Noninterference

/-!
# Threads Sharing the Runtime

`OakRuntime.Run` runs every call whole. Here each node's thread runs its calls section
by section (`OakRuntime.Sections`), and a schedule picks which thread runs the next
section. The threads are those of the nodes, whose calls start with `Section.call`,
and the one thread that calls `Runtime::stop`. `Shared` is the runtime with what each
thread inside a call still has to do:

* a thread inside `channel_write` holds the result and the event it logs next;
* a thread inside `wait_on_channels` is at the head of its loop, registering on its
  channels, about to park, or parked;
* a thread inside `node_register` is past its checks, has configured the new node, or
  has spawned its thread;
* the thread of `stop` has stored `terminating`, woken the waiters, taken the stoppers,
  or joined some of the nodes.

Parking is modelled as `std::thread` does it. Every thread has one token:
`Thread::unpark` of a parked thread wakes it, and of any other thread sets its token;
`thread::park` with the token set clears it and returns at once. Each pass of the wait
loop makes a new `Arc` of the thread and registers a weak reference to it on every
channel; a channel's `wake_waiters` unparks the threads whose `Arc` is still alive,
and a pass drops its `Arc` when the loop comes back to its head. Modelled from the
spec: a channel keeps one waiter entry per thread, `wake_waiters` runs after an
enqueue, and a drop that takes a channel's readers or writers to zero wakes the
channel's waiters too. An enqueue and its wake-up are one section here.

A schedule whose sections of one call follow each other is the sequential model:
`step_write_log` says so for `channel_write`, `step_register_serial` for
`node_register`, and `stop_serial` for `stop`. Two facts show what `stop` ensures. Once it has stored `terminating`, every
registration that starts fails and every pass of a wait loop that starts returns
`ErrTerminated` (`register_after_store`, `wait_after_store`). The calls that passed
their checks before are not covered:

* a waiting thread that read `is_terminating` before the store and registered its
  `Arc` after `notify_all_waiters` parks with nothing in `stop` left to wake it, and
  `stop` waits to join it (`parked_after_stop`; `OakRuntime.Deadlock` shows that the
  wait can last for ever);
* a registration whose checks passed before the store spawns its node and stores the
  node's stopper after `stop` has taken the stoppers and returned
  (`stopper_after_stop`).

## Main definitions

* `Shared`: The runtime and the threads inside it.
* `Section`: One section of one thread.
* `Shared.step`, `Shared.run`: Running sections.
* `Shared.StopInv`: Once `stop` has started, the runtime is terminating.

## Theorems

* `Shared.step_write_log`, `Shared.step_register_serial`, `Shared.stop_serial`: A call
  run section after section is the whole call.
* `Shared.stopInv_run`: The invariant holds along every schedule.
* `Shared.register_after_store`, `Shared.wait_after_store`: What the store stops.
* `Shared.dequeued_before_enqueued`: A reader can log its dequeue first.
* `Shared.parked_after_stop`: A waiter parks for good after `notify_all_waiters`.
* `Shared.stopper_after_stop`: A node starts after `stop` has returned.
-/

namespace OakRuntime

namespace Runtime

/-- The channels whose last reader or last writer is gone in `s'` but not in `s`. -/
def orphaned (s s' : Runtime) : List Nat :=
  (List.range s.channels.length).filter fun c =>
    (decide (s.hasReaders c) && !decide (s'.hasReaders c)) ||
      (decide (s.hasWriters c) && !decide (s'.hasWriters c))

variable {s s' : Runtime}

/-- No call clears `terminating`. -/
theorem terminating_step {call : Call} {o : Outcome} (h : s.step call = some (o, s'))
    (ht : s.terminating = true) : s'.terminating = true := by
  cases step_effect h with
  | failed _ hl => obtain ⟨_, rfl⟩ := hl; exact ht
  | empty _ | waited => exact ht
  | created _ _ hi | cloned _ _ hi => rw [hi.terminating_eq]; exact ht
  | written hw => rw [hw.post]; exact ht
  | read hr | tryRead hr => rw [hr.terminating_eq]; exact ht
  | closed hd => rw [hd.terminating_eq]; exact ht
  | registered _ hr => rw [hr.terminating_eq]; exact ht
  | removed hr => rw [hr.terminating_eq]; exact ht
  | stopped => rfl

theorem terminating_channelWriteBlock {n : NodeId} {k : Handle} {nm : NodeMessage} {d : Downgrading}
    {r : Except OakStatus (ChannelHalf × Except OakStatus Unit × EventDetails)}
    (h : s.channelWriteBlock n k nm d = some (r, s')) (ht : s.terminating = true) : s'.terminating = true := by
  have hw : s.step (.channelWrite n k nm d) = some (.written (logBlock (r, s')).1, (logBlock (r, s')).2) := by
    simp only [step, channelWrite_eq_block, h, Option.map_some']
  have := terminating_step hw ht
  rcases r with _ | ⟨_, _, _⟩ <;> exact this

theorem terminating_registerEnter {n : NodeId} {c : CreatedNode} {l : Label} {k : Handle} {d : Downgrading}
    {r : Except OakStatus (ChannelHalf × NodeId)} (h : s.registerEnter n c l k d = some (r, s')) :
    s'.terminating = s.terminating := by
  unfold registerEnter checked at h
  split at h
  · cases h; rfl
  repeat' split at h <;> try cases h <;> rfl

theorem terminating_registerConfigure {m : NodeId} {c : CreatedNode} {name : String} {l : Label}
    {reader : ChannelHalf} {rng : List Handle} (h : s.registerConfigure m c name l reader rng = some s') :
    s'.terminating = s.terminating := by
  unfold registerConfigure at h
  split at h
  · cases h
  obtain rfl := Option.some.inj h
  have hi := newAbiHandle_installed ‹_›
  split <;> simp only [terminating_reclaim, hi.terminating_eq] <;> rfl

theorem terminating_addNodeStopper {m : NodeId} {st : NodeStopper} (h : s.addNodeStopper m st = some s') :
    s'.terminating = s.terminating := by
  unfold addNodeStopper at h
  repeat' split at h <;> try cases h <;> rfl

end Runtime

/-- A node's thread inside `channel_write`, between its block and its log: the result
    it returns and the event it logs. -/
structure Logging where
  nodeId : NodeId
  result : Except OakStatus Unit
  event : EventDetails

/-- Where a thread is in the loop of `wait_on_channels`, with the number of the `Arc`
    (`thread_ref`) it holds. -/
inductive WaitPc where
  /-- At the head of the loop, about to read `is_terminating`; the `Arc` of the pass
      that parked is dropped with that read. -/
  | check (threadRef : Option Nat)
  /-- Registering the `Arc` on the channels of the halves in `rest`, one by one. -/
  | addWaiters (threadRef : Nat) (rest : List ChannelHalf)
  /-- Every status is `NotReady`: about to call `thread::park`. -/
  | park (threadRef : Nat)
  /-- Inside `thread::park`. -/
  | parked (threadRef : Nat)
  deriving DecidableEq

namespace WaitPc

/-- The `Arc` the thread holds. -/
def threadRef : WaitPc → Option Nat
  | check r => r
  | addWaiters r _ | park r | parked r => some r

/-- The thread is inside `thread::park`. -/
def isParked : WaitPc → Bool
  | parked _ => true
  | _ => false

end WaitPc

/-- A node's thread inside `wait_on_channels`: the call's arguments, the read halves it
    collected and their positions, and where it is in the loop. -/
structure Waiter where
  nodeId : NodeId
  readHandles : List Handle
  downgrade : Downgrading
  readerPos : List Nat
  readers : List ChannelHalf
  pc : WaitPc

/-- Where a thread is in `node_register` after its checks. -/
inductive RegisterPc where
  /-- The checks passed and the new id is taken. -/
  | entered
  /-- `node_configure_instance` and `new_abi_handle` have run. -/
  | configured
  /-- `node_start_instance` has spawned the new node's thread. -/
  | started
  deriving DecidableEq

/-- A node's thread inside `node_register`, past its checks: the call's arguments, the
    caller's read half, the new id, and where it is. -/
structure Registering where
  nodeId : NodeId
  createdNode : CreatedNode
  nodeName : String
  label : Label
  rng : List Handle
  reader : ChannelHalf
  newNodeId : NodeId
  pc : RegisterPc

/-- Where the thread that calls `Runtime::stop` is. -/
inductive StopPc where
  | idle
  /-- `terminating` is stored. -/
  | stored
  /-- `notify_all_waiters` has run. -/
  | notified
  /-- The stoppers are taken: the nodes of `stoppers` are still to be joined, those of
      `joined` are. -/
  | joining (stoppers joined : List NodeId)
  /-- `stop` has returned. -/
  | returned (joined : List NodeId)
  deriving DecidableEq

/-- The runtime the threads share, and every thread inside a call. -/
structure Shared where
  runtime : Runtime
  logging : List Logging
  waiting : List Waiter
  registering : List Registering
  /-- The channels' waiter entries: the channel, the thread, and the `Arc` its weak
      reference points to. -/
  waitlist : List (Nat × NodeId × Nat)
  /-- The threads whose park token is set. -/
  tokens : List NodeId
  /-- The number of the next `Arc`. -/
  nextThreadRef : Nat
  stopping : StopPc
  /-- The nodes whose thread `node_start_instance` spawned, in order. -/
  spawned : List NodeId

/-- One section, run by one thread. -/
inductive Section where
  /-- A node's thread starts a call and runs its first section. -/
  | call (c : Call)
  /-- Node `n`'s thread, inside `channel_write`, logs the event and returns. -/
  | log (n : NodeId)
  /-- Node `n`'s thread runs the next section of `wait_on_channels`. -/
  | wait (n : NodeId)
  /-- Node `n`'s thread runs the next section of `node_register`. -/
  | register (n : NodeId)
  /-- The thread of `stop` runs its next section. -/
  | stop

namespace Shared

/-- A runtime with no thread inside a call. -/
def init (s : Runtime) : Shared := ⟨s, [], [], [], [], [], 0, .idle, []⟩

variable (σ : Shared)

/-- Node `n`'s thread is inside a call. -/
def busy (n : NodeId) : Bool :=
  σ.logging.any (·.nodeId == n) || σ.waiting.any (·.nodeId == n) || σ.registering.any (·.nodeId == n)

/-- The `Arc` numbered `r` of node `m`'s thread is alive. -/
def alive (m : NodeId) (r : Nat) : Bool := σ.waiting.any fun w => w.nodeId == m && w.pc.threadRef == some r

/-- `Thread::unpark` of node `m`'s thread: a parked thread goes back to the head of its
    loop, any other thread keeps the token for its next `park`. -/
def unpark (m : NodeId) : Shared :=
  if σ.waiting.any fun w => w.nodeId == m && w.pc.isParked then
    { σ with waiting := σ.waiting.map fun w => if w.nodeId = m then { w with pc := .check w.pc.threadRef } else w }
  else if m ∈ σ.tokens then σ else { σ with tokens := m :: σ.tokens }

/-- `Channel::wake_waiters` of channel `c`: unpark every thread whose entry points to a
    live `Arc`. -/
def wakeWaiters (c : Nat) : Shared :=
  ((σ.waitlist.filter fun x => x.1 == c && σ.alive x.2.1 x.2.2).map (·.2.1)).foldl unpark σ

/-- `Channel::add_waiter`: the entry of node `m`'s thread on channel `c` now points to
    the `Arc` numbered `r`. -/
def addWaiter (c : Nat) (m : NodeId) (r : Nat) : Shared :=
  { σ with waitlist := (σ.waitlist.filter fun x => !(x.1 == c && x.2.1 == m)) ++ [(c, m, r)] }

/-- `Runtime::notify_all_waiters`: wake the waiters of the channel of every half in
    every node's table. -/
def notifyAllWaiters : Shared := σ.runtime.tableHalves.foldl (fun τ half => τ.wakeWaiters half.channel) σ

/-- Install the runtime a section leaves, and wake the waiters of every channel whose
    last reader or writer it dropped. -/
def commit (s' : Runtime) : Shared :=
  (σ.runtime.orphaned s').foldl (fun τ c => τ.wakeWaiters c) { σ with runtime := s' }

/-- Replace the waiter of node `w.nodeId`. -/
def setWaiter (w : Waiter) : Shared :=
  { σ with waiting := σ.waiting.map fun v => if v.nodeId = w.nodeId then w else v }

/-- Node `n`'s thread returns from `wait_on_channels`, dropping its `Arc`. -/
def dropWaiter (n : NodeId) : Shared := { σ with waiting := σ.waiting.filter (·.nodeId != n) }

/-- Replace the registration of node `g.nodeId`. -/
def setRegistering (g : Registering) : Shared :=
  { σ with registering := σ.registering.map fun v => if v.nodeId = g.nodeId then g else v }

/-- Node `n`'s thread returns from `node_register`. -/
def dropRegistering (n : NodeId) : Shared := { σ with registering := σ.registering.filter (·.nodeId != n) }

/-- The first section of `node_register`; the thread goes on only when it passes. -/
def beginRegister (n : NodeId) (c : CreatedNode) (name : String) (label : Label) (k : Handle) (d : Downgrading)
    (rng : List Handle) : Option (Option Outcome × Shared) :=
  (σ.runtime.registerEnter n c label k d).map fun
    | (.error e, s') => (some (.registered (.error e)), σ.commit s')
    | (.ok (reader, newNodeId), s') =>
      (none, { σ.commit s' with
        registering := σ.registering ++ [⟨n, c, name, label, rng, reader, newNodeId, .entered⟩] })

/-- A call that runs whole. -/
def whole (c : Call) : Option (Option Outcome × Shared) :=
  (σ.runtime.step c).map fun (o, s') => (some o, σ.commit s')

/-- The first section of a call. `channel_write` runs its block, waking the channel's
    waiters when it enqueued; `node_register` runs its checks; `wait_on_channels`
    collects its read halves; every other call runs whole. `stop` is not a node's
    call: its thread runs `Section.stop`. -/
def begin : Call → Option (Option Outcome × Shared)
  | .channelWrite n k nm d =>
    (σ.runtime.channelWriteBlock n k nm d).map fun
      | (.error e, s') => (some (.written (.error e)), σ.commit s')
      | (.ok (half, r, e), s') =>
        let τ := { σ.commit s' with logging := σ.logging ++ [⟨n, r, e⟩] }
        (none, match r with
          | .ok () => τ.wakeWaiters half.channel
          | .error _ => τ)
  | .nodeRegister n c name label k d rng => σ.beginRegister n c name label k d rng
  | .nodeCreateAndRegister n (some c) name label k d rng => σ.beginRegister n c name label k d rng
  | .waitOnChannels n hs d =>
    match σ.runtime.collectReaders n hs.enum, σ.runtime.nodeInfos.lookup n with
    | some (readerPos, readers), some _ =>
      some (none, { σ with waiting := σ.waiting ++ [⟨n, hs, d, readerPos, readers, .check none⟩] })
    | _, _ => none
  | .stop => none
  | c => σ.whole c

/-- The next section of the waiter `w`. -/
def waitStep (w : Waiter) : Option (Option Outcome × Shared) :=
  match w.pc with
  | .check _ =>
    if σ.runtime.terminating then
      some (some (.waited (.returned (.error .errTerminated))), σ.dropWaiter w.nodeId)
    else
      some (none, { σ.setWaiter { w with pc := .addWaiters σ.nextThreadRef w.readers } with
        nextThreadRef := σ.nextThreadRef + 1 })
  | .addWaiters r (half :: rest) =>
    some (none, (σ.addWaiter half.channel w.nodeId r).setWaiter { w with pc := .addWaiters r rest })
  | .addWaiters r [] =>
    (σ.runtime.waitStatuses w.nodeId w.readHandles w.downgrade w.readerPos w.readers).map fun
      | some allStatuses => (some (.waited (.returned (.ok allStatuses))), σ.dropWaiter w.nodeId)
      | none => (none, σ.setWaiter { w with pc := .park r })
  | .park r =>
    if w.nodeId ∈ σ.tokens then
      some (none, { σ.setWaiter { w with pc := .check (some r) } with tokens := σ.tokens.erase w.nodeId })
    else some (none, σ.setWaiter { w with pc := .parked r })
  | .parked _ => none

/-- The next section of the registration `g`. -/
def registerStep (g : Registering) : Option (Option Outcome × Shared) :=
  match g.pc with
  | .entered =>
    (σ.runtime.registerConfigure g.newNodeId g.createdNode g.nodeName g.label g.reader g.rng).map fun s' =>
      (none, (σ.commit s').setRegistering { g with pc := .configured })
  | .configured =>
    some (none, { σ.setRegistering { g with pc := .started } with spawned := σ.spawned ++ [g.newNodeId] })
  | .started =>
    (σ.runtime.addNodeStopper g.newNodeId ⟨g.nodeName⟩).map fun s' =>
      (some (.registered (.ok ())), (σ.commit s').dropRegistering g.nodeId)

/-- The next section of `stop`. Joining a node waits until its thread has returned and
    removed its record. -/
def stopStep : StopPc → Option (Option Outcome × Shared)
  | .idle => some (none, { σ.commit σ.runtime.storeTerminating with stopping := .stored })
  | .stored => some (none, { σ.notifyAllWaiters with stopping := .notified })
  | .notified =>
    some (none, { σ.commit σ.runtime.takeStoppers with stopping := .joining σ.runtime.stopperIds [] })
  | .joining (n :: rest) joined =>
    if n ∈ σ.runtime.nodeInfos then none else some (none, { σ with stopping := .joining rest (joined ++ [n]) })
  | .joining [] joined => some (some .stopped, { σ with stopping := .returned joined })
  | .returned _ => none

/-- Run one section. A node's thread starts a call only when it is inside none; a
    section that ends a call returns the call's outcome. -/
def step : Section → Option (Option Outcome × Shared)
  | .call c => if c.nodeId.any σ.busy then none else σ.begin c
  | .log n =>
    match σ.logging.find? (·.nodeId == n) with
    | none => none
    | some l =>
      some (some (.written l.result), { σ.commit (σ.runtime.introspectionEvent l.event) with
        logging := σ.logging.filter (·.nodeId != n) })
  | .wait n => (σ.waiting.find? (·.nodeId == n)).bind σ.waitStep
  | .register n => (σ.registering.find? (·.nodeId == n)).bind σ.registerStep
  | .stop => σ.stopStep σ.stopping

/-- Run sections one after another; `none` if one is not enabled or panics. -/
def run : Shared → List Section → Option Shared
  | σ, [] => some σ
  | σ, sec :: secs =>
    match σ.step sec with
    | none => none
    | some (_, σ') => run σ' secs

/-- What every section keeps holds after every schedule. -/
theorem run_invariant {P : Shared → Prop}
    (hstep : ∀ {σ σ' : Shared} {sec : Section} {o : Option Outcome}, P σ → σ.step sec = some (o, σ') → P σ')
    {σ σ' : Shared} {secs : List Section} (h0 : P σ) (h : σ.run secs = some σ') : P σ' := by
  induction secs generalizing σ with
  | nil => cases h; exact h0
  | cons sec secs ih =>
    simp only [run] at h
    split at h
    · cases h
    exact ih (hstep h0 ‹_›) h

/-! ### Wake-ups -/

/-- `τ` is `σ` after wake-ups: only where the waiting threads are and the tokens
    differ. -/
structure Woken (σ τ : Shared) : Prop where
  runtime : τ.runtime = σ.runtime
  logging : τ.logging = σ.logging
  registering : τ.registering = σ.registering
  waitlist : τ.waitlist = σ.waitlist
  nextThreadRef : τ.nextThreadRef = σ.nextThreadRef
  stopping : τ.stopping = σ.stopping
  spawned : τ.spawned = σ.spawned
  waiters : τ.waiting.map (·.nodeId) = σ.waiting.map (·.nodeId)

namespace Woken

variable {σ τ υ : Shared}

theorem refl (σ : Shared) : Woken σ σ := ⟨rfl, rfl, rfl, rfl, rfl, rfl, rfl, rfl⟩

theorem trans (h₁ : Woken σ τ) (h₂ : Woken τ υ) : Woken σ υ :=
  ⟨h₂.runtime.trans h₁.runtime, h₂.logging.trans h₁.logging, h₂.registering.trans h₁.registering,
    h₂.waitlist.trans h₁.waitlist, h₂.nextThreadRef.trans h₁.nextThreadRef, h₂.stopping.trans h₁.stopping,
    h₂.spawned.trans h₁.spawned, h₂.waiters.trans h₁.waiters⟩

theorem foldl {β : Type} {f : Shared → β → Shared} (hf : ∀ τ b, Woken τ (f τ b)) (bs : List β) (σ : Shared) :
    Woken σ (bs.foldl f σ) := by
  induction bs generalizing σ with
  | nil => exact refl σ
  | cons b bs ih => exact (hf σ b).trans (ih _)

theorem unpark (σ : Shared) (m : NodeId) : Woken σ (σ.unpark m) := by
  unfold Shared.unpark
  split_ifs
  · refine ⟨rfl, rfl, rfl, rfl, rfl, rfl, rfl, ?_⟩
    simp only [List.map_map]
    congr 1; funext w
    simp only [Function.comp]
    split <;> rfl
  all_goals exact ⟨rfl, rfl, rfl, rfl, rfl, rfl, rfl, rfl⟩

theorem wakeWaiters (σ : Shared) (c : Nat) : Woken σ (σ.wakeWaiters c) := foldl unpark _ σ

theorem notifyAllWaiters (σ : Shared) : Woken σ σ.notifyAllWaiters :=
  foldl (fun τ (half : ChannelHalf) => wakeWaiters τ half.channel) _ σ

theorem commit (σ : Shared) (s' : Runtime) : Woken { σ with runtime := s' } (σ.commit s') :=
  foldl (fun τ c => wakeWaiters τ c) _ _

end Woken

@[simp] theorem runtime_commit (s' : Runtime) : (σ.commit s').runtime = s' := (Woken.commit σ s').runtime

@[simp] theorem stopping_commit (s' : Runtime) : (σ.commit s').stopping = σ.stopping := (Woken.commit σ s').stopping

@[simp] theorem logging_commit (s' : Runtime) : (σ.commit s').logging = σ.logging := (Woken.commit σ s').logging

@[simp] theorem registering_commit (s' : Runtime) : (σ.commit s').registering = σ.registering :=
  (Woken.commit σ s').registering

/-! ### The sequential model -/

variable {σ}

/-- A write whose two sections run back to back, from a state where no thread is
    inside a write, is the whole `channel_write`. -/
theorem step_write_log {σ₁ : Shared} {n : NodeId} {k : Handle} {nm : NodeMessage} {d : Downgrading}
    (hidle : σ.logging = []) (h : σ.step (.call (.channelWrite n k nm d)) = some (none, σ₁)) :
    ∃ r σ₂, σ₁.step (.log n) = some (some (.written r), σ₂) ∧ σ₂.logging = [] ∧
      σ.runtime.channelWrite n k nm d = some (r, σ₂.runtime) := by
  simp only [step] at h
  split at h
  · cases h
  obtain ⟨⟨_ | ⟨half, r, e⟩, s₁⟩, hb, he⟩ := Option.map_eq_some'.1 h
  · cases he
  -- after the block, this thread is the only one about to log
  have hw : Woken { σ.commit s₁ with logging := σ.logging ++ [⟨n, r, e⟩] } σ₁ := by
    rcases r with _ | ⟨⟩ <;> cases he
    · exact .refl _
    · exact .wakeWaiters _ _
  have hl : σ₁.logging = [⟨n, r, e⟩] := by rw [hw.logging, hidle]; rfl
  refine ⟨r, _, by simp only [step, hl, List.find?, beq_self_eq_true]; rfl, by simp [hl], ?_⟩
  rw [runtime_commit, hw.runtime, Runtime.channelWrite_eq_block, hb]
  simp [Runtime.logBlock]

/-- Node 0 creates a channel and writes one byte to it through its write half. -/
theorem write_log_one :
    ∃ σ σ₁, (init Runtime.fresh).run [.call (.channelCreate ⟨0⟩ "in" Label.publicUntrusted .no [5, 6])] = some σ ∧
      σ.logging = [] ∧ σ.step (.call (.channelWrite ⟨0⟩ 5 ⟨[1], []⟩ .no)) = some (none, σ₁) ∧
      ∃ r σ₂, σ₁.step (.log ⟨0⟩) = some (some (.written r), σ₂) ∧ σ₂.logging = [] ∧
        σ.runtime.channelWrite ⟨0⟩ 5 ⟨[1], []⟩ .no = some (r, σ₂.runtime) :=
  ⟨_, _, rfl, rfl, rfl, step_write_log rfl rfl⟩

/-- A registration whose sections run back to back, from a state where no thread is
    inside a registration, is the whole `node_register`: its sections run to the end
    exactly when the call returns `Ok`, and leave the call's state. -/
theorem step_register_serial {σ₁ : Shared} {p : NodeId} {c : CreatedNode} {name : String} {label : Label}
    {k : Handle} {d : Downgrading} {rng : List Handle} (hidle : σ.registering = [])
    (h : σ.step (.call (.nodeRegister p c name label k d rng)) = some (none, σ₁)) :
    (σ₁.run [.register p, .register p, .register p]).map (·.runtime) =
      (σ.runtime.nodeRegister p c name label k d rng).map (·.2) := by
  simp only [step] at h
  split at h
  · cases h
  obtain ⟨⟨_ | ⟨reader, newNodeId⟩, s₁⟩, he, h⟩ := Option.map_eq_some'.1 h
  · cases h
  cases h
  rw [Runtime.nodeRegister_eq_sections, he]
  simp only [Option.some_bind, Runtime.registerRest, Runtime.registerFinish]
  rcases hc : s₁.registerConfigure newNodeId c name label reader rng with _ | s₂
  · simp [run, step, hidle, registerStep, hc]
  rcases ha : s₂.addNodeStopper newNodeId ⟨name⟩ with _ | s₃ <;>
    simp [run, step, hidle, registerStep, hc, ha, setRegistering, dropRegistering]

/-- Node 0 creates a channel and starts a child with its read half. -/
theorem register_serial_child :
    ∃ σ σ₁, (init Runtime.fresh).run [.call (.channelCreate ⟨0⟩ "in" Label.publicUntrusted .no [5, 6])] = some σ ∧
      σ.registering = [] ∧
      σ.step (.call (.nodeRegister ⟨0⟩ ⟨"child", .sandboxed, NodePrivilege.default⟩ "child" Label.publicUntrusted 6
        .no [7])) = some (none, σ₁) ∧
      (σ₁.run [.register ⟨0⟩, .register ⟨0⟩, .register ⟨0⟩]).map (·.runtime) =
        (σ.runtime.nodeRegister ⟨0⟩ ⟨"child", .sandboxed, NodePrivilege.default⟩ "child" Label.publicUntrusted 6 .no
          [7]).map (·.2) :=
  ⟨_, _, rfl, rfl, rfl, step_register_serial rfl rfl⟩

/-- `stop`'s first three sections, run back to back, leave the state of
    `Runtime::stop`; then `stop` joins the nodes whose stoppers it took. -/
theorem stop_serial (hidle : σ.stopping = .idle) :
    ∃ σ₃, σ.run [.stop, .stop, .stop] = some σ₃ ∧ σ₃.runtime = σ.runtime.stop ∧
      σ₃.stopping = .joining σ.runtime.stopperIds [] := by
  refine ⟨_, by simp only [run, step, hidle, stopStep]; rfl, ?_, ?_⟩
  · simp [Runtime.stop_eq_sections, (Woken.notifyAllWaiters _).runtime]
  · simp only [(Woken.notifyAllWaiters _).runtime, runtime_commit]
    rfl

/-! ### What the store of `terminating` stops -/

variable {o : Option Outcome} {σ' : Shared}

theorem whole_keeps {c : Call} (h : σ.whole c = some (o, σ')) :
    σ'.stopping = σ.stopping ∧ (σ.runtime.terminating = true → σ'.runtime.terminating = true) := by
  obtain ⟨⟨_, s'⟩, hs, he⟩ := Option.map_eq_some'.1 h
  cases he
  exact ⟨stopping_commit _ _, fun ht => by simpa using Runtime.terminating_step hs ht⟩

theorem beginRegister_keeps {n : NodeId} {c : CreatedNode} {name : String} {label : Label} {k : Handle}
    {d : Downgrading} {rng : List Handle} (h : σ.beginRegister n c name label k d rng = some (o, σ')) :
    σ'.stopping = σ.stopping ∧ σ'.runtime.terminating = σ.runtime.terminating := by
  obtain ⟨⟨r, s'⟩, hs, he⟩ := Option.map_eq_some'.1 h
  have ht := Runtime.terminating_registerEnter hs
  rcases r with _ | ⟨_, _⟩ <;> cases he <;> exact ⟨stopping_commit _ _, by simpa using ht⟩

/-- A node's first section leaves `stop` where it is and does not clear the flag. -/
theorem begin_keeps {c : Call} (h : σ.begin c = some (o, σ')) :
    σ'.stopping = σ.stopping ∧ (σ.runtime.terminating = true → σ'.runtime.terminating = true) := by
  cases c
  case channelWrite n k nm d =>
    obtain ⟨⟨_ | ⟨half, r, e⟩, s'⟩, hb, he⟩ := Option.map_eq_some'.1 h
    · cases he
      exact ⟨stopping_commit _ _, fun ht => by simpa using Runtime.terminating_channelWriteBlock hb ht⟩
    have hw : Woken { σ.commit s' with logging := σ.logging ++ [⟨n, r, e⟩] } σ' := by
      rcases r with _ | ⟨⟩ <;> cases he
      · exact .refl _
      · exact .wakeWaiters _ _
    exact ⟨hw.stopping.trans (stopping_commit _ _), fun ht => by
      rw [hw.runtime]; simpa using Runtime.terminating_channelWriteBlock hb ht⟩
  case nodeRegister => exact (beginRegister_keeps h).imp_right fun e ht => e.trans ht
  case nodeCreateAndRegister c _ _ _ _ _ =>
    cases c
    · exact whole_keeps h
    · exact (beginRegister_keeps h).imp_right fun e ht => e.trans ht
  case waitOnChannels =>
    simp only [begin] at h
    split at h
    · cases h
      exact ⟨rfl, id⟩
    · cases h
  case stop => cases h
  all_goals exact whole_keeps h

/-- A section of a wait leaves the runtime and `stop` alone. -/
theorem waitStep_keeps {w : Waiter} (h : σ.waitStep w = some (o, σ')) :
    σ'.stopping = σ.stopping ∧ σ'.runtime = σ.runtime := by
  unfold waitStep at h
  split at h
  · split at h <;> cases h <;> exact ⟨rfl, rfl⟩
  · cases h
    exact ⟨rfl, rfl⟩
  · obtain ⟨_ | _, -, he⟩ := Option.map_eq_some'.1 h <;> cases he <;> exact ⟨rfl, rfl⟩
  · split at h <;> cases h <;> exact ⟨rfl, rfl⟩
  · cases h

theorem registerStep_keeps {g : Registering} (h : σ.registerStep g = some (o, σ')) :
    σ'.stopping = σ.stopping ∧ σ'.runtime.terminating = σ.runtime.terminating := by
  unfold registerStep at h
  split at h
  · obtain ⟨s', hs, he⟩ := Option.map_eq_some'.1 h
    cases he
    exact ⟨stopping_commit _ _, by simpa [setRegistering] using Runtime.terminating_registerConfigure hs⟩
  · cases h
    exact ⟨rfl, rfl⟩
  · obtain ⟨s', hs, he⟩ := Option.map_eq_some'.1 h
    cases he
    exact ⟨stopping_commit _ _, by simpa [dropRegistering] using Runtime.terminating_addNodeStopper hs⟩

/-- Only the first section of `stop` changes the flag, and it sets it. -/
theorem stopStep_terminating {pc : StopPc} (h : σ.stopStep pc = some (o, σ')) :
    σ'.runtime.terminating = true ∨ pc ≠ .idle ∧ σ'.runtime.terminating = σ.runtime.terminating := by
  unfold stopStep at h
  split at h <;> (try split at h) <;> cases h <;>
    simp [Runtime.storeTerminating, Runtime.takeStoppers, (Woken.notifyAllWaiters σ).runtime]

variable (σ)

/-- Once `stop` has started, the runtime is terminating. -/
def StopInv : Prop := σ.stopping ≠ .idle → σ.runtime.terminating = true

variable {σ}

theorem stopInv_init (s : Runtime) : (init s).StopInv := fun h => absurd rfl h

/-- Every section keeps the invariant: the only section that leaves `idle` stores the
    flag, and no section clears it. -/
theorem stopInv_step {sec : Section} (hi : σ.StopInv) (h : σ.step sec = some (o, σ')) : σ'.StopInv := by
  -- a section of a node's thread keeps `stop` where it is and the flag set
  have keep : σ'.stopping = σ.stopping → (σ.runtime.terminating = true → σ'.runtime.terminating = true) →
      σ'.StopInv := fun hs ht hne => ht (hi (hs ▸ hne))
  cases sec with
  | call c =>
    simp only [step] at h
    split at h
    · cases h
    exact keep (begin_keeps h).1 (begin_keeps h).2
  | log n =>
    simp only [step] at h
    split at h
    · cases h
    cases h
    exact keep (stopping_commit _ _) fun ht => by simpa using ht
  | wait n =>
    obtain ⟨w, -, hw⟩ := Option.bind_eq_some.1 h
    exact keep (waitStep_keeps hw).1 fun ht => (waitStep_keeps hw).2 ▸ ht
  | register n =>
    obtain ⟨g, -, hg⟩ := Option.bind_eq_some.1 h
    exact keep (registerStep_keeps hg).1 fun ht => (registerStep_keeps hg).2.trans ht
  | stop =>
    rcases stopStep_terminating h with ht | ⟨hne, ht⟩
    · exact fun _ => ht
    · exact fun _ => ht.trans (hi hne)

theorem stopInv_run {secs : List Section} (hi : σ.StopInv) (h : σ.run secs = some σ') : σ'.StopInv :=
  run_invariant stopInv_step hi h

/-- Once `stop` has stored `terminating`, a registration that starts fails at its first
    check, and no thread is left inside it. -/
theorem register_after_store {s : Runtime} {secs : List Section} {p : NodeId} {c : CreatedNode}
    {name : String} {label : Label} {k : Handle} {d : Downgrading} {rng : List Handle}
    (hrun : (init s).run secs = some σ) (hstop : σ.stopping ≠ .idle)
    (h : σ.step (.call (.nodeRegister p c name label k d rng)) = some (o, σ')) :
    o = some (.registered (.error .errTerminated)) ∧ σ'.registering = σ.registering := by
  have ht := stopInv_run (stopInv_init s) hrun hstop
  simp only [step] at h
  split at h
  · cases h
  simp only [begin, beginRegister, Runtime.registerEnter, ht, if_true, Option.map_some'] at h
  cases h
  exact ⟨rfl, registering_commit _ _⟩

/-- Node 0 starts a registration after `stop` has stored the flag. -/
theorem register_after_first_stop :
    ∃ σ o σ', (init Runtime.fresh).run [.stop] = some σ ∧ σ.stopping ≠ .idle ∧
      σ.step (.call (.nodeRegister ⟨0⟩ ⟨"late", .sandboxed, NodePrivilege.default⟩ "late" Label.publicUntrusted 0 .no
        [1])) = some (o, σ') ∧ o = some (.registered (.error .errTerminated)) ∧ σ'.registering = σ.registering :=
  ⟨_, _, _, rfl, by decide, rfl, @register_after_store _ _ _ Runtime.fresh [.stop] ⟨0⟩
    ⟨"late", .sandboxed, NodePrivilege.default⟩ "late" Label.publicUntrusted 0 .no [1] rfl (by decide) rfl⟩

/-- Once `stop` has stored `terminating`, a pass of a wait loop that reads the flag
    returns `ErrTerminated`. -/
theorem wait_after_store {s : Runtime} {secs : List Section} {n : NodeId} {w : Waiter} {r : Option Nat}
    (hrun : (init s).run secs = some σ) (hstop : σ.stopping ≠ .idle) (hw : σ.waiting.find? (·.nodeId == n) = some w)
    (hpc : w.pc = .check r) :
    σ.step (.wait n) = some (some (.waited (.returned (.error .errTerminated))), σ.dropWaiter w.nodeId) := by
  have ht := stopInv_run (stopInv_init s) hrun hstop
  simp only [step, hw, Option.some_bind, waitStep, hpc, ht, if_true]

/-- Node 0 enters a wait on no handles, and `stop` stores the flag before its first
    pass reads it. -/
theorem wait_after_first_stop :
    ∃ σ w, (init Runtime.fresh).run [.call (.waitOnChannels ⟨0⟩ [] .no), .stop] = some σ ∧ σ.stopping ≠ .idle ∧
      σ.waiting.find? (·.nodeId == ⟨0⟩) = some w ∧ w.pc = .check none ∧
      σ.step (.wait ⟨0⟩) = some (some (.waited (.returned (.error .errTerminated))), σ.dropWaiter w.nodeId) :=
  ⟨_, _, rfl, by decide, rfl, rfl,
    @wait_after_store _ Runtime.fresh [.call (.waitOnChannels ⟨0⟩ [] .no), .stop] _ _ _ rfl (by decide) rfl rfl⟩

/-! ### Schedules -/

/-- The reader of `dequeued_before_enqueued`: a sandboxed node with no privilege. -/
def readerNode : CreatedNode := ⟨"reader", .sandboxed, NodePrivilege.default⟩

/-- Node 0 creates a public channel (handles 5 and 6) and starts node 1 with its read
    half (node 1's handle 7); node 0's thread runs the block of a write through handle
    5; node 1's thread reads through handle 7. -/
def dequeueFirst : List Section :=
  [.call (.channelCreate ⟨0⟩ "queue" Label.publicUntrusted .no [5, 6]),
    .call (.nodeRegister ⟨0⟩ readerNode "reader" Label.publicUntrusted 6 .no [7]),
    .register ⟨0⟩, .register ⟨0⟩, .register ⟨0⟩,
    .call (.channelWrite ⟨0⟩ 5 ⟨[1], []⟩ .no), .call (.channelRead ⟨1⟩ 7 .no [])]

/-- A reader logs its dequeue before the writer logs the enqueue. After the sections
    of `dequeueFirst`, the log holds a `MessageDequeued` for channel 0 and no
    `MessageEnqueued`; node 0's thread then logs its event and returns `Ok`, and the
    log of the earlier state is a prefix of the log it leaves. -/
theorem dequeued_before_enqueued :
    ∃ σ σ', run (init Runtime.fresh) dequeueFirst = some σ ∧
      σ.step (.log ⟨0⟩) = some (some (.written (.ok ())), σ') ∧ σ'.logging = [] ∧
      σ.runtime.enqueuedEvents 0 < σ.runtime.dequeuedEvents 0 ∧
      σ.runtime.introspectionEventQueue <+: σ'.runtime.introspectionEventQueue :=
  ⟨_, _, rfl, rfl, rfl, by decide, List.prefix_append _ _⟩

/-- The waiting node of `parked_after_stop`: a sandboxed node with no privilege. -/
def waiterNode : CreatedNode := ⟨"waiter", .sandboxed, NodePrivilege.default⟩

/-- Node 0 creates a channel (handles 5 and 6) and starts node 1 with its read half
    (node 1's handle 7). Node 1 waits on handle 7 and reads `is_terminating`; `stop`
    then stores the flag, wakes the waiters and takes node 1's stopper; then node 1
    registers on the channel, finds it empty, and parks. -/
def stopBeforeAddWaiter : List Section :=
  [.call (.channelCreate ⟨0⟩ "in" Label.publicUntrusted .no [5, 6]),
    .call (.nodeRegister ⟨0⟩ waiterNode "waiter" Label.publicUntrusted 6 .no [7]),
    .register ⟨0⟩, .register ⟨0⟩, .register ⟨0⟩,
    .call (.waitOnChannels ⟨1⟩ [7] .no), .wait ⟨1⟩,
    .stop, .stop, .stop,
    .wait ⟨1⟩, .wait ⟨1⟩, .wait ⟨1⟩]

/-- A wait loop parks after `stop` has woken the waiters. After `stopBeforeAddWaiter`
    the runtime is terminating, node 1's thread is parked with no token, no write is
    between its sections, and its channel is still `NotReady` for it; node 1 cannot
    move, and `stop` waits to join it. -/
theorem parked_after_stop :
    ∃ σ, run (init Runtime.fresh) stopBeforeAddWaiter = some σ ∧
      σ.runtime.terminating = true ∧ σ.tokens = [] ∧ σ.logging = [] ∧
      σ.waiting.map (fun w => (w.nodeId, w.pc)) = [(⟨1⟩, .parked 0)] ∧
      σ.runtime.channelStatus ⟨1⟩ ⟨0, .read⟩ .no = some (.ok .notReady) ∧
      σ.stopping = .joining [⟨1⟩] [] ∧ σ.step (.wait ⟨1⟩) = none ∧ σ.step .stop = none :=
  ⟨_, rfl, rfl, rfl, rfl, rfl, rfl, rfl, rfl, rfl⟩

/-- The node of `stopper_after_stop`: a sandboxed node with no privilege. -/
def childNode : CreatedNode := ⟨"child", .sandboxed, NodePrivilege.default⟩

/-- Node 0 creates a channel (handles 5 and 6) and registers node 1 with its read half;
    the registration's checks pass. Then `stop` runs to its return. -/
def stopDuringRegister : List Section :=
  [.call (.channelCreate ⟨0⟩ "in" Label.publicUntrusted .no [5, 6]),
    .call (.nodeRegister ⟨0⟩ childNode "child" Label.publicUntrusted 6 .no [7]),
    .stop, .stop, .stop, .stop]

/-- The registration goes on: it configures node 1, spawns its thread, and stores its
    stopper. -/
def registerAfterStop : List Section := [.register ⟨0⟩, .register ⟨0⟩, .register ⟨0⟩]

/-- A node starts after `stop` has returned. When `stop` returns after
    `stopDuringRegister` it has joined no node and no thread has been spawned; the
    sections of `registerAfterStop` then spawn node 1's thread and store its stopper in
    its record, which `stop` never takes. -/
theorem stopper_after_stop :
    ∃ σ σ', run (init Runtime.fresh) stopDuringRegister = some σ ∧ run σ registerAfterStop = some σ' ∧
      σ.stopping = .returned [] ∧ σ.spawned = [] ∧ σ'.stopping = .returned [] ∧ σ'.spawned = [⟨1⟩] ∧
      σ'.registering = [] ∧ (σ'.runtime.nodeInfos.lookup ⟨1⟩).bind NodeInfo.nodeStopper = some ⟨"child"⟩ :=
  ⟨_, _, rfl, rfl, rfl, rfl, rfl, rfl, rfl, rfl⟩

end Shared

end OakRuntime

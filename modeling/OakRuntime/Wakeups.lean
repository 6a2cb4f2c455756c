import OakRuntime.Threads

/-!
# No Lost Wake-up

`wait_on_channels` registers its thread on every channel before it reads the statuses,
so that a message enqueued between two of its sections is either seen by the statuses
or unparks the thread once it parks (spec, the wait protocol). This module proves
that ordering for every schedule of `OakRuntime.Threads`: in every state a schedule
reaches, a thread parked inside the wait loop holds no token, its entry on each
channel it waits on points to its live `Arc`, and each of those channels is still
empty and has a writer (`parked_quiet`). The only events that change that are an
enqueue on the channel and a drop that takes its last writer, and both run
`wake_waiters` on it.

The flag `terminating` is not part of this guarantee, and cannot be:
`Shared.parked_after_stop` parks a thread after `stop` has stored it.

A section that fills a queue or drops a channel's last writer breaks the guarantee
until its wake-ups have run. `Covered P` states the guarantee up to a list `P` of
channels whose wake-up is still due; each `wake_waiters` takes a channel off the list
(`Covered.wakeWaiters`), so that `commit` and the block of `channel_write` end with
nothing due.

## Main definitions

* `Runtime.Quiet`: A channel a waiter stays parked on: it exists, is empty, and has a
  writer.
* `Runtime.Calm`: A change of the runtime that fills no queue and drops no channel.
* `Shared.WaiterOk`: What each place of the wait loop guarantees.
* `Shared.Covered`: Every waiter's guarantee, up to the wake-ups still due.

## Theorems

* `Runtime.Quiet.calm`: Across a calm change, a quiet channel stays quiet unless its
  last writer went.
* `Shared.Covered.wakeWaiters`: A wake-up discharges its channel.
* `Shared.covered_step`, `Shared.covered_run`: The invariant along every schedule.
* `Shared.parked_quiet`: No lost wake-up.
-/

namespace OakRuntime

namespace Runtime

variable {s s' : Runtime} {c : Nat}

/-- Channel `c` exists, its queue is empty, and it has a writer: a waiter on it has
    nothing to read and no reason to wake. -/
def Quiet (s : Runtime) (c : Nat) : Prop := c < s.channels.length ∧ s.queueOf c = [] ∧ s.hasWriters c

/-- `s'` fills no queue of `s` and drops no channel. -/
def Calm (s s' : Runtime) : Prop :=
  s.channels.length ≤ s'.channels.length ∧ ∀ c, s.queueOf c = [] → s'.queueOf c = []

theorem mem_orphaned (hc : c < s.channels.length) (hw : s.hasWriters c) (hw' : ¬ s'.hasWriters c) :
    c ∈ s.orphaned s' := by
  simp [orphaned, hc, hw, hw']

/-- A quiet channel whose queue stays empty stays quiet, unless its last writer went. -/
theorem Quiet.of_le (h : s.Quiet c) (hlen : s.channels.length ≤ s'.channels.length) (hq : s'.queueOf c = []) :
    s'.Quiet c ∨ c ∈ s.orphaned s' := by
  by_cases hw : s'.hasWriters c
  · exact .inl ⟨lt_of_lt_of_le h.1 hlen, hq, hw⟩
  · exact .inr (mem_orphaned h.1 h.2.2 hw)

theorem Quiet.calm (hc : Calm s s') (h : s.Quiet c) : s'.Quiet c ∨ c ∈ s.orphaned s' :=
  h.of_le hc.1 (hc.2 c h.2.1)

theorem Calm.of_channels_eq (h : s'.channels = s.channels) : Calm s s' :=
  ⟨h ▸ le_rfl, fun c hc => (queueOf_of_channels_eq h c).trans hc⟩

/-- A call that is not a successful `channel_write` fills no queue. -/
theorem calm_step {call : Call} {o : Outcome} (h : s.step call = some (o, s'))
    (hs : Transition.submitted ⟨s, call, o, s'⟩ = none) : Calm s s' := by
  refine ⟨(heap_step h).1, fun c hc => ?_⟩
  have he : Transition.enqueued ⟨s, call, o, s'⟩ c = none := by simp [Transition.enqueued, hs]
  rcases queue_step h c with hcons | ⟨-, -, hd⟩
  · simp only [he, hc, Option.toList_none, List.append_nil] at hcons
    exact (List.append_eq_nil.1 hcons.symm).2
  · exact hd.1

theorem channels_registerEnter {n : NodeId} {cr : CreatedNode} {l : Label} {k : Handle} {d : Downgrading}
    {r : Except OakStatus (ChannelHalf × NodeId)} (h : s.registerEnter n cr l k d = some (r, s')) :
    s'.channels = s.channels := by
  unfold registerEnter checked at h
  split at h
  · cases h; rfl
  repeat' split at h <;> try cases h <;> rfl

theorem calm_registerConfigure {m : NodeId} {cr : CreatedNode} {name : String} {l : Label}
    {reader : ChannelHalf} {rng : List Handle} (h : s.registerConfigure m cr name l reader rng = some s') :
    Calm s s' := by
  unfold registerConfigure at h
  split at h
  · cases h
  obtain rfl := Option.some.inj h
  have hi := newAbiHandle_installed ‹_›
  have hc : Calm s _ := Calm.of_channels_eq hi.channels_eq
  split
  · refine ⟨hc.1.trans (by rw [reclaim, length_reclaimLoop]), fun c hq => ?_⟩
    rcases (Reclaimed.reclaim _).queueOf c with e | hd
    · exact e.trans (hc.2 c hq)
    · exact hd.1
  · exact hc

theorem channels_addNodeStopper {m : NodeId} {st : NodeStopper} (h : s.addNodeStopper m st = some s') :
    s'.channels = s.channels := by
  unfold addNodeStopper at h
  repeat' split at h <;> try cases h <;> rfl

/-- The block of `channel_write` changes nothing, or only the queue of the writer's
    channel, and then it enqueued. -/
theorem channelWriteBlock_cases {n : NodeId} {k : Handle} {nm : NodeMessage} {d : Downgrading}
    {r : Except OakStatus (ChannelHalf × Except OakStatus Unit × EventDetails)}
    (h : s.channelWriteBlock n k nm d = some (r, s')) :
    s' = s ∨ ∃ half ev q, r = .ok (half, .ok (), ev) ∧ s' = s.setQueue half.channel q := by
  unfold channelWriteBlock checked at h
  repeat' (split at h <;> try dsimp only at h)
  all_goals first
    | (cases h; done)
    | (cases h; exact .inl rfl)
    | (cases h; exact .inr ⟨_, _, _, rfl, rfl⟩)

/-- When the block enqueued on `c₀`, every other quiet channel stays quiet unless its
    last writer went. -/
theorem Quiet.setQueue {c₀ : Nat} {q : List Message} (h : s.Quiet c) (hc : c ≠ c₀) :
    (s.setQueue c₀ q).Quiet c ∨ c ∈ s.orphaned (s.setQueue c₀ q) :=
  h.of_le (by simp) ((queueOf_setQueue_ne (Ne.symm hc) q).trans h.2.1)

/-- When every status the wait loop read is `NotReady`, every channel it waits on is
    quiet. -/
theorem quiet_of_waitStatuses {n : NodeId} {hs : List Handle} {d : Downgrading} {pos : List Nat}
    {rds : List ChannelHalf} (h : s.waitStatuses n hs d pos rds = some none) : ∀ half ∈ rds, s.Quiet half.channel := by
  unfold waitStatuses at h
  rcases hsts : s.readersStatuses n d rds with _ | sts
  · simp [hsts] at h
  rcases htr : transcribe pos sts (List.range rds.length) (List.replicate hs.length .invalidChannel) with _ | all
  · simp [hsts, htr] at h
  have hall : sts.all (· == .notReady) = true := by
    by_contra hne
    simp [hsts, htr, hne] at h
  intro half hmem
  obtain ⟨q, hq⟩ := List.getElem?_of_mem hmem
  obtain ⟨x, hx, hsq⟩ := readersStatuses_getElem? hsts hq
  have hnr : statusOrInvalid x = .notReady := by
    simpa using List.all_eq_true.1 hall _ (List.getElem?_mem hsq)
  unfold channelStatus at hx
  split at hx
  · cases hx
  · cases hx
    cases hnr
  obtain ⟨_ | ch, hy, rfl⟩ := Option.map_eq_some'.1 hx
  · cases hnr
  obtain ⟨-, hch⟩ := withReaderChannel_eq_ok.1 hy
  simp only [statusOrInvalid, Except.map] at hnr
  split_ifs at hnr with hm hwr
  refine ⟨(List.getElem?_eq_some_iff.1 hch).1, ?_, hwr⟩
  simp [queueOf, hch, not_not.1 hm]

end Runtime

namespace Shared

variable (σ : Shared)

/-- The entry of waiter `w` on the channel of every half it reads points to its `Arc`
    numbered `r`. -/
def Registered (w : Waiter) (r : Nat) : Prop := ∀ half ∈ w.readers, (half.channel, w.nodeId, r) ∈ σ.waitlist

/-- What each place of the wait loop guarantees, up to the channels of `P`, whose
    wake-up is still due. Registering, the thread has an entry on the channels it has
    done; about to park, it has one on every channel, and unless its token is set every
    channel is quiet; parked, it has no token as well. -/
def WaiterOk (P : List Nat) (w : Waiter) : Prop :=
  match w.pc with
  | .check _ => True
  | .addWaiters r rest =>
    ∃ done, w.readers = done ++ rest ∧ ∀ half ∈ done, (half.channel, w.nodeId, r) ∈ σ.waitlist
  | .park r =>
    σ.Registered w r ∧ (w.nodeId ∉ σ.tokens → ∀ half ∈ w.readers, σ.runtime.Quiet half.channel ∨ half.channel ∈ P)
  | .parked r =>
    σ.Registered w r ∧ w.nodeId ∉ σ.tokens ∧ ∀ half ∈ w.readers, σ.runtime.Quiet half.channel ∨ half.channel ∈ P

/-- Every waiter's guarantee holds, up to the wake-ups of the channels of `P`. -/
def Covered (P : List Nat) : Prop := ∀ w ∈ σ.waiting, σ.WaiterOk P w

/-- No waiter of node `n` is parked, and one about to park has its token set: it does
    not stay parked, whatever becomes of its channels. -/
def Released (n : NodeId) : Prop :=
  ∀ w ∈ σ.waiting, w.nodeId = n → (∀ r, w.pc ≠ .parked r) ∧ ∀ r, w.pc = .park r → n ∈ σ.tokens

variable {σ} {P : List Nat}

/-- A waiter's guarantee carries over to a state that keeps its entries and its token,
    and keeps every quiet channel quiet up to the wake-ups due. -/
theorem WaiterOk.of_le {σ' : Shared} {P' : List Nat} {w : Waiter} (h : σ.WaiterOk P w)
    (hl : ∀ c r, (c, w.nodeId, r) ∈ σ.waitlist → (c, w.nodeId, r) ∈ σ'.waitlist)
    (ht : w.nodeId ∈ σ'.tokens ↔ w.nodeId ∈ σ.tokens)
    (hq : ∀ c, σ.runtime.Quiet c ∨ c ∈ P → σ'.runtime.Quiet c ∨ c ∈ P') : σ'.WaiterOk P' w := by
  cases hpc : w.pc <;> simp only [WaiterOk, hpc] at h ⊢
  case addWaiters r rest =>
    obtain ⟨done, hr, hd⟩ := h
    exact ⟨done, hr, fun half hh => hl _ _ (hd half hh)⟩
  case park r =>
    exact ⟨fun half hh => hl _ _ (h.1 half hh), fun hn half hh => hq _ (h.2 (fun ht' => hn (ht.2 ht')) half hh)⟩
  case parked r =>
    exact ⟨fun half hh => hl _ _ (h.1 half hh), fun ht' => h.2.1 (ht.1 ht'), fun half hh => hq _ (h.2.2 half hh)⟩

theorem waiterOk_check {w : Waiter} (hpc : ∃ r, w.pc = .check r) : σ.WaiterOk P w := by
  obtain ⟨r, hpc⟩ := hpc
  simp only [WaiterOk, hpc]

theorem alive_of_mem {w : Waiter} (hw : w ∈ σ.waiting) {r : Nat} (hr : w.pc.threadRef = some r) :
    σ.alive w.nodeId r = true :=
  List.any_eq_true.2 ⟨w, hw, by simp [hr]⟩

/-! ### Unparking -/

theorem mem_unpark {m : NodeId} {w : Waiter} (h : w ∈ (σ.unpark m).waiting) :
    w ∈ σ.waiting ∨ ∃ r, w.pc = .check r := by
  unfold unpark at h
  split_ifs at h
  · obtain ⟨v, hv, rfl⟩ := List.mem_map.1 h
    split_ifs
    · exact .inr ⟨_, rfl⟩
    · exact .inl hv
  all_goals exact .inl h

/-- Unparking keeps every guarantee: a parked thread goes back to the head of its loop,
    and a token only lifts the guarantee of the place before `park`. -/
theorem Covered.unpark (h : σ.Covered P) (m : NodeId) : (σ.unpark m).Covered P := by
  intro w hw
  unfold Shared.unpark at hw ⊢
  split_ifs at hw ⊢ with hpark htok
  · obtain ⟨v, hv, rfl⟩ := List.mem_map.1 hw
    split_ifs
    · exact waiterOk_check ⟨_, rfl⟩
    · exact (h v hv).of_le (fun _ _ => id) Iff.rfl fun _ => id
  · exact h w hw
  · by_cases hm : w.nodeId = m
    · -- no thread of `m` is parked, and `m` now has its token
      have hok := h w hw
      cases hpc : w.pc <;> simp only [WaiterOk, hpc] at hok ⊢
      · exact hok
      · exact ⟨hok.1, fun hn => absurd (hm ▸ List.mem_cons_self _ _) hn⟩
      · exact absurd (List.any_eq_true.2 ⟨w, hw, by simp [hm, hpc, WaitPc.isParked]⟩) hpark
    · exact (h w hw).of_le (fun _ _ => id) (by simp [hm]) fun _ => id

theorem released_unpark (σ : Shared) (n : NodeId) : (σ.unpark n).Released n := by
  intro w hw hn
  unfold Shared.unpark at hw ⊢
  split_ifs at hw ⊢ with hpark htok
  · obtain ⟨v, hv, rfl⟩ := List.mem_map.1 hw
    by_cases hvn : v.nodeId = n
    · simp [hvn]
    · simp [hvn] at hn
  all_goals
    refine ⟨fun r hr => hpark (List.any_eq_true.2 ⟨w, hw, by simp [hn, hr, WaitPc.isParked]⟩), fun r _ => ?_⟩
  · exact htok
  · exact List.mem_cons_self _ _

theorem Released.unpark {n : NodeId} (h : σ.Released n) (m : NodeId) : (σ.unpark m).Released n := by
  intro w hw hn
  unfold Shared.unpark at hw ⊢
  split_ifs at hw ⊢ with hpark htok
  · obtain ⟨v, hv, rfl⟩ := List.mem_map.1 hw
    by_cases hvm : v.nodeId = m
    · simp [hvm]
    · simp only [hvm, if_false] at hn ⊢
      exact h v hv hn
  · exact h w hw hn
  · exact (h w hw hn).imp_right fun h2 r hr => List.mem_cons_of_mem _ (h2 r hr)

theorem mem_foldl_unpark {ms : List NodeId} {w : Waiter} (h : w ∈ (ms.foldl Shared.unpark σ).waiting) :
    w ∈ σ.waiting ∨ ∃ r, w.pc = .check r := by
  induction ms generalizing σ with
  | nil => exact .inl h
  | cons m ms ih => exact (ih h).elim mem_unpark .inr

theorem Covered.foldl_unpark (h : σ.Covered P) (ms : List NodeId) : (ms.foldl Shared.unpark σ).Covered P := by
  induction ms generalizing σ with
  | nil => exact h
  | cons m ms ih => exact ih (h.unpark m)

theorem Released.foldl_unpark {n : NodeId} (h : σ.Released n) (ms : List NodeId) :
    (ms.foldl Shared.unpark σ).Released n := by
  induction ms generalizing σ with
  | nil => exact h
  | cons m ms ih => exact ih (h.unpark m)

theorem released_foldl_unpark {n : NodeId} {ms : List NodeId} (hn : n ∈ ms) (σ : Shared) :
    (ms.foldl Shared.unpark σ).Released n := by
  induction ms generalizing σ with
  | nil => cases hn
  | cons m ms ih =>
    rcases List.mem_cons.1 hn with rfl | hn
    · exact (released_unpark σ n).foldl_unpark ms
    · exact ih hn _

/-! ### Wake-ups -/

/-- A wake-up of channel `c` releases every thread whose live entry is on `c`. -/
theorem released_wakeWaiters {c : Nat} {n : NodeId} {r : Nat} (hmem : (c, n, r) ∈ σ.waitlist)
    (halive : σ.alive n r = true) : (σ.wakeWaiters c).Released n :=
  released_foldl_unpark (List.mem_map.2 ⟨(c, n, r), List.mem_filter.2 ⟨hmem, by simp [halive]⟩, rfl⟩) σ

theorem Covered.wake (h : σ.Covered P) (c : Nat) : (σ.wakeWaiters c).Covered P := h.foldl_unpark _

/-- A wake-up of channel `c` discharges it: a waiter still before `park` with no token,
    or parked, had a live entry on every channel it reads, so if it read `c` the wake-up
    released it. -/
theorem Covered.wakeWaiters {c : Nat} (h : σ.Covered (c :: P)) : (σ.wakeWaiters c).Covered P := by
  intro w hw
  have hok := h.wake c w hw
  have hfree : ∀ r, (w.pc = .park r ∧ w.nodeId ∉ (σ.wakeWaiters c).tokens) ∨ w.pc = .parked r →
      (σ.wakeWaiters c).Registered w r → ∀ half ∈ w.readers, half.channel ∈ c :: P → half.channel ∈ P := by
    intro r hr hreg half hh hm
    refine (List.mem_cons.1 hm).resolve_left fun he => ?_
    have hwσ : w ∈ σ.waiting := (mem_foldl_unpark hw).resolve_right fun ⟨_, hpc⟩ => by
      rcases hr with ⟨hr, -⟩ | hr <;> rw [hr] at hpc <;> cases hpc
    have hmem : (c, w.nodeId, r) ∈ σ.waitlist := by
      rw [← he, ← (Woken.wakeWaiters σ c).waitlist]
      exact hreg half hh
    have hrel := released_wakeWaiters hmem
      (alive_of_mem hwσ (by rcases hr with ⟨hr, -⟩ | hr <;> simp [hr, WaitPc.threadRef]))
    rcases hr with ⟨hr, hn⟩ | hr
    · exact hn ((hrel w hw rfl).2 r hr)
    · exact (hrel w hw rfl).1 r hr
  cases hpc : w.pc <;> simp only [WaiterOk, hpc] at hok ⊢
  case addWaiters => exact hok
  case park r =>
    exact ⟨hok.1, fun hn half hh => (hok.2 hn half hh).imp_right (hfree r (.inl ⟨hpc, hn⟩) hok.1 half hh)⟩
  case parked r =>
    exact ⟨hok.1, hok.2.1, fun half hh => (hok.2.2 half hh).imp_right (hfree r (.inr hpc) hok.1 half hh)⟩

theorem Covered.foldl_wake {cs : List Nat} (h : σ.Covered (cs ++ P)) :
    (cs.foldl (fun τ c => τ.wakeWaiters c) σ).Covered P := by
  induction cs generalizing σ with
  | nil => exact h
  | cons c cs ih => exact ih (Covered.wakeWaiters h)

/-- Installing a runtime in which every quiet channel stays quiet, except the orphaned
    ones and those of `Q`, and waking the orphaned ones, leaves the state covered up to
    `Q`. -/
theorem Covered.commit {s' : Runtime} {Q : List Nat} (h : σ.Covered [])
    (hq : ∀ c, σ.runtime.Quiet c → s'.Quiet c ∨ c ∈ σ.runtime.orphaned s' ∨ c ∈ Q) :
    (σ.commit s').Covered Q := by
  unfold Shared.commit
  refine Covered.foldl_wake fun w hw => (h w hw).of_le (fun _ _ => id) Iff.rfl fun c hc => ?_
  rcases hc with hc | hc
  · rcases hq c hc with h1 | h2 | h3
    · exact .inl h1
    · exact .inr (List.mem_append_left _ h2)
    · exact .inr (List.mem_append_right _ h3)
  · cases hc

theorem Covered.commit_calm {s' : Runtime} (h : σ.Covered []) (hc : σ.runtime.Calm s') : (σ.commit s').Covered [] :=
  h.commit fun _ hq => (hq.calm hc).imp_right .inl

/-! ### Every section -/

variable {o : Option Outcome} {σ' : Shared}

theorem covered_setWaiter {w' : Waiter} (h : ∀ v ∈ σ.waiting, v.nodeId ≠ w'.nodeId → σ.WaiterOk P v)
    (hw : σ.WaiterOk P w') : (σ.setWaiter w').Covered P := by
  intro v hv
  obtain ⟨u, hu, rfl⟩ := List.mem_map.1 hv
  split_ifs with he
  · exact hw
  · exact h u hu he

theorem mem_addWaiter {c : Nat} {m : NodeId} {r : Nat} {x : Nat × NodeId × Nat} (hx : x ∈ σ.waitlist)
    (hne : x.1 = c → x.2.1 = m → x = (c, m, r)) : x ∈ (σ.addWaiter c m r).waitlist := by
  by_cases hcm : x.1 = c ∧ x.2.1 = m
  · exact List.mem_append_right _ (List.mem_singleton.2 (hne hcm.1 hcm.2))
  · exact List.mem_append_left _ (List.mem_filter.2 ⟨hx, by simpa using not_and_or.1 hcm⟩)

/-- The sections of a wait keep every guarantee: the thread registers before it reads
    the statuses, and parks only when they are all `NotReady` and it has no token. -/
theorem covered_waitStep {w : Waiter} (hi : σ.Covered []) (hw : w ∈ σ.waiting) (h : σ.waitStep w = some (o, σ')) :
    σ'.Covered [] := by
  have hok := hi w hw
  have others : ∀ v ∈ σ.waiting, v.nodeId ≠ w.nodeId → σ.WaiterOk [] v := fun v hv _ => hi v hv
  unfold waitStep at h
  split at h
  case h_1 =>
    split at h <;> cases h
    · exact fun v hv => hi v (List.mem_of_mem_filter hv)
    · exact covered_setWaiter others (by simp [WaiterOk])
  case h_2 r half rest hpc =>
    cases h
    simp only [WaiterOk, hpc] at hok
    obtain ⟨done, hr, hd⟩ := hok
    refine covered_setWaiter (fun v hv hne => (hi v hv).of_le (fun c r' hx => mem_addWaiter hx ?_) Iff.rfl fun _ => id) ?_
    · exact fun _ he => absurd he hne
    refine ⟨done ++ [half], by simp [hr], fun x hx => ?_⟩
    rcases List.mem_append.1 hx with hx | hx
    · exact mem_addWaiter (hd x hx) fun he _ => Prod.ext he rfl
    · rw [List.mem_singleton.1 hx]
      exact List.mem_append_right _ (List.mem_singleton_self _)
  case h_3 r hpc =>
    obtain ⟨_ | _, hs, he⟩ := Option.map_eq_some'.1 h <;> cases he
    · simp only [WaiterOk, hpc, List.append_nil] at hok
      obtain ⟨done, rfl, hd⟩ := hok
      exact covered_setWaiter others ⟨hd, fun _ half hh => .inl (Runtime.quiet_of_waitStatuses hs half hh)⟩
    · exact fun v hv => hi v (List.mem_of_mem_filter hv)
  case h_4 r hpc =>
    simp only [WaiterOk, hpc] at hok
    split at h <;> cases h
    · intro v hv
      obtain ⟨u, hu, rfl⟩ := List.mem_map.1 hv
      split_ifs with he
      · simp [WaiterOk]
      · exact (hi u hu).of_le (fun _ _ => id) (List.mem_erase_of_ne he) fun _ => id
    · exact covered_setWaiter others ⟨hok.1, ‹_›, fun half hh => hok.2 ‹_› half hh⟩
  case h_5 => cases h

theorem covered_registerStep {g : Registering} (hi : σ.Covered []) (h : σ.registerStep g = some (o, σ')) :
    σ'.Covered [] := by
  unfold registerStep at h
  split at h
  · obtain ⟨s', hs, he⟩ := Option.map_eq_some'.1 h
    cases he
    exact hi.commit_calm (Runtime.calm_registerConfigure hs)
  · cases h
    exact hi
  · obtain ⟨s', hs, he⟩ := Option.map_eq_some'.1 h
    cases he
    exact hi.commit_calm (.of_channels_eq (Runtime.channels_addNodeStopper hs))

theorem Covered.notifyAllWaiters (h : σ.Covered P) : σ.notifyAllWaiters.Covered P := by
  unfold Shared.notifyAllWaiters
  generalize σ.runtime.tableHalves = halves
  induction halves generalizing σ with
  | nil => exact h
  | cons half halves ih => exact ih (h.wake half.channel)

theorem covered_stopStep {pc : StopPc} (hi : σ.Covered []) (h : σ.stopStep pc = some (o, σ')) : σ'.Covered [] := by
  cases pc with
  | idle => cases h; exact hi.commit_calm (.of_channels_eq rfl)
  | stored => cases h; exact hi.notifyAllWaiters
  | notified => cases h; exact hi.commit_calm (.of_channels_eq rfl)
  | joining stoppers joined =>
    cases stoppers with
    | nil => cases h; exact hi
    | cons n rest =>
      simp only [stopStep] at h
      split at h <;> cases h
      exact hi
  | returned => cases h

theorem covered_whole {c : Call} (hi : σ.Covered []) (h : σ.whole c = some (o, σ'))
    (hc : ∀ o s', Transition.submitted ⟨σ.runtime, c, o, s'⟩ = none) : σ'.Covered [] := by
  obtain ⟨⟨o, s'⟩, hs, he⟩ := Option.map_eq_some'.1 h
  cases he
  exact hi.commit_calm (Runtime.calm_step hs (hc _ _))

theorem covered_beginRegister {n : NodeId} {c : CreatedNode} {name : String} {label : Label} {k : Handle}
    {d : Downgrading} {rng : List Handle} (hi : σ.Covered [])
    (h : σ.beginRegister n c name label k d rng = some (o, σ')) : σ'.Covered [] := by
  obtain ⟨⟨r, s'⟩, hs, he⟩ := Option.map_eq_some'.1 h
  have hc := hi.commit_calm (.of_channels_eq (Runtime.channels_registerEnter hs))
  rcases r with _ | ⟨_, _⟩ <;> cases he <;> exact hc

/-- The block of `channel_write` keeps every guarantee: it wakes the channel it
    enqueued on, and `commit` wakes those whose last writer went. -/
theorem covered_writeBlock {n : NodeId} {k : Handle} {nm : NodeMessage} {d : Downgrading} (hi : σ.Covered [])
    (h : σ.begin (.channelWrite n k nm d) = some (o, σ')) : σ'.Covered [] := by
  obtain ⟨⟨r, s'⟩, hb, he⟩ := Option.map_eq_some'.1 h
  rcases Runtime.channelWriteBlock_cases hb with rfl | ⟨half, ev, q, rfl, rfl⟩
  · have hc := hi.commit_calm (.of_channels_eq rfl)
    rcases r with _ | ⟨half, (_ | u), ev⟩ <;> cases he
    · exact hc
    · exact hc
    · cases u
      refine Covered.wake ?_ _
      exact hc
  · cases he
    refine Covered.wakeWaiters (hi.commit fun c hq => ?_)
    by_cases hc : c = half.channel
    · exact .inr (.inr (List.mem_singleton.2 hc))
    · exact (hq.setQueue hc).imp_right .inl

/-- The first section of every call keeps every guarantee. -/
theorem covered_begin {c : Call} (hi : σ.Covered []) (h : σ.begin c = some (o, σ')) : σ'.Covered [] := by
  cases c
  case channelWrite => exact covered_writeBlock hi h
  case nodeRegister => exact covered_beginRegister hi h
  case nodeCreateAndRegister cr _ _ _ _ _ =>
    cases cr
    · exact covered_whole hi h fun _ _ => rfl
    · exact covered_beginRegister hi h
  case waitOnChannels =>
    simp only [begin] at h
    split at h
    · cases h
      intro w hw
      rcases List.mem_append.1 hw with hw | hw
      · exact hi w hw
      · rw [List.mem_singleton.1 hw]
        exact waiterOk_check ⟨_, rfl⟩
    · cases h
  case stop => cases h
  all_goals exact covered_whole hi h fun _ _ => rfl

/-- Every section keeps every guarantee. -/
theorem covered_step {sec : Section} (hi : σ.Covered []) (h : σ.step sec = some (o, σ')) : σ'.Covered [] := by
  cases sec with
  | call c =>
    simp only [step] at h
    split at h
    · cases h
    exact covered_begin hi h
  | log n =>
    simp only [step] at h
    split at h
    · cases h
    cases h
    exact hi.commit_calm (.of_channels_eq rfl)
  | wait n =>
    obtain ⟨w, hw, hs⟩ := Option.bind_eq_some.1 h
    exact covered_waitStep hi (List.mem_of_find?_eq_some hw) hs
  | register n =>
    obtain ⟨g, -, hs⟩ := Option.bind_eq_some.1 h
    exact covered_registerStep hi hs
  | stop => exact covered_stopStep hi h

theorem covered_run {secs : List Section} (hi : σ.Covered []) (h : σ.run secs = some σ') : σ'.Covered [] :=
  run_invariant covered_step hi h

theorem covered_init (s : Runtime) : (init s).Covered [] := fun _ hw => nomatch hw

/-- No lost wake-up. In every state of every schedule, a thread parked inside
    `wait_on_channels` has no token, its entry on the channel of each half it reads
    points to the `Arc` it parked with, and each of those channels is empty and has a
    writer. -/
theorem parked_quiet {s : Runtime} {secs : List Section} (h : (init s).run secs = some σ) {w : Waiter}
    (hw : w ∈ σ.waiting) {r : Nat} (hp : w.pc = .parked r) :
    w.nodeId ∉ σ.tokens ∧ ∀ half ∈ w.readers, (half.channel, w.nodeId, r) ∈ σ.waitlist ∧
      σ.runtime.queueOf half.channel = [] ∧ σ.runtime.hasWriters half.channel := by
  have hok := covered_run (covered_init s) h w hw
  simp only [WaiterOk, hp] at hok
  obtain ⟨hreg, htok, hq⟩ := hok
  exact ⟨htok, fun half hh => ⟨hreg half hh, ((hq half hh).resolve_right (List.not_mem_nil _)).2⟩⟩

/-- Node 1's thread in `Shared.parked_after_stop`: parked after `stop`, on a channel that
    is empty and has a writer. -/
theorem parked_quiet_after_stop :
    ∃ σ w, run (init Runtime.fresh) stopBeforeAddWaiter = some σ ∧ w ∈ σ.waiting ∧ w.pc = .parked 0 ∧
      w.nodeId ∉ σ.tokens ∧ ∀ half ∈ w.readers, (half.channel, w.nodeId, 0) ∈ σ.waitlist ∧
        σ.runtime.queueOf half.channel = [] ∧ σ.runtime.hasWriters half.channel :=
  ⟨_, ⟨⟨1⟩, [7], .no, [0], [⟨0, .read⟩], .parked 0⟩, rfl, List.mem_singleton_self _, rfl,
    @parked_quiet _ Runtime.fresh stopBeforeAddWaiter rfl _ (List.mem_singleton_self _) _ rfl⟩

/-- So the next wake-up of any channel a parked thread reads releases it. -/
theorem parked_released {s : Runtime} {secs : List Section} (h : (init s).run secs = some σ) {w : Waiter}
    (hw : w ∈ σ.waiting) {r : Nat} (hp : w.pc = .parked r) : ∀ half ∈ w.readers, (σ.wakeWaiters half.channel).Released w.nodeId := by
  have hok := covered_run (covered_init s) h w hw
  simp only [WaiterOk, hp] at hok
  exact fun half hh => released_wakeWaiters (hok.1 half hh) (alive_of_mem hw (by simp [hp, WaitPc.threadRef]))

end Shared

end OakRuntime

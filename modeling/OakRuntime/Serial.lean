import OakRuntime.Threads

/-!
# Every Sequential Run Is a Schedule of the Threads

`OakRuntime.Run` runs each call whole; `OakRuntime.Threads` runs the threads that
serve the nodes section by section, in any order. This module connects the two
levels in the direction that makes the sequential model's behaviours real: a run of
whole calls from a runtime `s` is matched by a schedule of sections from `init s` that
runs the sections of each call back to back, and ends in the run's last state with no
node's thread inside a call (`Shared.serial_of_run`). Every state the sequential model
reaches, and so every counterexample it gives, the threads reach too.

A wait whose pass parks has no such match: its thread stays inside
`wait_on_channels` until a write wakes it, where the sequential model lets the node go
on, so the run may hold no such wait. `stop` is not a node's call. The first one runs
its three sections, storing the flag and taking the stoppers, and then waits to join
the nodes; a later one changes nothing, since once the flag is stored no call gives a
record a stopper (`Runtime.NoStoppers.step`).

The converse fails: the threads reach states that no sequential run reaches, as
`Shared.dequeued_before_enqueued` shows.

## Main definitions

* `Runtime.NoStoppers`: No record holds a stopper.
* `Shared.AtRest`: No node's thread is inside a call, and `stop` has not begun or
  has left no stopper.

## Theorems

* `Runtime.NoStoppers.step`: Once the flag is stored, no call gives a record a stopper.
* `Runtime.NoStoppers.stop_eq`: Then `stop` changes nothing.
* `Shared.run_addWaiters`: The `add_waiter` loop of a pass.
* `Shared.AtRest.write`, `Shared.AtRest.register`, `Shared.AtRest.wait`,
  `Shared.AtRest.stop`, `Shared.AtRest.whole`: The sections of one call, back to back.
* `Shared.AtRest.run`, `Shared.serial_of_run`: A whole run.
-/

namespace OakRuntime

namespace Runtime

/-- No record holds a stopper: `take_node_stoppers` would take none. -/
def NoStoppers (s : Runtime) : Prop := ∀ m ni, s.nodeInfos.lookup m = some ni → ni.nodeStopper = none

variable {s s' : Runtime}

theorem NoStoppers.of_map (hn : s.NoStoppers)
    (h : ∀ m, (s'.nodeInfos.lookup m).map (·.nodeStopper) = (s.nodeInfos.lookup m).map (·.nodeStopper)) :
    s'.NoStoppers := fun m ni hm => by
  obtain ⟨ni₀, h₀, e⟩ := Option.map_eq_some'.1 ((h m).symm.trans (by rw [hm]; rfl))
  exact e.symm.trans (hn m ni₀ h₀)

theorem noStoppers_stop (s : Runtime) : s.stop.NoStoppers := fun m ni hm => by
  rw [lookup_stop] at hm
  obtain ⟨_, -, rfl⟩ := Option.map_eq_some'.1 hm
  rfl

/-- Once `terminating` is stored, no call gives a record a stopper: a registration
    fails its first check, and every other call keeps what each record holds besides
    its handles, or removes the record, or takes the stoppers. -/
theorem NoStoppers.step {call : Call} {o : Outcome} (hn : s.NoStoppers) (h : s.step call = some (o, s'))
    (ht : s.terminating = true) : s'.NoStoppers := by
  cases step_effect h with
  | failed _ hl => obtain ⟨_, rfl⟩ := hl; exact hn
  | empty _ | waited => exact hn
  | stopped => exact noStoppers_stop s
  | created _ _ hi | cloned _ _ hi => exact hn.of_map (hi.map_lookup _ fun _ _ => rfl)
  | written hw => rw [hw.post]; exact hn
  | read hr | tryRead hr =>
    obtain ⟨s₁, hi, rfl⟩ := hr.post
    exact hn.of_map (hi.map_lookup _ fun _ _ => rfl)
  | closed hd => exact hn.of_map (hd.map_lookup _ fun _ _ => rfl)
  | registered _ hreg => simp [hreg.not_terminating] at ht
  | removed hrm =>
    intro m ni hm
    rcases hrm.lookup_cases m with e | e <;> rw [e] at hm
    · exact hn m ni hm
    · cases hm

/-- `stop` on a runtime whose flag is stored and whose records hold no stopper changes
    nothing. -/
theorem NoStoppers.stop_eq (hn : s.NoStoppers) (ht : s.terminating = true) : s.stop = s := by
  have hi : s.takeNodeStoppers = s.nodeInfos := AList.ext <| by
    conv_rhs => rw [← List.map_id s.nodeInfos.entries]
    refine List.map_congr_left fun ⟨m, ni⟩ he => ?_
    show (⟨m, { ni with nodeStopper := none }⟩ : Sigma fun _ : NodeId => NodeInfo) = ⟨m, ni⟩
    rw [← hn m ni (AList.mem_lookup_iff.2 he)]
  simp only [stop, hi]
  obtain ⟨⟩ := s
  subst ht
  rfl

end Runtime

namespace Shared

variable {σ : Shared}

theorem Woken.waiting_eq_nil {τ : Shared} (h : Woken σ τ) (hw : σ.waiting = []) : τ.waiting = [] := by
  simpa [hw] using h.waiters

@[simp] theorem waiting_commit {s' : Runtime} (h : σ.waiting = []) : (σ.commit s').waiting = [] :=
  (Woken.commit σ s').waiting_eq_nil h

theorem run_cons_of_step {sec : Section} {secs : List Section} {o : Option Outcome} {σ₁ : Shared}
    (h : σ.step sec = some (o, σ₁)) : σ.run (sec :: secs) = σ₁.run secs := by
  simp only [Shared.run, h]

theorem run_append {secs₁ secs₂ : List Section} {σ₁ σ₂ : Shared} (h₁ : σ.run secs₁ = some σ₁)
    (h₂ : σ₁.run secs₂ = some σ₂) : σ.run (secs₁ ++ secs₂) = some σ₂ := by
  induction secs₁ generalizing σ with
  | nil => cases h₁; exact h₂
  | cons sec secs ih =>
    simp only [Shared.run] at h₁
    split at h₁
    · cases h₁
    · exact (run_cons_of_step ‹_›).trans (ih h₁)

/-- The `add_waiter` loop of a pass, with no other thread inside a call: one section
    per read half, each registering the thread's `Arc` on that half's channel, and
    nothing else changes. -/
theorem run_addWaiters {w : Waiter} {r : Nat} (rest : List ChannelHalf) {τ : Shared}
    (hw : τ.waiting = [{ w with pc := .addWaiters r rest }]) :
    ∃ τ', τ.run (List.replicate rest.length (.wait w.nodeId)) = some τ' ∧
      τ'.waiting = [{ w with pc := .addWaiters r [] }] ∧ τ'.runtime = τ.runtime ∧ τ'.logging = τ.logging ∧
      τ'.registering = τ.registering ∧ τ'.stopping = τ.stopping := by
  induction rest generalizing τ with
  | nil => exact ⟨τ, rfl, hw, rfl, rfl, rfl, rfl⟩
  | cons half rest ih =>
    obtain ⟨τ', h, hw', h₁, h₂, h₃, h₄⟩ :=
      ih (τ := (τ.addWaiter half.channel w.nodeId r).setWaiter { w with pc := .addWaiters r rest })
        (by simp [setWaiter, addWaiter, hw])
    exact ⟨τ', by simpa [Shared.run, Shared.step, hw, waitStep] using h, hw', h₁, h₂, h₃, h₄⟩

/-- No node's thread is inside a call, the runtime is `s`, and `stop` has not begun
    or, having stored the flag, has left no stopper to take. The thread of `stop` may
    still be joining. -/
structure AtRest (σ : Shared) (s : Runtime) : Prop where
  runtime : σ.runtime = s
  logging : σ.logging = []
  waiting : σ.waiting = []
  registering : σ.registering = []
  stopping : σ.stopping = .idle ∨ s.terminating = true ∧ s.NoStoppers

theorem atRest_init (s : Runtime) : (init s).AtRest s := ⟨rfl, rfl, rfl, rfl, .inl rfl⟩

namespace AtRest

variable {s s' : Runtime} {c : Call} {o : Outcome}

theorem busy (hr : σ.AtRest s) (n : NodeId) : σ.busy n = false := by
  simp [Shared.busy, hr.logging, hr.waiting, hr.registering]

/-- At rest, a node's thread starts any call. -/
theorem step_call (hr : σ.AtRest s) (c : Call) : σ.step (.call c) = σ.begin c := by
  simp only [Shared.step]
  cases c.nodeId <;> simp [hr.busy]

/-- What a call's last section leaves, with no thread inside a call, the call's
    runtime, and `stop` where it was, is at rest. -/
theorem of_step (hr : σ.AtRest s) (hs : s.step c = some (o, s')) {τ : Shared} (h₁ : τ.runtime = s')
    (h₂ : τ.logging = []) (h₃ : τ.waiting = []) (h₄ : τ.registering = []) (h₅ : τ.stopping = σ.stopping) :
    τ.AtRest s' :=
  ⟨h₁, h₂, h₃, h₄, h₅ ▸ hr.stopping.imp_right fun ⟨ht, hn⟩ => ⟨Runtime.terminating_step hs ht, hn.step hs ht⟩⟩

/-- A call's one section installs the runtime the call leaves. -/
theorem commit (hr : σ.AtRest s) (hs : s.step c = some (o, s')) : (σ.commit s').AtRest s' :=
  hr.of_step hs (by simp) (by simp [hr.logging]) (by simp [hr.waiting]) (by simp [hr.registering]) (by simp)

/-- A call that runs whole is one section. -/
theorem whole (hr : σ.AtRest s) (hs : s.step c = some (o, s')) (hc : σ.begin c = σ.whole c) :
    ∃ secs τ, σ.run secs = some τ ∧ τ.AtRest s' :=
  ⟨[.call c], σ.commit s', run_cons_of_step (by rw [hr.step_call, hc, Shared.whole, hr.runtime, hs]; rfl),
    hr.commit hs⟩

/-- The second section of a write, when the writer's is the only thread between its
    block and its log. -/
theorem step_log {τ : Shared} {n : NodeId} {r : Except OakStatus Unit} {e : EventDetails}
    (h : τ.logging = [⟨n, r, e⟩]) :
    τ.step (.log n) = some (some (.written r), { τ.commit (τ.runtime.introspectionEvent e) with logging := [] }) := by
  simp [Shared.step, h]

/-- `channel_write`: its block, then, if the checks passed, its log. -/
theorem write {n : NodeId} {k : Handle} {nm : NodeMessage} {d : Downgrading} (hr : σ.AtRest s)
    (hs : s.step (.channelWrite n k nm d) = some (o, s')) : ∃ secs τ, σ.run secs = some τ ∧ τ.AtRest s' := by
  obtain ⟨⟨r, s₂⟩, hw, he⟩ := Option.map_eq_some'.1 hs
  rw [Runtime.channelWrite_eq_block] at hw
  obtain ⟨⟨_ | ⟨half, r, e⟩, s₁⟩, hb, hl⟩ := Option.map_eq_some'.1 hw
  · -- a check failed: the thread returns from the block
    cases hl; cases he
    exact ⟨[.call (.channelWrite n k nm d)], σ.commit s',
      run_cons_of_step (by simp only [hr.step_call, begin, hr.runtime, hb, Option.map_some']; rfl), hr.commit hs⟩
  · -- the block ran: the thread logs its event next
    cases hl; cases he
    obtain ⟨σ₁, h₁, hw₁⟩ : ∃ σ₁, σ.step (.call (.channelWrite n k nm d)) = some (none, σ₁) ∧
        Woken { σ.commit s₁ with logging := [⟨n, r, e⟩] } σ₁ := by
      rw [hr.step_call]
      simp only [begin, hr.runtime, hb, Option.map_some', hr.logging, List.nil_append]
      rcases r with _ | ⟨⟩
      · exact ⟨_, rfl, .refl _⟩
      · exact ⟨_, rfl, .wakeWaiters _ _⟩
    have hσ₁ : σ₁.waiting = [] := hw₁.waiting_eq_nil (waiting_commit hr.waiting)
    refine ⟨[.call (.channelWrite n k nm d), .log n], _, by rw [run_cons_of_step h₁, run_cons_of_step (step_log hw₁.logging)]; rfl,
      hr.of_step hs ?_ rfl (by simp [hσ₁]) ?_ ?_⟩
    · simp [hw₁.runtime]
    · simp [hw₁.registering, hr.registering]
    · simp [hw₁.stopping]

/-- `node_register`: its checks, then, if they pass, the configuration of the new node,
    the spawn of its thread, and the store of its stopper. -/
theorem register {p : NodeId} {cr : CreatedNode} {name : String} {label : Label} {k : Handle} {d : Downgrading}
    {rng : List Handle} {r : Except OakStatus Unit} (hr : σ.AtRest s) (hs : s.step c = some (o, s'))
    (hc : σ.step (.call c) = σ.beginRegister p cr name label k d rng)
    (hreg : s.nodeRegister p cr name label k d rng = some (r, s')) : ∃ secs τ, σ.run secs = some τ ∧ τ.AtRest s' := by
  rw [Runtime.nodeRegister_eq_sections] at hreg
  obtain ⟨⟨_ | ⟨reader, m⟩, s₁⟩, he, hrest⟩ := Option.bind_eq_some.1 hreg
  · -- a check failed: the thread returns from its first section
    simp only [Runtime.registerRest, Option.some.injEq, Prod.mk.injEq] at hrest
    obtain ⟨rfl, rfl⟩ := hrest
    exact ⟨[.call c], σ.commit s₁,
      run_cons_of_step (by simp only [hc, beginRegister, hr.runtime, he, Option.map_some']; rfl), hr.commit hs⟩
  · -- the checks passed: configure the new node, spawn its thread, store its stopper
    obtain ⟨s₂, hcf, hadd⟩ : ∃ s₂, s₁.registerConfigure m cr name label reader rng = some s₂ ∧
        s₂.addNodeStopper m ⟨name⟩ = some s' := by
      simp only [Runtime.registerRest, Runtime.registerFinish, Option.map_eq_some', Option.bind_eq_some,
        Prod.mk.injEq] at hrest
      obtain ⟨_, ⟨s₂, hcf, hadd⟩, -, rfl⟩ := hrest
      exact ⟨s₂, hcf, hadd⟩
    have h₁ : σ.step (.call c) =
        some (none, { σ.commit s₁ with registering := [⟨p, cr, name, label, rng, reader, m, .entered⟩] }) := by
      simp only [hc, beginRegister, hr.runtime, he, Option.map_some', hr.registering, List.nil_append]
    exact ⟨[.call c, .register p, .register p, .register p], _,
      by rw [run_cons_of_step h₁]; simp [Shared.run, Shared.step, registerStep, hcf, hadd, setRegistering]; rfl,
      hr.of_step hs (by simp [dropRegistering]) (by simp [dropRegistering, setRegistering, hr.logging])
        (by simp [dropRegistering, setRegistering, hr.waiting]) (by simp [dropRegistering, setRegistering])
        (by simp [dropRegistering, setRegistering])⟩

/-- `wait_on_channels` whose pass returns: the collection of the read halves, the read
    of the flag, and, if it is not stored, the `add_waiter` loop and the statuses. -/
theorem wait {n : NodeId} {hs : List Handle} {d : Downgrading} (hr : σ.AtRest s)
    (h : s.step (.waitOnChannels n hs d) = some (o, s')) (hp : o ≠ .waited .parked) :
    ∃ secs τ, σ.run secs = some τ ∧ τ.AtRest s' := by
  obtain ⟨r, hw, he⟩ := Option.map_eq_some'.1 h
  cases he
  rw [Runtime.waitOnChannels_eq_sections] at hw
  split at hw
  · rename_i pos rds _ hc hl
    set w : Waiter := ⟨n, hs, d, pos, rds, .check none⟩
    have h₁ : σ.step (.call (.waitOnChannels n hs d)) = some (none, { σ with waiting := [w] }) := by
      simp [hr.step_call, begin, hr.runtime, hc, hl, hr.waiting, w]
    split at hw
    · -- the flag is stored: the thread returns at the head of the loop
      rename_i ht
      exact ⟨[.call _, .wait n], _, by rw [run_cons_of_step h₁]; simp [Shared.run, Shared.step, w, waitStep, hr.runtime, ht, dropWaiter]; rfl,
        hr.of_step h (by simp [dropWaiter, hr.runtime]) (by simp [dropWaiter, hr.logging]) (by simp [dropWaiter, w])
          (by simp [dropWaiter, hr.registering]) (by simp [dropWaiter])⟩
    · -- one pass: take an `Arc`, register it on each channel, and read the statuses
      rename_i ht
      obtain ⟨_ | all, hst, rfl⟩ := Option.map_eq_some'.1 hw
      · exact absurd rfl hp
      have h₂ : ({ σ with waiting := [w] } : Shared).step (.wait n) =
          some (none, { ({ σ with waiting := [w] } : Shared).setWaiter { w with pc := .addWaiters σ.nextThreadRef rds }
            with nextThreadRef := σ.nextThreadRef + 1 }) := by
        simp [Shared.step, w, waitStep, hr.runtime, ht]
      obtain ⟨τ, h₃, hw₃, hrt, hlg, hrg, hst₃⟩ := run_addWaiters (w := w) (r := σ.nextThreadRef) rds
        (τ := { ({ σ with waiting := [w] } : Shared).setWaiter { w with pc := .addWaiters σ.nextThreadRef rds }
          with nextThreadRef := σ.nextThreadRef + 1 }) (by simp [setWaiter])
      have h₄ : τ.step (.wait n) = some (some (.waited (.returned (.ok all))), τ.dropWaiter n) := by
        simp [Shared.step, hw₃, w, waitStep, hrt, setWaiter, hr.runtime, hst]
      refine ⟨[.call _, .wait n] ++ List.replicate rds.length (.wait n) ++ [.wait n], τ.dropWaiter n,
        run_append (run_append (by rw [run_cons_of_step h₁, run_cons_of_step h₂]; rfl) h₃)
          (run_cons_of_step h₄), hr.of_step h ?_ ?_ ?_ ?_ ?_⟩
      all_goals simp [dropWaiter, hw₃, hrt, hlg, hrg, hst₃, setWaiter, hr.runtime, hr.logging, hr.registering, w]
  · cases hw

/-- `stop`: the first runs its three sections; a later one runs none. -/
theorem stop (hr : σ.AtRest s) : ∃ secs τ, σ.run secs = some τ ∧ τ.AtRest s.stop := by
  rcases hr.stopping with hi | ⟨ht, hn⟩
  · exact ⟨[.stop, .stop, .stop], _, by simp only [Shared.run, Shared.step, hi, stopStep]; rfl,
      ⟨by simp [Runtime.stop_eq_sections, (Woken.notifyAllWaiters _).runtime, hr.runtime],
        by simp [(Woken.notifyAllWaiters _).logging, hr.logging],
        by simp [(Woken.notifyAllWaiters _).waiting_eq_nil, hr.waiting],
        by simp [(Woken.notifyAllWaiters _).registering, hr.registering],
        .inr ⟨rfl, Runtime.noStoppers_stop s⟩⟩⟩
  · exact ⟨[], σ, rfl, (hn.stop_eq ht).symm ▸ hr⟩

/-- One call, by its kind. -/
theorem step (hr : σ.AtRest s) (h : s.step c = some (o, s')) (hp : o ≠ .waited .parked) :
    ∃ secs τ, σ.run secs = some τ ∧ τ.AtRest s' := by
  cases c
  case channelWrite => exact hr.write h
  case nodeRegister =>
    obtain ⟨⟨_, _⟩, hreg, he⟩ := Option.map_eq_some'.1 h
    cases he
    exact hr.register h (hr.step_call _) hreg
  case nodeCreateAndRegister cr _ _ _ _ _ =>
    cases cr
    · exact hr.whole h rfl
    obtain ⟨⟨_, _⟩, hreg, he⟩ := Option.map_eq_some'.1 h
    cases he
    exact hr.register h (hr.step_call _) hreg
  case waitOnChannels => exact hr.wait h hp
  case stop =>
    cases h
    exact hr.stop
  all_goals exact hr.whole h rfl

/-- A whole run whose waits return, call by call. -/
theorem run (hr : σ.AtRest s) {calls : List Call} {ts : List Transition} (h : s.run calls = some (ts, s'))
    (hp : ∀ t ∈ ts, t.outcome ≠ .waited .parked) : ∃ secs τ, σ.run secs = some τ ∧ τ.AtRest s' := by
  induction calls generalizing σ s ts with
  | nil => cases h; exact ⟨[], σ, rfl, hr⟩
  | cons c calls ih =>
    obtain ⟨o, s₁, ts', hs, hr', rfl⟩ := Runtime.run_cons.1 h
    obtain ⟨secs₁, σ₁, h₁, hr₁⟩ := hr.step hs (hp _ (List.mem_cons_self _ _))
    obtain ⟨secs₂, σ₂, h₂, hr₂⟩ := ih hr₁ hr' fun t ht => hp t (List.mem_cons_of_mem _ ht)
    exact ⟨secs₁ ++ secs₂, σ₂, run_append h₁ h₂, hr₂⟩

end AtRest

/-- The threads realize every sequential run whose waits return: from `init s`, some
    schedule reaches the run's last state with no node's thread inside a call. The one
    built runs the sections of each call back to back. -/
theorem serial_of_run {s s' : Runtime} {calls : List Call} {ts : List Transition} (h : s.run calls = some (ts, s'))
    (hp : ∀ t ∈ ts, t.outcome ≠ .waited .parked) : ∃ secs σ, (init s).run secs = some σ ∧ σ.AtRest s' :=
  (atRest_init s).run h hp

/-- Node 0 makes a channel, writes to it, waits on its read half, which is ready,
    reads the message, and stops the runtime. -/
def writeWaitRead : List Call :=
  [.channelCreate ⟨0⟩ "in" Label.publicUntrusted .no [5, 6], .channelWrite ⟨0⟩ 5 ⟨[1], []⟩ .no,
    .waitOnChannels ⟨0⟩ [6] .no, .channelRead ⟨0⟩ 6 .no [], .stop]

theorem serial_of_run_writeWaitRead :
    ∃ ts s', Runtime.fresh.run writeWaitRead = some (ts, s') ∧ (∀ t ∈ ts, t.outcome ≠ .waited .parked) ∧
      ∃ secs σ, (init Runtime.fresh).run secs = some σ ∧ σ.AtRest s' := by
  obtain ⟨ts, s', h, hp⟩ : ∃ ts s', Runtime.fresh.run writeWaitRead = some (ts, s') ∧
      ∀ t ∈ ts, t.outcome ≠ .waited .parked := ⟨_, _, rfl, by simp⟩
  exact ⟨ts, s', h, hp, serial_of_run h hp⟩

end Shared

end OakRuntime

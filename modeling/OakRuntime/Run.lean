import OakRuntime.Nodes

/-!
# Sequential Runs

The runtime as a state machine: a node's call through its façade is a `Call`, with
the calling node's id and, for the calls that allocate handles, the candidates the
random generator will produce; `step` performs it and returns an `Outcome`. A run is
a list of calls performed one after another, and `run` records each one as a
`Transition`, with the state before and after it, so that statements over runs can
name what each call saw and returned.

A call that panics stops the run (`run` is `none`). Nothing here restricts which
node issues which call: any node id, any handle, any flag.

## Main definitions

* `Call`: A call into the runtime.
* `Outcome`: What a call returned.
* `Runtime.fresh`: The runtime as bootstrap creates it.
* `Runtime.step`: Performing one call.
* `Transition`: One performed call, with its states.
* `Runtime.run`: Performing a list of calls.

## Theorems

* `Runtime.run_cons`: Unfolding a run by its first call.
* `Runtime.run_append`: Runs compose.
* `Runtime.run_take`, `Runtime.run_drop`: Every prefix and every suffix of a run is a run.
* `Runtime.step_of_mem_run`: Every recorded transition is a step.
-/

namespace OakRuntime

/-- A call a node's thread makes into the runtime, or the runtime makes on a node's
    behalf (`remove_node_id` when its thread returns, `stop`). -/
inductive Call where
  | channelCreate (nodeId : NodeId) (name : String) (label : Label) (downgrade : Downgrading)
      (rng : List Handle)
  | handleClone (nodeId : NodeId) (handle : Handle) (rng : List Handle)
  | channelWrite (nodeId : NodeId) (writeHandle : Handle) (nodeMsg : NodeMessage)
      (downgrade : Downgrading)
  | channelRead (nodeId : NodeId) (readHandle : Handle) (downgrade : Downgrading) (rng : List Handle)
  | channelTryReadMessage (nodeId : NodeId) (handle : Handle) (bytesCapacity handlesCapacity : Nat)
      (downgrade : Downgrading) (rng : List Handle)
  | channelClose (nodeId : NodeId) (handle : Handle)
  | nodeRegister (nodeId : NodeId) (createdNode : CreatedNode) (nodeName : String) (label : Label)
      (initialHandle : Handle) (downgrade : Downgrading) (rng : List Handle)
  | nodeCreateAndRegister (nodeId : NodeId) (createdNode : Option CreatedNode) (name : String)
      (label : Label) (initialHandle : Handle) (downgrade : Downgrading) (rng : List Handle)
  | waitOnChannels (nodeId : NodeId) (readHandles : List Handle) (downgrade : Downgrading)
  | removeNodeId (nodeId : NodeId)
  | stop

namespace Call

/-- The node a call acts for: its caller, or the node `remove_node_id` removes. -/
def nodeId : Call → Option NodeId
  | .channelCreate n .. | .handleClone n .. | .channelWrite n .. | .channelRead n ..
  | .channelTryReadMessage n .. | .channelClose n .. | .nodeRegister n .. | .nodeCreateAndRegister n ..
  | .waitOnChannels n .. | .removeNodeId n => some n
  | .stop => none

/-- The `Downgrading` flag of a call that takes one. -/
def downgrading : Call → Option Downgrading
  | .channelCreate _ _ _ d _ | .channelWrite _ _ _ d | .channelRead _ _ d _
  | .channelTryReadMessage _ _ _ _ d _ | .nodeRegister _ _ _ _ _ d _
  | .nodeCreateAndRegister _ _ _ _ _ d _ | .waitOnChannels _ _ d => some d
  | .handleClone .. | .channelClose .. | .removeNodeId _ | .stop => none

end Call

/-- What a call returned. -/
inductive Outcome where
  | created (r : Except OakStatus (Handle × Handle))
  | cloned (r : Except OakStatus Handle)
  | written (r : Except OakStatus Unit)
  | read (r : Except OakStatus (Option NodeMessage))
  | tryRead (r : Except OakStatus (Option NodeReadStatus))
  | closed (r : Except OakStatus Unit)
  | registered (r : Except OakStatus Unit)
  | waited (r : WaitResult)
  | removed
  | stopped

namespace Runtime

/-- A runtime with no node and no channel, both counters at zero. -/
def empty : Runtime := ⟨false, 0, ∅, 0, [], fun _ => 0, []⟩

/-- Modelled from the spec (bootstrap; `RuntimeProxy::create_runtime` is not part of
    this repository): a new runtime holding only the implicit initial node, which takes
    the first node id, with the public label and no privilege. -/
def fresh : Runtime :=
  ({ empty with nextNodeId := 1 } : Runtime).nodeConfigureInstance ⟨0⟩ "implicit" "implicit.initial"
    Label.publicUntrusted NodePrivilege.default

variable (s : Runtime)

/-- Perform one call. -/
def step : Call → Option (Outcome × Runtime)
  | .channelCreate n name label d rng =>
    (s.channelCreate n name label d rng).map fun (r, s') => (.created r, s')
  | .handleClone n h rng => (s.handleClone n h rng).map fun (r, s') => (.cloned r, s')
  | .channelWrite n h msg d => (s.channelWrite n h msg d).map fun (r, s') => (.written r, s')
  | .channelRead n h d rng => (s.channelRead n h d rng).map fun (r, s') => (.read r, s')
  | .channelTryReadMessage n h b k d rng =>
    (s.channelTryReadMessage n h b k d rng).map fun (r, s') => (.tryRead r, s')
  | .channelClose n h => (s.channelClose n h).map fun (r, s') => (.closed r, s')
  | .nodeRegister n c name label h d rng =>
    (s.nodeRegister n c name label h d rng).map fun (r, s') => (.registered r, s')
  | .nodeCreateAndRegister n c name label h d rng =>
    (s.nodeCreateAndRegister n c name label h d rng).map fun (r, s') => (.registered r, s')
  | .waitOnChannels n hs d => (s.waitOnChannels n hs d).map fun r => (.waited r, s)
  | .removeNodeId n => (s.removeNodeId n).map fun s' => (.removed, s')
  | .stop => some (.stopped, s.stop)

end Runtime

/-- One performed call: the state it started from, the call, what it returned, and
    the state it left. -/
structure Transition where
  pre : Runtime
  call : Call
  outcome : Outcome
  post : Runtime

namespace Runtime

/-- Perform the calls in order, recording each transition; `none` if one panics. -/
def run : Runtime → List Call → Option (List Transition × Runtime)
  | s, [] => some ([], s)
  | s, call :: calls =>
    match s.step call with
    | none => none
    | some (o, s') => (run s' calls).map fun (ts, s'') => (⟨s, call, o, s'⟩ :: ts, s'')

theorem run_cons {s : Runtime} {call : Call} {calls : List Call} {ts : List Transition}
    {s'' : Runtime} :
    s.run (call :: calls) = some (ts, s'') ↔
      ∃ o s' ts', s.step call = some (o, s') ∧ s'.run calls = some (ts', s'') ∧
        ts = ⟨s, call, o, s'⟩ :: ts' := by
  simp only [run]
  cases h : s.step call with
  | none => simp
  | some p =>
    obtain ⟨o, s'⟩ := p
    simp only [Option.map_eq_some', Prod.mk.injEq, Prod.exists, Option.some.injEq]
    constructor
    · rintro ⟨ts', s₂, h', rfl, rfl⟩; exact ⟨o, s', ts', ⟨rfl, rfl⟩, h', rfl⟩
    · rintro ⟨o, s', ts', ⟨rfl, rfl⟩, h', rfl⟩; exact ⟨ts', s'', h', rfl, rfl⟩

theorem run_append {s : Runtime} (calls₁ calls₂ : List Call) {ts₁ ts₂ : List Transition}
    {s₁ s₂ : Runtime} (h₁ : s.run calls₁ = some (ts₁, s₁)) (h₂ : s₁.run calls₂ = some (ts₂, s₂)) :
    s.run (calls₁ ++ calls₂) = some (ts₁ ++ ts₂, s₂) := by
  induction calls₁ generalizing s ts₁ with
  | nil => simp only [run, Option.some.injEq, Prod.mk.injEq] at h₁; obtain ⟨rfl, rfl⟩ := h₁; exact h₂
  | cons call calls ih =>
    obtain ⟨o, s', ts', hs, hr, rfl⟩ := run_cons.1 h₁
    exact run_cons.2 ⟨o, s', ts' ++ ts₂, hs, ih hr, rfl⟩

/-- The rest of a run, from any of its transitions on. -/
theorem run_drop {s s' : Runtime} {calls : List Call} {ts : List Transition}
    (h : s.run calls = some (ts, s')) (i : Nat) (hi : i < ts.length) :
    ts[i].pre.run (calls.drop i) = some (ts.drop i, s') := by
  induction calls generalizing s ts i with
  | nil => cases h; cases hi
  | cons call calls ih =>
    obtain ⟨o, s₁, ts', hs, hr, rfl⟩ := run_cons.1 h
    cases i with
    | zero => exact run_cons.2 ⟨o, s₁, ts', hs, hr, rfl⟩
    | succ i => exact ih hr i (by simpa using hi)

/-- The rest of a run, after any of its transitions. -/
theorem run_drop_succ {s s' : Runtime} {calls : List Call} {ts : List Transition}
    (h : s.run calls = some (ts, s')) (i : Nat) (hi : i < ts.length) :
    ts[i].post.run (calls.drop (i + 1)) = some (ts.drop (i + 1), s') := by
  induction calls generalizing s ts i with
  | nil => cases h; cases hi
  | cons call calls ih =>
    obtain ⟨o, s₁, ts', hs, hr, rfl⟩ := run_cons.1 h
    cases i with
    | zero => exact hr
    | succ i => exact ih hr i (by simpa using hi)

/-- Every prefix of a run is a run. -/
theorem run_take {s s' : Runtime} {calls : List Call} {ts : List Transition}
    (h : s.run calls = some (ts, s')) (k : Nat) : ∃ s₁, s.run (calls.take k) = some (ts.take k, s₁) := by
  induction calls generalizing s ts k with
  | nil => cases h; exact ⟨s', by simp [run]⟩
  | cons call calls ih =>
    obtain ⟨o, s₁, ts', hs, hr, rfl⟩ := run_cons.1 h
    cases k with
    | zero => exact ⟨_, rfl⟩
    | succ k =>
      obtain ⟨s₂, h₂⟩ := ih hr k
      exact ⟨s₂, run_cons.2 ⟨o, s₁, _, hs, h₂, rfl⟩⟩

/-- A property every transition of a run preserves holds all along it. -/
theorem run_invariant {P : Runtime → Prop} {s s' : Runtime} {calls : List Call} {ts : List Transition}
    (h : s.run calls = some (ts, s')) (hP : ∀ t ∈ ts, P t.pre → P t.post) (h0 : P s) :
    (∀ t ∈ ts, P t.pre) ∧ P s' := by
  induction calls generalizing s ts with
  | nil => cases h; exact ⟨fun _ ht => absurd ht (List.not_mem_nil _), h0⟩
  | cons call calls ih =>
    obtain ⟨o, s₁, ts', -, hr, rfl⟩ := run_cons.1 h
    obtain ⟨ih₁, ih₂⟩ := ih hr (fun t ht => hP t (List.mem_cons_of_mem _ ht)) (hP _ (List.mem_cons_self _ _) h0)
    exact ⟨fun t ht => (List.mem_cons.1 ht).elim (fun e => e ▸ h0) (ih₁ t), ih₂⟩

/-- Each transition a run records is a step of the runtime. -/
theorem step_of_mem_run {s s' : Runtime} {calls : List Call} {ts : List Transition}
    (h : s.run calls = some (ts, s')) {t : Transition} (ht : t ∈ ts) :
    t.pre.step t.call = some (t.outcome, t.post) := by
  induction calls generalizing s ts with
  | nil => cases h; cases ht
  | cons call calls ih =>
    obtain ⟨o, s₁, ts', hs, hr, rfl⟩ := run_cons.1 h
    rcases List.mem_cons.1 ht with rfl | ht
    · exact hs
    · exact ih hr ht

end Runtime

end OakRuntime

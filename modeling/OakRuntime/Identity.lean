import OakRuntime.Effects

/-!
# Node Identities

A node names itself by its `NodeId` in every call it makes, and the runtime trusts the
name: the record under it supplies the label and privilege every check reads. Ids come
from a wrapping `u64` counter, and `add_node_info` is a `HashMap::insert`, so an id the
counter reaches again replaces the record it names, label, privilege and handle table
included.

What one call can do to the records is said once here: it changes no record but its
caller's, the one it registers, and, under `stop`, the stoppers (`lookup_step`); it
never changes the label or privilege of a record, only removes one or installs the
record of the node it registers (`authority_step`); and it moves the counter by at
most one (`nextNodeId_step`).

Only a successful registration moves the counter, and by one (`nextNodeId_step`). So
over a run whose successful registrations (`registrations`) are fewer than the values
the counter has above its start, the counter never comes round: every id in use stays
below it (`idsBelow_run`), so no registration replaces a record, and a node keeps the
label and privilege it was registered with for as long as it exists (`authority_run`).
`run_preserves` is the induction these share: a property each call preserves while the
counter has room for the registration it makes holds all along such a run.

## Main definitions

* `NodeInfo.authority`: The label and privilege of a record.
* `Call.createdNode`: The node a registration call installs.
* `Transition.started`: The node a registration started, with its first half.
* `Outcome.registers`, `Runtime.registrations`: The successful registrations of a run,
  the calls that take an id from the counter.
* `Runtime.IdsBelow`: Every id in use is below the counter.

## Theorems

* `Runtime.nextNodeId_step`: Only a successful registration moves the counter.
* `Runtime.lookup_step`: A call's frame on the records.
* `Runtime.authority_step`: No call relabels a record.
* `Runtime.started_step`: What a registration that started a node did.
* `Runtime.run_preserves`: Invariants of runs with room in the counter.
* `Runtime.idsBelow_run`: Ids in use stay below the counter.
* `Runtime.authority_run`: A node keeps its label and privilege.
-/

namespace OakRuntime

/-- What the runtime's checks read of a record: its label and privilege. -/
def NodeInfo.authority (ni : NodeInfo) : Label × NodePrivilege := (ni.label, ni.privilege)

namespace Call

/-- The `CreatedNode` a registration call installs, when the factory built one. -/
def createdNode : Call → Option CreatedNode
  | .nodeRegister _ c .. => some c
  | .nodeCreateAndRegister _ c .. => c
  | _ => none

end Call

namespace Transition

/-- The node a successful registration started, and the read half it was started
    with: the half its caller's initial handle mapped to. -/
def started (t : Transition) : Option (NodeId × ChannelHalf) :=
  match t.call, t.outcome with
  | .nodeRegister p _ _ _ h _ _, .registered (.ok ()) | .nodeCreateAndRegister p _ _ _ h _ _, .registered (.ok ()) =>
    (t.pre.lookupHandle p h).map fun half => (⟨t.pre.nextNodeId⟩, half)
  | _, _ => none

end Transition

/-- A successful registration: the one outcome of a call that took an id from the
    counter. -/
def Outcome.registers : Outcome → Bool
  | .registered (.ok ()) => true
  | _ => false

@[simp] theorem Outcome.registers_registered : (Outcome.registered (.ok ())).registers = true := rfl

theorem Outcome.Failed.registers_eq_false {o : Outcome} (h : o.Failed) : o.registers = false := by
  rcases o with _ | _ | _ | _ | _ | _ | (_ | ⟨⟩) | _ | _ | _
  all_goals first | rfl | cases h

theorem UInt64.toNat_add_one (a : UInt64) : (a + 1).toNat = (a.toNat + 1) % 2 ^ 64 := rfl

/-- Installing handles keeps every view of a record that its handle table does not
    enter. -/
theorem Installed.map_lookup {s s' : Runtime} {n : NodeId} {hs : List Handle} {halves : List ChannelHalf}
    (hi : Installed s s' n hs halves) {α : Type} (f : NodeInfo → α)
    (hf : ∀ ni t, f { ni with abiHandles := t } = f ni) (m : NodeId) :
    (s'.nodeInfos.lookup m).map f = (s.nodeInfos.lookup m).map f := by
  by_cases hm : m = n
  · subst hm
    rw [hi.lookup_self]
    cases s.nodeInfos.lookup m <;> simp [hf]
  · rw [hi.lookup_ne m hm]

theorem Installed.map_authority {s s' : Runtime} {n : NodeId} {hs : List Handle} {halves : List ChannelHalf}
    (hi : Installed s s' n hs halves) (m : NodeId) :
    (s'.nodeInfos.lookup m).map NodeInfo.authority = (s.nodeInfos.lookup m).map NodeInfo.authority :=
  hi.map_lookup NodeInfo.authority (fun _ _ => rfl) m

namespace Runtime

/-- Dropping a handle keeps every view of a record that its handle table does not
    enter. -/
theorem DropStep.map_lookup {s s' : Runtime} {n : NodeId} {handle : Handle} {ni : NodeInfo}
    {half : ChannelHalf} (hd : s.DropStep s' n handle ni half) {α : Type} (f : NodeInfo → α)
    (hf : ∀ ni t, f { ni with abiHandles := t } = f ni) (m : NodeId) :
    (s'.nodeInfos.lookup m).map f = (s.nodeInfos.lookup m).map f := by
  by_cases hm : m = n
  · subst hm; rw [hd.lookup_self, hd.lookup_node, Option.map_some', Option.map_some', hf]
  · rw [hd.lookup_ne m hm]

theorem DropStep.map_authority {s s' : Runtime} {n : NodeId} {handle : Handle} {ni : NodeInfo}
    {half : ChannelHalf} (hd : s.DropStep s' n handle ni half) (m : NodeId) :
    (s'.nodeInfos.lookup m).map NodeInfo.authority = (s.nodeInfos.lookup m).map NodeInfo.authority :=
  hd.map_lookup NodeInfo.authority (fun _ _ => rfl) m

theorem RemoveStep.lookup_cases {s s' : Runtime} {n : NodeId} (hrm : s.RemoveStep s' n) (m : NodeId) :
    s'.nodeInfos.lookup m = s.nodeInfos.lookup m ∨ s'.nodeInfos.lookup m = none := by
  by_cases hm : m = n
  · subst hm; exact .inr hrm.lookup_self
  · exact .inl (hrm.lookup_ne m hm)

/-- The successful registrations of a run. -/
def registrations (ts : List Transition) : Nat := ts.countP (·.outcome.registers)

theorem registrations_cons (t : Transition) (ts : List Transition) :
    registrations (t :: ts) = registrations ts + if t.outcome.registers then 1 else 0 :=
  List.countP_cons _ _ _

theorem registrations_append (ts ts' : List Transition) :
    registrations (ts ++ ts') = registrations ts + registrations ts' :=
  List.countP_append _ _ _

variable {s s' : Runtime} {call : Call} {o : Outcome}

/-- Only a successful registration moves the counter, and by one. -/
theorem nextNodeId_step (h : s.step call = some (o, s')) :
    s'.nextNodeId = if o.registers then s.nextNodeId + 1 else s.nextNodeId := by
  cases step_effect h with
  | failed hf hl => obtain ⟨_, rfl⟩ := hl; rw [hf.registers_eq_false]; rfl
  | empty ho => rcases ho with rfl | rfl <;> rfl
  | waited | stopped => rfl
  | created _ _ hi | cloned _ _ hi => exact hi.nextNodeId_eq
  | written hw => rw [hw.post]; rfl
  | read hr | tryRead hr => obtain ⟨s₁, hi, rfl⟩ := hr.post; exact hi.nextNodeId_eq
  | closed hd => exact hd.nextNodeId_eq
  | registered _ hreg => exact hreg.nextNodeId_eq
  | removed hrm => exact hrm.nextNodeId_eq

theorem toNat_nextNodeId_step (h : s.step call = some (o, s')) :
    s'.nextNodeId.toNat ≤ s.nextNodeId.toNat + (if o.registers then 1 else 0) ∧
      ((o.registers → s.nextNodeId.toNat + 1 < 2 ^ 64) → s.nextNodeId.toNat ≤ s'.nextNodeId.toNat) := by
  rw [nextNodeId_step h]
  cases o.registers with
  | false => exact ⟨Nat.le_add_right _ _, fun _ => le_rfl⟩
  | true =>
    rw [if_pos rfl, if_pos rfl, UInt64.toNat_add_one]
    exact ⟨Nat.mod_le _ _, fun hr => by rw [Nat.mod_eq_of_lt (hr rfl)]; exact Nat.le_succ _⟩

theorem lookup_or_caller {n : NodeId} (hne : ∀ m, m ≠ n → s'.nodeInfos.lookup m = s.nodeInfos.lookup m)
    (m : NodeId) : s'.nodeInfos.lookup m = s.nodeInfos.lookup m ∨ some n = some m := by
  by_cases hm : m = n
  · exact .inr (hm ▸ rfl)
  · exact .inl (hne m hm)

/-- A call changes no record but its caller's and the one it registers; `stop`, which
    no node calls, takes the stoppers out of every record. -/
theorem lookup_step (h : s.step call = some (o, s')) (m : NodeId) :
    s'.nodeInfos.lookup m = s.nodeInfos.lookup m ∨ call.nodeId = some m ∨
      (o = .registered (.ok ()) ∧ m = ⟨s.nextNodeId⟩) ∨ call = .stop := by
  cases step_effect h with
  | failed _ hl => obtain ⟨_, rfl⟩ := hl; exact .inl rfl
  | empty _ | waited => exact .inl rfl
  | stopped => exact .inr (.inr (.inr rfl))
  | created _ _ hi | cloned _ _ hi => exact (lookup_or_caller hi.lookup_ne m).imp_right .inl
  | written hw => rw [hw.post]; exact .inl rfl
  | read hr | tryRead hr =>
    obtain ⟨s₁, hi, rfl⟩ := hr.post
    exact (lookup_or_caller hi.lookup_ne m).imp_right .inl
  | closed hd => exact (lookup_or_caller hd.lookup_ne m).imp_right .inl
  | removed hrm => exact (lookup_or_caller hrm.lookup_ne m).imp_right .inl
  | registered _ hreg =>
    by_cases hm : m = ⟨s.nextNodeId⟩
    · exact .inr (.inr (.inl ⟨rfl, hm⟩))
    · exact .inl (hreg.lookup_ne m hm)

/-- No call changes the label or privilege of a record: it keeps the record's, removes
    the record, or installs the record of the node it registers, under the counter's
    id, and advances the counter. -/
theorem authority_step (h : s.step call = some (o, s')) (m : NodeId) :
    (s'.nodeInfos.lookup m).map NodeInfo.authority = (s.nodeInfos.lookup m).map NodeInfo.authority ∨
      s'.nodeInfos.lookup m = none ∨
      (o = .registered (.ok ()) ∧ m = ⟨s.nextNodeId⟩ ∧ s'.nextNodeId = s.nextNodeId + 1) := by
  cases step_effect h with
  | failed _ hl => obtain ⟨_, rfl⟩ := hl; exact .inl rfl
  | empty _ | waited => exact .inl rfl
  | stopped => exact .inl (by rw [lookup_stop]; cases s.nodeInfos.lookup m <;> rfl)
  | created _ _ hi | cloned _ _ hi => exact .inl (hi.map_authority m)
  | written hw => rw [hw.post]; exact .inl rfl
  | read hr | tryRead hr =>
    obtain ⟨s₁, hi, rfl⟩ := hr.post
    exact .inl (hi.map_authority m)
  | closed hd => exact .inl (hd.map_authority m)
  | removed hrm => exact (hrm.lookup_cases m).imp (fun e => by rw [e]) .inl
  | registered _ hreg =>
    by_cases hm : m = ⟨s.nextNodeId⟩
    · exact .inr (.inr ⟨rfl, hm, hreg.nextNodeId_eq⟩)
    · exact .inl (by rw [hreg.lookup_ne m hm])

/-- A record after a call was there before, or is the one the call registered. -/
theorem mem_step (h : s.step call = some (o, s')) {m : NodeId} (hm : m ∈ s'.nodeInfos) :
    m ∈ s.nodeInfos ∨ (o = .registered (.ok ()) ∧ m = ⟨s.nextNodeId⟩ ∧ s'.nextNodeId = s.nextNodeId + 1) := by
  rw [← AList.lookup_isSome] at hm ⊢
  rcases authority_step h m with e | e | e
  · have e' := congrArg Option.isSome e
    simp only [Option.isSome_map'] at e'
    exact .inl (e' ▸ hm)
  · rw [e] at hm; cases hm
  · exact .inr e

/-- Only a successful registration starts a node, and under the counter's id. -/
theorem started_eq_some {t : Transition} {n : NodeId} {half : ChannelHalf} (h : t.started = some (n, half)) :
    t.outcome = .registered (.ok ()) ∧ n = ⟨t.pre.nextNodeId⟩ := by
  unfold Transition.started at h
  split at h <;> try cases h
  all_goals
    obtain ⟨_, -, e⟩ := Option.map_eq_some'.1 h
    exact ⟨‹_›, (Prod.mk.inj e).1.symm⟩

/-- What a registration that started node `n` with half `half` did. -/
theorem started_step (h : s.step call = some (o, s')) {n : NodeId} {half : ChannelHalf}
    (hst : Transition.started ⟨s, call, o, s'⟩ = some (n, half)) :
    ∃ p created name label handle d ni x, call.nodeId = some p ∧ call.createdNode = some created ∧
      o = .registered (.ok ()) ∧ s.RegisterStep s' p created name label handle d ni half x ∧ n = ⟨s.nextNodeId⟩ := by
  obtain ⟨rfl, rfl⟩ := started_eq_some hst
  cases step_effect h
  case registered p created name label handle d rng ni half' x hcall hreg =>
    have hl : s.lookupHandle p handle = some half' := lookupHandle_eq_some.2 ⟨ni, hreg.lookup_node, hreg.lookup_handle⟩
    rcases hcall with rfl | rfl <;>
    · simp only [Transition.started, hl, Option.map_some', Option.some.injEq, Prod.mk.injEq] at hst
      obtain ⟨-, rfl⟩ := hst
      exact ⟨p, created, name, label, handle, d, ni, x, rfl, rfl, rfl, hreg, rfl⟩
  case failed hf _ => cases hf
  case empty ho => rcases ho with ho | ho <;> cases ho

/-! ### The counter over a run -/

/-- Every id in use is below the node id counter. -/
def IdsBelow (s : Runtime) : Prop := ∀ m ∈ s.nodeInfos, m.val.toNat < s.nextNodeId.toNat

theorem IdsBelow.not_mem (hs : s.IdsBelow) : (⟨s.nextNodeId⟩ : NodeId) ∉ s.nodeInfos :=
  fun hm => lt_irrefl _ (hs _ hm)

theorem idsBelow_fresh : fresh.IdsBelow := by
  intro m hm
  rw [AList.mem_keys, show fresh.nodeInfos.keys = [⟨0⟩] from rfl, List.mem_singleton] at hm
  subst hm; decide

/-- While the counter has room for the registration a call makes, the call keeps every
    id in use below it. -/
theorem idsBelow_step (h : s.step call = some (o, s')) (hroom : o.registers → s.nextNodeId.toNat + 1 < 2 ^ 64)
    (hs : s.IdsBelow) : s'.IdsBelow := by
  intro m hm
  have hle := (toNat_nextNodeId_step h).2 hroom
  rcases mem_step h hm with hm | ⟨rfl, rfl, e⟩
  · exact lt_of_lt_of_le (hs m hm) hle
  · rw [e, UInt64.toNat_add_one, Nat.mod_eq_of_lt (hroom rfl)]
    exact Nat.lt_succ_self _

/-- A property that every transition of a run preserves while the counter has room for
    its registration holds all along a run whose successful registrations are fewer
    than the values the counter has left. -/
theorem run_preserves {P : Runtime → Prop} {calls : List Call} {ts : List Transition}
    (h : s.run calls = some (ts, s')) (hroom : s.nextNodeId.toNat + registrations ts < 2 ^ 64)
    (hP : ∀ t ∈ ts, (t.outcome.registers → t.pre.nextNodeId.toNat + 1 < 2 ^ 64) → P t.pre → P t.post) (h0 : P s) :
    (∀ t ∈ ts, P t.pre) ∧ P s' := by
  induction calls generalizing s ts with
  | nil => cases h; exact ⟨fun _ ht => absurd ht (List.not_mem_nil _), h0⟩
  | cons call calls ih =>
    obtain ⟨o, s₁, ts', hs, hr, rfl⟩ := run_cons.1 h
    rw [registrations_cons] at hroom
    dsimp only at hroom
    have hroom₁ : o.registers → s.nextNodeId.toNat + 1 < 2 ^ 64 := fun ho => by
      simp only [ho, if_true] at hroom; omega
    have h₁ : P s₁ := hP _ (List.mem_cons_self _ _) hroom₁ h0
    have hroom' : s₁.nextNodeId.toNat + registrations ts' < 2 ^ 64 := by
      have := (toNat_nextNodeId_step hs).1; omega
    obtain ⟨ih₁, ih₂⟩ := ih hr hroom' (fun t ht => hP t (List.mem_cons_of_mem _ ht)) h₁
    exact ⟨fun t ht => (List.mem_cons.1 ht).elim (fun e => e ▸ h0) (ih₁ t), ih₂⟩

/-- The counter before the `k`-th call is at most as far past where it started as the
    registrations before it. -/
theorem toNat_nextNodeId_run {calls : List Call} {ts : List Transition} (h : s.run calls = some (ts, s'))
    (k : Nat) (hk : k < ts.length) : ts[k].pre.nextNodeId.toNat ≤ s.nextNodeId.toNat + registrations (ts.take k) := by
  induction calls generalizing s ts k with
  | nil => cases h; cases hk
  | cons call calls ih =>
    obtain ⟨o, s₁, ts', hs, hr, rfl⟩ := run_cons.1 h
    cases k with
    | zero => exact Nat.le_add_right _ _
    | succ k =>
      have := ih hr k (by simpa using hk)
      have := (toNat_nextNodeId_step hs).1
      simp only [List.getElem_cons_succ, List.take_succ_cons, registrations_cons]
      omega

/-- Over a run whose successful registrations are fewer than the values the counter has
    left, every id in use stays below the counter, so no registration takes an id in
    use. -/
theorem idsBelow_run {calls : List Call} {ts : List Transition} (h : s.run calls = some (ts, s'))
    (hroom : s.nextNodeId.toNat + registrations ts < 2 ^ 64) (hs : s.IdsBelow) :
    (∀ t ∈ ts, t.pre.IdsBelow) ∧ s'.IdsBelow :=
  run_preserves h hroom (fun _ ht hr => idsBelow_step (step_of_mem_run h ht) hr) hs

/-- Over such a run, a node whose id is below the counter keeps the label and privilege
    it has, until it is removed. -/
theorem authority_run {calls : List Call} {ts : List Transition} (h : s.run calls = some (ts, s'))
    (hroom : s.nextNodeId.toNat + registrations ts < 2 ^ 64) {n : NodeId} (hn : n.val.toNat < s.nextNodeId.toNat)
    {v : Label × NodePrivilege}
    (h0 : (s.nodeInfos.lookup n).map NodeInfo.authority = some v ∨ s.nodeInfos.lookup n = none) :
    ∀ t ∈ ts, (t.pre.nodeInfos.lookup n).map NodeInfo.authority = some v ∨ t.pre.nodeInfos.lookup n = none := by
  have key : ∀ t ∈ ts, (t.outcome.registers → t.pre.nextNodeId.toNat + 1 < 2 ^ 64) →
      n.val.toNat < t.pre.nextNodeId.toNat ∧
        ((t.pre.nodeInfos.lookup n).map NodeInfo.authority = some v ∨ t.pre.nodeInfos.lookup n = none) →
      n.val.toNat < t.post.nextNodeId.toNat ∧
        ((t.post.nodeInfos.lookup n).map NodeInfo.authority = some v ∨ t.post.nodeInfos.lookup n = none) := by
    intro t ht hr ⟨hlt, hv⟩
    have hs := step_of_mem_run h ht
    refine ⟨lt_of_lt_of_le hlt ((toNat_nextNodeId_step hs).2 hr), ?_⟩
    rcases authority_step hs n with e | e | ⟨-, rfl, -⟩
    · rcases hv with hv | hv
      · exact .inl (e.trans hv)
      · rw [hv, Option.map_none'] at e
        exact .inr (Option.map_eq_none'.1 e)
    · exact .inr e
    · exact absurd hlt (lt_irrefl _)
  exact fun t ht => ((run_preserves (P := fun r : Runtime => n.val.toNat < r.nextNodeId.toNat ∧
    ((r.nodeInfos.lookup n).map NodeInfo.authority = some v ∨ r.nodeInfos.lookup n = none))
    h hroom key ⟨hn, h0⟩).1 t ht).2

end Runtime

end OakRuntime

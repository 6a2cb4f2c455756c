import OakRuntime.Run

/-!
# Failed Calls

A call that fails leaves the runtime as it found it, apart from the introspection log.

Every check an operation makes comes before its first mutation, and each check only
reads, so a failure returns the state it was given. `channel_write` is the one
operation that logs on a failure: its `MessageEnqueued` event follows the channel
block whatever the block returned. `LogOnly s s'` says exactly that much: `s'` is `s`
with events appended. A capacity probe that finds the front message too large
(`NeedsCapacity`) only peeks, and counts as a failure here too.

The reader and writer counts are counts of live halves, which the node records and
the queues determine; `message_from` clones the halves of a message one by one and a
bad handle drops the clones made so far, so nothing of a failed write is left in a
count either.

## Main definitions

* `LogOnly`: Two states that differ only by events appended to the log.
* `Outcome.Failed`: The outcomes of a failed call.

## Theorems

* `Runtime.checked_of_error`: An error through `checked` comes from the check or the
  continuation.
* `Runtime.step_failed_logOnly`: A failed call only appends to the log.
* `Runtime.failed_call_changes_nothing`: A failed call leaves the node records, the
  queues, the counts and the id counters as they were.
-/

namespace OakRuntime

/-- `s'` is `s` with events appended to the introspection log. -/
def LogOnly (s s' : Runtime) : Prop :=
  ∃ evs, s' = { s with introspectionEventQueue := s.introspectionEventQueue ++ evs }

theorem LogOnly.refl (s : Runtime) : LogOnly s s := ⟨[], by simp⟩

theorem LogOnly.introspectionEvent (s : Runtime) (e : EventDetails) :
    LogOnly s (s.introspectionEvent e) := ⟨[e], rfl⟩

/-- A call that failed: it returned an error, or its capacity probe reported the sizes
    of a message it left queued. -/
def Outcome.Failed : Outcome → Prop
  | .created (.error _) | .cloned (.error _) | .written (.error _) | .read (.error _)
  | .tryRead (.error _) | .tryRead (.ok (some (.needsCapacity _ _)))
  | .closed (.error _) | .registered (.error _) => True
  | _ => False

namespace Runtime

variable {s s' : Runtime}

theorem checked_of_error {α β : Type} {P : Runtime → Prop} (hs : P s)
    {x : Option (Except OakStatus α)} {k : α → Option (Except OakStatus β × Runtime)} {e : OakStatus}
    (h : s.checked x k = some (.error e, s'))
    (hk : ∀ a e' s'', k a = some (.error e', s'') → P s'') : P s' := by
  rcases checked_eq_some h with ⟨_, _, _, rfl⟩ | ⟨a, _, ha⟩
  · exact hs
  · exact hk a _ _ ha

theorem checked_error_eq {α β : Type} {x : Option (Except OakStatus α)}
    {k : α → Option (Except OakStatus β × Runtime)} {e : OakStatus}
    (h : s.checked x k = some (.error e, s'))
    (hk : ∀ a e' s'', k a = some (.error e', s'') → s'' = s) : s' = s :=
  checked_of_error (P := (· = s)) rfl h hk

theorem channelCreate_error {n : NodeId} {name : String} {label : Label} {d : Downgrading}
    {rng : List Handle} {e : OakStatus} (h : s.channelCreate n name label d rng = some (.error e, s')) :
    s' = s := by
  unfold channelCreate at h
  split at h
  · cases h; rfl
  refine checked_error_eq h fun _ _ _ h₁ => checked_error_eq h₁ fun _ _ _ h₂ => ?_
  dsimp only at h₂
  split at h₂
  · cases h₂
  · split at h₂ <;> cases h₂

theorem handleClone_error {n : NodeId} {handle : Handle} {rng : List Handle} {e : OakStatus}
    (h : s.handleClone n handle rng = some (.error e, s')) : s' = s := by
  unfold handleClone at h
  split at h
  · cases h; rfl
  refine checked_error_eq h fun _ _ _ h₁ => ?_
  simp only [Option.map_eq_some', Prod.mk.injEq] at h₁
  obtain ⟨_, h₁, h₂, _⟩ := h₁
  cases h₂

theorem channelWrite_error {n : NodeId} {handle : Handle} {nodeMsg : NodeMessage} {d : Downgrading}
    {e : OakStatus} (h : s.channelWrite n handle nodeMsg d = some (.error e, s')) : LogOnly s s' := by
  refine checked_of_error (P := LogOnly s) (.refl s) h fun _ _ _ h₁ =>
    checked_of_error (P := LogOnly s) (.refl s) h₁ fun _ _ _ h₂ =>
    checked_of_error (P := LogOnly s) (.refl s) h₂ fun _ _ _ h₃ => ?_
  split at h₃
  · cases h₃
  · cases h₃; exact .introspectionEvent _ _
  · split at h₃ <;> cases h₃
    exact .introspectionEvent _ _

/-- The two read paths share their failures: the checks, and an empty queue. -/
theorem channelRead_error {n : NodeId} {handle : Handle} {d : Downgrading} {rng : List Handle}
    {e : OakStatus} (h : s.channelRead n handle d rng = some (.error e, s')) : s' = s := by
  unfold channelRead at h
  refine checked_error_eq h fun _ _ _ h₁ => checked_error_eq h₁
    fun _ _ _ h₂ => checked_error_eq h₂ fun _ _ _ h₃ => ?_
  split at h₃
  · split at h₃ <;> cases h₃; rfl
  · split at h₃ <;> cases h₃

theorem channelTryReadMessage_failed {n : NodeId} {handle : Handle} {b k : Nat} {d : Downgrading}
    {rng : List Handle} {o : Outcome} (h : (s.channelTryReadMessage n handle b k d rng).map
      (fun (r, s') => (Outcome.tryRead r, s')) = some (o, s')) (hf : o.Failed) : s' = s := by
  simp only [Option.map_eq_some', Prod.mk.injEq, Prod.exists] at h
  obtain ⟨r, s'', h, rfl, rfl⟩ := h
  unfold channelTryReadMessage at h
  rcases checked_eq_some h with ⟨_, _, rfl, rfl⟩ | ⟨_, _, h₁⟩; · rfl
  rcases checked_eq_some h₁ with ⟨_, _, rfl, rfl⟩ | ⟨_, _, h₂⟩; · rfl
  rcases checked_eq_some h₂ with ⟨_, _, rfl, rfl⟩ | ⟨_, _, h₃⟩; · rfl
  split at h₃
  · split at h₃ <;> cases h₃ <;> rfl
  · split at h₃
    · cases h₃; rfl
    · split at h₃ <;> cases h₃; exact hf.elim

theorem dropAbiHandle_error {n : NodeId} {handle : Handle} {e : OakStatus}
    (h : s.dropAbiHandle n handle = some (.error e, s')) : s' = s := by
  unfold dropAbiHandle at h
  split at h
  · cases h
  · split at h <;> cases h; rfl

theorem nodeRegister_error {n : NodeId} {c : CreatedNode} {name : String} {label : Label}
    {handle : Handle} {d : Downgrading} {rng : List Handle} {e : OakStatus}
    (h : s.nodeRegister n c name label handle d rng = some (.error e, s')) : s' = s := by
  unfold nodeRegister at h
  split at h
  · cases h; rfl
  refine checked_error_eq h fun _ _ _ h₁ => checked_error_eq h₁ fun _ _ _ h₂ =>
    checked_error_eq h₂ fun _ _ _ h₃ => checked_error_eq h₃ fun _ _ _ h₄ => ?_
  dsimp only at h₄
  split at h₄
  · cases h₄
  · simp only [Option.map_eq_some', Prod.mk.injEq] at h₄
    obtain ⟨_, -, h₄, -⟩ := h₄
    cases h₄

theorem nodeCreateAndRegister_error {n : NodeId} {c : Option CreatedNode} {name : String}
    {label : Label} {handle : Handle} {d : Downgrading} {rng : List Handle} {e : OakStatus}
    (h : s.nodeCreateAndRegister n c name label handle d rng = some (.error e, s')) : s' = s := by
  unfold nodeCreateAndRegister at h
  split at h
  · cases h; rfl
  · exact nodeRegister_error h

theorem map_outcome_eq_some {β : Type} {x : Option (β × Runtime)} {f : β → Outcome} {o : Outcome}
    (h : (x.map fun (r, s') => (f r, s')) = some (o, s')) : ∃ r, x = some (r, s') ∧ o = f r := by
  simp only [Option.map_eq_some', Prod.mk.injEq, Prod.exists] at h
  obtain ⟨r, _, h, rfl, rfl⟩ := h
  exact ⟨r, h, rfl⟩

/-- A failed call only appends to the log. -/
theorem step_failed_logOnly {call : Call} {o : Outcome} (h : s.step call = some (o, s'))
    (hf : o.Failed) : LogOnly s s' := by
  cases call <;> simp only [step] at h
  case channelCreate =>
    obtain ⟨r | r, hr, rfl⟩ := map_outcome_eq_some h
    · exact channelCreate_error hr ▸ .refl s
    · exact hf.elim
  case handleClone =>
    obtain ⟨r | r, hr, rfl⟩ := map_outcome_eq_some h
    · exact handleClone_error hr ▸ .refl s
    · exact hf.elim
  case channelWrite =>
    obtain ⟨r | r, hr, rfl⟩ := map_outcome_eq_some h
    · exact channelWrite_error hr
    · exact hf.elim
  case channelRead =>
    obtain ⟨r | r, hr, rfl⟩ := map_outcome_eq_some h
    · exact channelRead_error hr ▸ .refl s
    · exact hf.elim
  case channelTryReadMessage => exact channelTryReadMessage_failed h hf ▸ .refl s
  case channelClose =>
    obtain ⟨r | r, hr, rfl⟩ := map_outcome_eq_some h
    · exact dropAbiHandle_error hr ▸ .refl s
    · exact hf.elim
  case nodeRegister =>
    obtain ⟨r | r, hr, rfl⟩ := map_outcome_eq_some h
    · exact nodeRegister_error hr ▸ .refl s
    · exact hf.elim
  case nodeCreateAndRegister =>
    obtain ⟨r | r, hr, rfl⟩ := map_outcome_eq_some h
    · exact nodeCreateAndRegister_error hr ▸ .refl s
    · exact hf.elim
  case waitOnChannels | removeNodeId =>
    simp only [Option.map_eq_some', Prod.mk.injEq] at h
    obtain ⟨_, _, rfl, -⟩ := h
    simp [Outcome.Failed] at hf
  case stop =>
    obtain ⟨rfl, -⟩ := Prod.mk.inj (Option.some.inj h)
    simp [Outcome.Failed] at hf

/-- Failed operations change nothing: the node records (handle tables, labels,
    privileges, stoppers), every channel with its queue, every reader and writer count,
    and both id counters are as before. -/
theorem failed_call_changes_nothing (s : Runtime) (call : Call) (o : Outcome) (s' : Runtime)
    (h : s.step call = some (o, s')) (hf : o.Failed) :
    s'.nodeInfos = s.nodeInfos ∧ s'.channels = s.channels ∧
      (∀ c, s'.readerCount c = s.readerCount c ∧ s'.writerCount c = s.writerCount c) ∧
      s'.nextChannelId = s.nextChannelId ∧ s'.nextNodeId = s.nextNodeId := by
  obtain ⟨evs, rfl⟩ := step_failed_logOnly h hf
  exact ⟨rfl, rfl, fun _ => ⟨rfl, rfl⟩, rfl, rfl⟩

/-- The failure the Wasm tests exercise: the factory rejects the configuration, and
    `node_create` answers `ErrInvalidArgs` with nothing changed. -/
theorem factory_failure_changes_nothing :
    fresh.step (.nodeCreateAndRegister ⟨0⟩ none "test" Label.publicUntrusted 6 .no []) =
        some (.registered (.error .errInvalidArgs), fresh) ∧
      (fresh.nodeInfos = fresh.nodeInfos ∧ fresh.channels = fresh.channels ∧
        (∀ c, fresh.readerCount c = fresh.readerCount c ∧ fresh.writerCount c = fresh.writerCount c) ∧
        fresh.nextChannelId = fresh.nextChannelId ∧ fresh.nextNodeId = fresh.nextNodeId) :=
  ⟨rfl, failed_call_changes_nothing fresh
    (.nodeCreateAndRegister ⟨0⟩ none "test" Label.publicUntrusted 6 .no [])
    (.registered (.error .errInvalidArgs)) fresh rfl trivial⟩

end Runtime

end OakRuntime

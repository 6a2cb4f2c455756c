import OakRuntime.Effects

/-!
# Calls That Agree

Two pairs of calls of the runtime are meant to agree wherever they do not differ on
purpose, and they do.

`channel_try_read_message` is `channel_read` with a size check put in front of the
pop. When the caller may read the channel and its front message has more data bytes
or more halves than the capacities offered, the message stays queued, its sizes are
returned and nothing changes (`channelTryReadMessage_needsCapacity`). In every other
case the two calls run the same code: the same checks with the same errors, the same
`ErrChannelClosed` or `None` for an empty queue, and the same pop, installation of
handles and `MessageDequeued` event, so the results correspond and the successor
states are equal (`channelTryReadMessage_eq_channelRead`).

The `Downgrading` flag only ever widens what a call may do. Under `Downgrading::Yes`
the label checks compare the label lowered by the node's privilege: the channel's
label for a read, the node's own for a write. `downgrade_label` only lowers
(`NodePrivilege.downgradeLabel_flowsTo`), so a check that passes under `No` passes
under `Yes` (`validateCanReadFromLabel_yes`, `validateCanWriteToLabel_yes`). The flag
is read nowhere else, so a call that did not fail with `ErrPermissionDenied` under
`No` returns the same and leaves the same state under `Yes`: each call is a chain of
checks, and `checked_yes` carries the agreement through one link of it.

## Theorems

* `Runtime.channelTryReadMessage_needsCapacity`: A message too large stays queued.
* `Runtime.channelTryReadMessage_eq_channelRead`: Otherwise the two reads agree.
* `Runtime.tryRead_agrees_with_read`: Both.
* `Runtime.checked_yes`: A check that agrees under both flags keeps a chain agreeing.
* `Runtime.downgrading_never_restricts`: `Downgrading::Yes` changes nothing a call
  under `No` was allowed to do.
-/

namespace OakRuntime

namespace Runtime

variable {s : Runtime} {n : NodeId}

/-! ### `channel_try_read_message` and `channel_read` -/

theorem map_checked {α β γ : Type} (x : Option (Except OakStatus α)) (k : α → Option (Except OakStatus β × Runtime))
    (f : β → γ) :
    (s.checked x k).map (fun (r, s') => (r.map f, s')) =
      s.checked x fun a => (k a).map fun (r, s') => (r.map f, s') := by
  rcases x with _ | _ | a <;> rfl

/-- A front message with more bytes or halves than the caller offers room for stays
    queued: the call reports its sizes and changes nothing. -/
theorem channelTryReadMessage_needsCapacity {k : Handle} {b c : Nat} {d : Downgrading} {rng : List Handle}
    {half : ChannelHalf} {ch : Channel} {m : Message} {rest : List Message}
    (hhalf : s.abiToReadHalf n k = some (.ok half)) (hval : s.validateCanReadFromChannel n half d = some (.ok ()))
    (hch : s.channels[half.channel]? = some ch) (hfront : ch.messages = m :: rest)
    (hcap : m.data.length > b ∨ m.channels.length > c) :
    s.channelTryReadMessage n k b c d rng = some (.ok (some (.needsCapacity m.data.length m.channels.length)), s) := by
  have hw : s.withReaderChannel half = some (.ok ch) :=
    withReaderChannel_eq_ok.2 ⟨(abiToReadHalf_eq_ok.1 hhalf).2, hch⟩
  simp [channelTryReadMessage, hhalf, hval, hw, hfront, hcap]

/-- Unless the front message is too large, `channel_try_read_message` is
    `channel_read`, its `Some` read as `Success`. -/
theorem channelTryReadMessage_eq_channelRead {k : Handle} {b c : Nat} {d : Downgrading} {rng : List Handle}
    (hno : ∀ half ch m rest, s.abiToReadHalf n k = some (.ok half) →
      s.validateCanReadFromChannel n half d = some (.ok ()) → s.channels[half.channel]? = some ch →
      ch.messages = m :: rest → ¬ (m.data.length > b ∨ m.channels.length > c)) :
    s.channelTryReadMessage n k b c d rng =
      (s.channelRead n k d rng).map fun (r, s') => (r.map (Option.map .success), s') := by
  unfold channelTryReadMessage channelRead
  rw [map_checked]
  rcases hh : s.abiToReadHalf n k with _ | _ | half
  · rfl
  · rfl
  rw [checked_ok, checked_ok, map_checked]
  rcases hv : s.validateCanReadFromChannel n half d with _ | _ | ⟨⟩
  · rfl
  · rfl
  rw [checked_ok, checked_ok, map_checked]
  rcases hw : s.withReaderChannel half with _ | _ | ch
  · rfl
  · rfl
  rw [checked_ok, checked_ok]
  obtain ⟨-, hch⟩ := withReaderChannel_eq_ok.1 hw
  cases hm : ch.messages with
  | nil =>
    dsimp only
    split <;> rfl
  | cons m rest =>
    dsimp only
    rw [if_neg (hno half ch m rest hh hv hch hm)]
    cases (s.setQueue half.channel rest).nodeMessageFrom m n rng <;> rfl

/-- `channel_try_read_message` agrees with `channel_read`: a readable front message too
    large for the capacities offered is reported by its sizes and left where it is,
    with the state unchanged; in every other case both calls return corresponding
    results (`None`, the same error, or `Success` of the message `channel_read`
    returns) and leave the same state, for the same random handle choices. -/
theorem tryRead_agrees_with_read (s : Runtime) (n : NodeId) (k : Handle) (b c : Nat) (d : Downgrading)
    (rng : List Handle) :
    (∀ half ch m rest, s.abiToReadHalf n k = some (.ok half) → s.validateCanReadFromChannel n half d = some (.ok ()) →
      s.channels[half.channel]? = some ch → ch.messages = m :: rest → (m.data.length > b ∨ m.channels.length > c) →
      s.channelTryReadMessage n k b c d rng = some (.ok (some (.needsCapacity m.data.length m.channels.length)), s)) ∧
    ((¬ ∃ half ch m rest, s.abiToReadHalf n k = some (.ok half) ∧ s.validateCanReadFromChannel n half d = some (.ok ()) ∧
        s.channels[half.channel]? = some ch ∧ ch.messages = m :: rest ∧ (m.data.length > b ∨ m.channels.length > c)) →
      s.channelTryReadMessage n k b c d rng =
        (s.channelRead n k d rng).map fun (r, s') => (r.map (Option.map .success), s')) :=
  ⟨fun _ _ _ _ hh hv hch hm hcap => channelTryReadMessage_needsCapacity hh hv hch hm hcap,
    fun hno => channelTryReadMessage_eq_channelRead fun half ch m rest hh hv hch hm hcap =>
      hno ⟨half, ch, m, rest, hh, hv, hch, hm, hcap⟩⟩

/-! ### `Downgrading::Yes` never restricts -/

theorem validateCanReadFromLabel_yes {l : Label}
    (h : s.validateCanReadFromLabel n l .no ≠ some (.error .errPermissionDenied)) :
    s.validateCanReadFromLabel n l .yes = s.validateCanReadFromLabel n l .no := by
  cases hn : s.nodeInfos.lookup n with
  | none => simp [validateCanReadFromLabel, getNodeLabel, hn]
  | some ni =>
    rw [validateCanReadFromLabel_eq hn] at h ⊢
    rw [validateCanReadFromLabel_eq hn]
    have hflow : l.flowsTo ni.label := by
      by_contra hf
      simp [hf] at h
    -- the downgraded source label is below the source label
    simp [hflow, Label.flowsTo_trans (ni.privilege.downgradeLabel_flowsTo l) hflow]

theorem validateCanWriteToLabel_yes {l : Label}
    (h : s.validateCanWriteToLabel n l .no ≠ some (.error .errPermissionDenied)) :
    s.validateCanWriteToLabel n l .yes = s.validateCanWriteToLabel n l .no := by
  cases hn : s.nodeInfos.lookup n with
  | none => simp [validateCanWriteToLabel, getNodeLabel, hn]
  | some ni =>
    rw [validateCanWriteToLabel_eq hn] at h ⊢
    rw [validateCanWriteToLabel_eq hn]
    have hflow : ni.label.flowsTo l := by
      by_contra hf
      simp [hf] at h
    -- the downgraded node label is below the node label
    simp [hflow, Label.flowsTo_trans (ni.privilege.downgradeLabel_flowsTo ni.label) hflow]

theorem validateCanReadFromChannel_yes {half : ChannelHalf}
    (h : s.validateCanReadFromChannel n half .no ≠ some (.error .errPermissionDenied)) :
    s.validateCanReadFromChannel n half .yes = s.validateCanReadFromChannel n half .no := by
  unfold validateCanReadFromChannel at h ⊢
  split
  · rfl
  · rfl
  · rename_i ch hw
    rw [hw] at h
    exact validateCanReadFromLabel_yes h

theorem validateCanWriteToChannel_yes {half : ChannelHalf}
    (h : s.validateCanWriteToChannel n half .no ≠ some (.error .errPermissionDenied)) :
    s.validateCanWriteToChannel n half .yes = s.validateCanWriteToChannel n half .no := by
  unfold validateCanWriteToChannel at h ⊢
  split
  · rfl
  · rfl
  · rename_i ch hw
    rw [hw] at h
    exact validateCanWriteToLabel_yes h

/-- One link of a chain of checks: if the check under `Yes` agrees with the one under
    `No` whenever the latter did not refuse permission, and so do the continuations,
    then the chain under `Yes` agrees with a chain under `No` that did not refuse
    permission. -/
theorem checked_yes {α β : Type} {x y : Option (Except OakStatus α)} {k k' : α → Option (Except OakStatus β × Runtime)}
    (hxy : x ≠ some (.error .errPermissionDenied) → y = x)
    (hk : ∀ a, (∀ s', k a ≠ some (.error .errPermissionDenied, s')) → k' a = k a)
    (h : ∀ s', s.checked x k ≠ some (.error .errPermissionDenied, s')) : s.checked y k' = s.checked x k := by
  rw [hxy fun e => h s (by rw [e]; rfl)]
  rcases x with _ | _ | a
  · rfl
  · rfl
  · exact hk a h

variable {rng : List Handle}

theorem channelCreate_yes {name : String} {label : Label}
    (h : ∀ s', s.channelCreate n name label .no rng ≠ some (.error .errPermissionDenied, s')) :
    s.channelCreate n name label .yes rng = s.channelCreate n name label .no rng := by
  unfold channelCreate at h ⊢
  split
  · rfl
  · simp only [if_neg ‹_›] at h
    exact checked_yes validateCanWriteToLabel_yes
      (fun _ h₁ => checked_yes validateCanWriteToLabel_yes (fun _ _ => rfl) h₁) h

theorem nodeRegister_yes {created : CreatedNode} {name : String} {label : Label} {k : Handle}
    (h : ∀ s', s.nodeRegister n created name label k .no rng ≠ some (.error .errPermissionDenied, s')) :
    s.nodeRegister n created name label k .yes rng = s.nodeRegister n created name label k .no rng := by
  unfold nodeRegister at h ⊢
  split
  · rfl
  · simp only [if_neg ‹_›] at h
    exact checked_yes validateCanWriteToLabel_yes
      (fun _ h₁ => checked_yes validateCanWriteToLabel_yes (fun _ _ => rfl) h₁) h

theorem channelWrite_yes {k : Handle} {nm : NodeMessage}
    (h : ∀ s', s.channelWrite n k nm .no ≠ some (.error .errPermissionDenied, s')) :
    s.channelWrite n k nm .yes = s.channelWrite n k nm .no :=
  checked_yes (fun _ => rfl) (fun _ h₁ => checked_yes validateCanWriteToChannel_yes (fun _ _ => rfl) h₁) h

theorem channelRead_yes {k : Handle} (h : ∀ s', s.channelRead n k .no rng ≠ some (.error .errPermissionDenied, s')) :
    s.channelRead n k .yes rng = s.channelRead n k .no rng :=
  checked_yes (fun _ => rfl) (fun _ h₁ => checked_yes validateCanReadFromChannel_yes (fun _ _ => rfl) h₁) h

theorem channelTryReadMessage_yes {k : Handle} {b c : Nat}
    (h : ∀ s', s.channelTryReadMessage n k b c .no rng ≠ some (.error .errPermissionDenied, s')) :
    s.channelTryReadMessage n k b c .yes rng = s.channelTryReadMessage n k b c .no rng :=
  checked_yes (fun _ => rfl) (fun _ h₁ => checked_yes validateCanReadFromChannel_yes (fun _ _ => rfl) h₁) h

theorem channelStatus_yes {half : ChannelHalf} (h : s.channelStatus n half .no ≠ some (.ok .permissionDenied)) :
    s.channelStatus n half .yes = s.channelStatus n half .no := by
  have hv : s.validateCanReadFromChannel n half .no ≠ some (.error .errPermissionDenied) :=
    fun e => h (by simp [channelStatus, e])
  simp only [channelStatus, validateCanReadFromChannel_yes hv]

/-- Applying privilege never restricts. A label check that passes under
    `Downgrading::No` passes under `Yes`; and `channel_create`, `node_register`,
    `channel_write`, `channel_read` and `channel_try_read_message` called with `No` that
    do not fail with `ErrPermissionDenied`, and `channel_status` with `No` that does not
    return `PermissionDenied`, return the same and leave the same state when called
    with `Yes`, for the same random handle choices. -/
theorem downgrading_never_restricts (s : Runtime) (n : NodeId) :
    (∀ l, s.validateCanReadFromLabel n l .no = some (.ok ()) → s.validateCanReadFromLabel n l .yes = some (.ok ())) ∧
    (∀ l, s.validateCanWriteToLabel n l .no = some (.ok ()) → s.validateCanWriteToLabel n l .yes = some (.ok ())) ∧
    (∀ name label rng, (∀ s', s.channelCreate n name label .no rng ≠ some (.error .errPermissionDenied, s')) →
      s.channelCreate n name label .yes rng = s.channelCreate n name label .no rng) ∧
    (∀ created name label k rng,
      (∀ s', s.nodeRegister n created name label k .no rng ≠ some (.error .errPermissionDenied, s')) →
      s.nodeRegister n created name label k .yes rng = s.nodeRegister n created name label k .no rng) ∧
    (∀ k nm, (∀ s', s.channelWrite n k nm .no ≠ some (.error .errPermissionDenied, s')) →
      s.channelWrite n k nm .yes = s.channelWrite n k nm .no) ∧
    (∀ k rng, (∀ s', s.channelRead n k .no rng ≠ some (.error .errPermissionDenied, s')) →
      s.channelRead n k .yes rng = s.channelRead n k .no rng) ∧
    (∀ k b c rng, (∀ s', s.channelTryReadMessage n k b c .no rng ≠ some (.error .errPermissionDenied, s')) →
      s.channelTryReadMessage n k b c .yes rng = s.channelTryReadMessage n k b c .no rng) ∧
    (∀ half, s.channelStatus n half .no ≠ some (.ok .permissionDenied) →
      s.channelStatus n half .yes = s.channelStatus n half .no) :=
  ⟨fun _ h => (validateCanReadFromLabel_yes (by rw [h]; simp)).trans h,
    fun _ h => (validateCanWriteToLabel_yes (by rw [h]; simp)).trans h,
    fun _ _ _ => channelCreate_yes, fun _ _ _ _ _ => nodeRegister_yes, fun _ _ => channelWrite_yes,
    fun _ _ => channelRead_yes, fun _ _ _ _ => channelTryReadMessage_yes, fun _ => channelStatus_yes⟩

end Runtime

end OakRuntime

import OakRuntime.Fifo
import OakRuntime.Waiting

/-!
# A Closed Channel Stays Closed

`channel_status` reports `Orphaned` for a read half whose channel is empty and has no
writer (`Channel::has_writers`), and `channel_read` on such a channel fails with
`ErrChannelClosed`. A node takes either answer as the end of the channel and stops
waiting on it. That is right only if no message can arrive later, and none can. No call
makes a half from nothing: every half after a call was there before, or belongs to the
channel the call created (`Runtime.halves_step`), so a half that no table and no queued
message holds never comes back (`Runtime.absent_step`). A write needs a write half in
the caller's table. So once a channel is empty and has no writer, it stays so through
every later call of every node (`Runtime.orphaned_run`). From then on, every status of a
read half of it is `Orphaned` and every read of it fails with `ErrChannelClosed`, unless
the read check turns the caller away (`Runtime.orphaned_forever`).

The writers' side is the same. `channel_write` fails with `ErrChannelClosed` when its
channel has no reader (`Channel::has_readers`), and no reader comes back: every later
write through a write half of that channel fails, with `ErrChannelClosed` once its
checks pass (`Runtime.closed_to_writers_forever`).

The first result is the other side of `Shared.parked_quiet`, which keeps a waiter parked
only on a channel that is empty and still has a writer.

## Main definitions

* `Runtime.Orphaned`: A channel of the heap that is empty and has no writer.

## Theorems

* `Runtime.absent_step`: A half nothing holds is never made again.
* `Transition.hasWriters_of_enqueued`: A write needs a writer.
* `Runtime.orphaned_step`, `Runtime.orphaned_run`: An orphaned channel stays orphaned.
* `Runtime.channelStatus_ok`: What an `Ok` status of `channel_status` is.
* `Runtime.orphaned_of_channelStatus`, `Runtime.channelStatus_of_orphaned`,
  `Runtime.channelRead_of_orphaned`: What `channel_status` and `channel_read` say of
  such a channel.
* `Runtime.channelWrite_of_readerless`: What `channel_write` says of a channel with no
  reader.
* `Runtime.orphaned_forever`, `Runtime.closed_to_writers_forever`: Closing is final, for
  readers and for writers.
-/

namespace OakRuntime

/-- A half of a channel of the heap that no table and no queued message holds is never
    made again. -/
theorem Runtime.absent_step {s s' : Runtime} {call : Call} {o : Outcome} (h : s.step call = some (o, s'))
    {x : ChannelHalf} (hc : x.channel < s.channels.length) (hx : x ∉ s.halves) : x ∉ s'.halves := fun hx' =>
  (Runtime.halves_step h hx').elim hx hc.ne

/-- A write needs a write half of its channel. -/
theorem Transition.hasWriters_of_enqueued {t : Transition} {c : Nat} {m : Message} (h : t.enqueued c = some m) :
    t.pre.hasWriters c := by
  obtain ⟨⟨n, k, nm⟩, -, h⟩ := Option.bind_eq_some.1 h
  dsimp only at h
  split at h
  · rename_i half _ hh _
    split at h
    · obtain ⟨hl, hd⟩ := Runtime.abiToWriteHalf_eq_ok.1 hh
      rcases half with ⟨c', _ | _⟩
      · cases hd
      · subst c
        exact (t.pre.hasWriters_iff c').2 (Runtime.mem_halves.2 (.inl ⟨_, _, hl⟩))
    · cases h
  · cases h

namespace Runtime

variable {s s' : Runtime} {c : Nat}

/-- Channel `c` is in the heap, its queue is empty, and no half writes to it: the
    channel `channel_status` reports `Orphaned`. -/
def Orphaned (s : Runtime) (c : Nat) : Prop := c < s.channels.length ∧ s.queueOf c = [] ∧ ¬ s.hasWriters c

/-- No call makes a writer for an orphaned channel, so none fills its queue. -/
theorem orphaned_step {call : Call} {o : Outcome} (h : s.step call = some (o, s')) (ho : s.Orphaned c) :
    s'.Orphaned c := by
  obtain ⟨hc, hq, hw⟩ := ho
  have he : Transition.enqueued ⟨s, call, o, s'⟩ c = none :=
    Option.eq_none_iff_forall_not_mem.2 fun _ hm => hw (Transition.hasWriters_of_enqueued hm)
  refine ⟨lt_of_lt_of_le hc (heap_step h).1, ?_, fun hw' => ?_⟩
  · rcases queue_step h c with hcons | ⟨-, -, hd⟩
    · simp only [he, hq, Option.toList_none, List.append_nil, List.nil_append] at hcons
      exact (List.append_eq_nil.1 hcons.symm).2
    · exact hd.1
  · exact absent_step h hc (mt (s.hasWriters_iff c).2 hw) ((s'.hasWriters_iff c).1 hw')

/-- An orphaned channel stays orphaned along every run, whoever makes the calls. -/
theorem orphaned_run {calls : List Call} {ts : List Transition} (h : s.run calls = some (ts, s'))
    (ho : s.Orphaned c) : s'.Orphaned c :=
  (run_invariant h (P := (·.Orphaned c)) (fun _ ht => orphaned_step (step_of_mem_run h ht)) ho).2

variable {n : NodeId} {x : ChannelHalf} {d : Downgrading}

/-- What an `Ok` status is: the read check's refusal, or the state of the half's channel. -/
theorem channelStatus_ok {st : ChannelReadStatus} (h : s.channelStatus n x d = some (.ok st)) :
    st = .permissionDenied ∨ ∃ ch, s.channels[x.channel]? = some ch ∧
      st = if ch.messages ≠ [] then .readReady else if ¬ s.hasWriters x.channel then .orphaned else .notReady := by
  unfold channelStatus at h
  split at h
  · cases h
  · cases h
    exact .inl rfl
  obtain ⟨r, hr, he⟩ := Option.map_eq_some'.1 h
  rcases r with _ | ch
  · cases he
  cases he
  exact .inr ⟨ch, (withReaderChannel_eq_ok.1 hr).2, rfl⟩

/-- A half reported `Orphaned` belongs to an orphaned channel. -/
theorem orphaned_of_channelStatus (h : s.channelStatus n x d = some (.ok .orphaned)) : s.Orphaned x.channel := by
  obtain h | ⟨ch, hch, he⟩ := channelStatus_ok h
  · cases h
  split_ifs at he with hm hw
  exact ⟨(List.getElem?_eq_some_iff.1 hch).1, by simpa [queueOf, hch] using hm, hw⟩

/-- Every status of a read half of an orphaned channel is `Orphaned`, unless the read
    check refused the node. -/
theorem channelStatus_of_orphaned (ho : s.Orphaned x.channel) {st : ChannelReadStatus}
    (h : s.channelStatus n x d = some (.ok st)) : st = .orphaned ∨ st = .permissionDenied := by
  obtain h | ⟨ch, hch, rfl⟩ := channelStatus_ok h
  · exact .inr h
  have hq : ch.messages = [] := by simpa [queueOf, hch] using ho.2.1
  exact .inl (by simp [hq, ho.2.2])

/-- With its channel in the heap, the read check of a read half fails only for want of
    permission. -/
theorem validateCanReadFromChannel_error {ch : Channel} {e : OakStatus} (hw : s.withReaderChannel x = some (.ok ch))
    (h : s.validateCanReadFromChannel n x d = some (.error e)) : e = .errPermissionDenied := by
  simp only [validateCanReadFromChannel, hw] at h
  cases hn : s.nodeInfos.lookup n with
  | none => simp [validateCanReadFromLabel, getNodeLabel, hn] at h
  | some ni =>
    rw [validateCanReadFromLabel_eq hn] at h
    split_ifs at h <;> cases h
    rfl

/-- With its channel in the heap, the write check of a write half fails only for want of
    permission. -/
theorem validateCanWriteToChannel_error {ch : Channel} {e : OakStatus} (hw : s.withWriterChannel x = some (.ok ch))
    (h : s.validateCanWriteToChannel n x d = some (.error e)) : e = .errPermissionDenied := by
  simp only [validateCanWriteToChannel, hw] at h
  cases hn : s.nodeInfos.lookup n with
  | none => simp [validateCanWriteToLabel, getNodeLabel, hn] at h
  | some ni =>
    rw [validateCanWriteToLabel_eq hn] at h
    split_ifs at h <;> cases h
    rfl

/-- Resolving the handles of a message fails only on a handle the node does not hold. -/
theorem abiToHalves_error {hs : List Handle} {e : OakStatus} (h : s.abiToHalves n hs = some (.error e)) :
    e = .errBadHandle := by
  induction hs with
  | nil => cases h
  | cons k hs ih =>
    simp only [abiToHalves] at h
    split at h
    · cases h
    · cases h
      rename_i hk
      simp only [abiToHalf, Option.map_eq_some'] at hk
      obtain ⟨ni, -, hk⟩ := hk
      split at hk <;> cases hk
      rfl
    · obtain ⟨_ | _, hr, he⟩ := Option.map_eq_some'.1 h
      · cases he
        exact ih hr
      · cases he

/-- Every read through a read half of an orphaned channel fails with `ErrChannelClosed`,
    unless the read check refused the node. -/
theorem channelRead_of_orphaned {k : Handle} {rng : List Handle} {r : Except OakStatus (Option NodeMessage)}
    {s₂ : Runtime} (hx : s.abiToReadHalf n k = some (.ok x)) (ho : s.Orphaned x.channel)
    (h : s.channelRead n k d rng = some (r, s₂)) : r = .error .errChannelClosed ∨ r = .error .errPermissionDenied := by
  obtain ⟨ch, hch⟩ : ∃ ch, s.channels[x.channel]? = some ch := ⟨_, List.getElem?_eq_getElem ho.1⟩
  have hq : ch.messages = [] := by simpa [queueOf, hch] using ho.2.1
  have hw : s.withReaderChannel x = some (.ok ch) := withReaderChannel_eq_ok.2 ⟨(abiToReadHalf_eq_ok.1 hx).2, hch⟩
  unfold channelRead at h
  rw [hx, checked_ok] at h
  obtain ⟨e, hv, rfl, -⟩ | ⟨⟨⟩, -, h₁⟩ := checked_eq_some h
  · exact .inr (by rw [validateCanReadFromChannel_error hw hv])
  · simp only [hw, checked_ok, hq, if_neg ho.2.2, Option.some.injEq, Prod.mk.injEq] at h₁
    exact .inl h₁.1.symm

/-- Every write through a write half of a channel with no reader fails: with
    `ErrChannelClosed`, or with the error of one of its checks. -/
theorem channelWrite_of_readerless {k : Handle} {nm : NodeMessage} {r : Except OakStatus Unit} {s₂ : Runtime}
    (hx : s.abiToWriteHalf n k = some (.ok x)) (hc : x.channel < s.channels.length) (hr : ¬ s.hasReaders x.channel)
    (h : s.channelWrite n k nm d = some (r, s₂)) :
    r = .error .errChannelClosed ∨ r = .error .errPermissionDenied ∨ r = .error .errBadHandle := by
  obtain ⟨ch, hch⟩ : ∃ ch, s.channels[x.channel]? = some ch := ⟨_, List.getElem?_eq_getElem hc⟩
  have hw : s.withWriterChannel x = some (.ok ch) := withWriterChannel_eq_ok.2 ⟨(abiToWriteHalf_eq_ok.1 hx).2, hch⟩
  unfold channelWrite at h
  rw [hx, checked_ok] at h
  obtain ⟨e, hv, rfl, -⟩ | ⟨⟨⟩, -, h₁⟩ := checked_eq_some h
  · exact .inr (.inl (by rw [validateCanWriteToChannel_error hw hv]))
  obtain ⟨e, hm, rfl, -⟩ | ⟨m, -, h₂⟩ := checked_eq_some h₁
  · obtain ⟨_ | _, hm', he⟩ := Option.map_eq_some'.1 hm
    · cases he
      exact .inr (.inr (by rw [abiToHalves_error hm']))
    · cases he
  · simp only [hw, if_neg hr, Option.some.injEq, Prod.mk.injEq] at h₂
    exact .inl h₂.1.symm

/-- A write that failed with `ErrChannelClosed` found no reader on its channel, and only
    logged its event. -/
theorem channelWrite_closed {k : Handle} {nm : NodeMessage} {s₁ : Runtime} (hx : s.abiToWriteHalf n k = some (.ok x))
    (h : s.channelWrite n k nm d = some (.error .errChannelClosed, s₁)) :
    x.channel < s.channels.length ∧ ¬ s.hasReaders x.channel ∧
      s₁ = s.introspectionEvent (.messageEnqueued n.val (s.channelIdOf x) nm.handles) := by
  have hdir := (abiToWriteHalf_eq_ok.1 hx).2
  unfold channelWrite at h
  rw [hx, checked_ok] at h
  obtain ⟨ch, hch⟩ : ∃ ch, s.channels[x.channel]? = some ch := by
    cases hc : s.channels[x.channel]? with
    | some ch => exact ⟨ch, rfl⟩
    | none => simp [validateCanWriteToChannel, withWriterChannel, hdir, hc, checked] at h
  have hw : s.withWriterChannel x = some (.ok ch) := withWriterChannel_eq_ok.2 ⟨hdir, hch⟩
  obtain ⟨e, hv, he, -⟩ | ⟨⟨⟩, -, h₁⟩ := checked_eq_some h
  · cases validateCanWriteToChannel_error hw hv
    cases he
  obtain ⟨e, hm, he, -⟩ | ⟨m, -, h₂⟩ := checked_eq_some h₁
  · obtain ⟨_ | _, hm', he'⟩ := Option.map_eq_some'.1 hm
    · cases he'
      cases abiToHalves_error hm'
      cases he
    · cases he'
  simp only [hw] at h₂
  split_ifs at h₂ with hr
  · cases h₂
  · cases h₂
    exact ⟨(List.getElem?_eq_some_iff.1 hch).1, hr, rfl⟩

/-- `Orphaned` is final. Once `wait_on_channels` has reported `Orphaned` for a read
    handle of its caller, then after any further calls of any nodes, on every read
    handle of the same channel every `wait_on_channels` that returns reports `Orphaned`
    or `PermissionDenied`, and every `channel_read` fails with `ErrChannelClosed` or
    `ErrPermissionDenied`: no message can arrive on the channel any more. -/
theorem orphaned_forever {hs : List Handle} {v : List ChannelReadStatus} {p : Nat} {k : Handle}
    (hv : s.waitOnChannels n hs d = some (.returned (.ok v))) (hk : hs[p]? = some k)
    (hx : s.abiToReadHalf n k = some (.ok x)) (hp : v[p]? = some .orphaned)
    {calls : List Call} {ts : List Transition} (h : s.run calls = some (ts, s'))
    {n' : NodeId} {k' : Handle} {y : ChannelHalf} (hy : s'.abiToReadHalf n' k' = some (.ok y))
    (hc : y.channel = x.channel) :
    (∀ (hs' : List Handle) (d' : Downgrading) (v' : List ChannelReadStatus) (p' : Nat),
      s'.waitOnChannels n' hs' d' = some (.returned (.ok v')) → hs'[p']? = some k' →
      v'[p']? = some .orphaned ∨ v'[p']? = some .permissionDenied) ∧
    (∀ (d' : Downgrading) (rng : List Handle) r s₂, s'.channelRead n' k' d' rng = some (r, s₂) →
      r = .error .errChannelClosed ∨ r = .error .errPermissionDenied) := by
  obtain ⟨r, hr, hvp⟩ := waitOnChannels_status hv hk hx
  obtain ⟨st, rfl, -⟩ := channelStatus_of_read hr (abiToReadHalf_eq_ok.1 hx).2
  obtain rfl : st = .orphaned := Option.some.inj (hvp.symm.trans hp)
  have ho : s'.Orphaned y.channel := hc ▸ orphaned_run h (orphaned_of_channelStatus hr)
  refine ⟨fun hs' d' v' p' hv' hk' => ?_, fun _ _ _ _ => channelRead_of_orphaned hy ho⟩
  obtain ⟨r', hr', hvp'⟩ := waitOnChannels_status hv' hk' hy
  obtain ⟨st', rfl, -⟩ := channelStatus_of_read hr' (abiToReadHalf_eq_ok.1 hy).2
  rw [hvp']
  rcases channelStatus_of_orphaned ho hr' with rfl | rfl
  exacts [.inl rfl, .inr rfl]

/-- Node 0 creates a channel and closes its write handle; `wait_on_channels` on the
    read handle reports `Orphaned`; node 0 then clones the read handle. -/
theorem orphaned_forever_closeWrite :
    ∃ ts s ts' s', fresh.run [.channelCreate ⟨0⟩ "c" Label.publicUntrusted .no [5, 6], .channelClose ⟨0⟩ 5] =
        some (ts, s) ∧ s.run [.handleClone ⟨0⟩ 6 [7]] = some (ts', s') ∧
      s.waitOnChannels ⟨0⟩ [6] .no = some (.returned (.ok [.orphaned])) ∧ s.abiToReadHalf ⟨0⟩ 6 = some (.ok ⟨0, .read⟩) ∧
      s'.abiToReadHalf ⟨0⟩ 7 = some (.ok ⟨0, .read⟩) ∧
      (∀ (hs' : List Handle) (d' : Downgrading) (v' : List ChannelReadStatus) (p' : Nat),
        s'.waitOnChannels ⟨0⟩ hs' d' = some (.returned (.ok v')) → hs'[p']? = some 7 →
        v'[p']? = some .orphaned ∨ v'[p']? = some .permissionDenied) ∧
      (∀ (d' : Downgrading) (rng : List Handle) r s₂, s'.channelRead ⟨0⟩ 7 d' rng = some (r, s₂) →
        r = .error .errChannelClosed ∨ r = .error .errPermissionDenied) := by
  refine ⟨_, _, _, _, rfl, rfl, ?hv, ?hx, ?hy,
    orphaned_forever ?hv (p := 0) rfl ?hx rfl (rfl : Runtime.run _ [.handleClone ⟨0⟩ 6 [7]] = _) ?hy rfl⟩ <;> rfl

/-- Closed for writing is final. Once `channel_write` has failed with
    `ErrChannelClosed` (no read half of its channel is left in any table or queued
    message), then after any further calls of any nodes, every `channel_write` through a
    write half of that channel fails: with `ErrChannelClosed` once its checks pass, or
    with `ErrPermissionDenied` or `ErrBadHandle` from a check. -/
theorem closed_to_writers_forever {k : Handle} {nm : NodeMessage} {s₁ : Runtime}
    (hx : s.abiToWriteHalf n k = some (.ok x)) (hw : s.channelWrite n k nm d = some (.error .errChannelClosed, s₁))
    {calls : List Call} {ts : List Transition} (h : s₁.run calls = some (ts, s'))
    {n' : NodeId} {k' : Handle} {y : ChannelHalf} (hy : s'.abiToWriteHalf n' k' = some (.ok y))
    (hc : y.channel = x.channel) :
    ∀ (nm' : NodeMessage) (d' : Downgrading) r s₂, s'.channelWrite n' k' nm' d' = some (r, s₂) →
      r = .error .errChannelClosed ∨ r = .error .errPermissionDenied ∨ r = .error .errBadHandle := by
  obtain ⟨hlen, hr, rfl⟩ := channelWrite_closed hx hw
  have hgone := run_invariant h (P := fun t => x.channel < t.channels.length ∧ ¬ t.hasReaders x.channel)
    (fun t ht ⟨hc, hr⟩ => ⟨lt_of_lt_of_le hc (heap_step (step_of_mem_run h ht)).1,
      fun hr' => absent_step (step_of_mem_run h ht) (x := ⟨x.channel, .read⟩) hc (mt (t.pre.hasReaders_iff _).2 hr)
        ((t.post.hasReaders_iff _).1 hr')⟩)
    ⟨hlen, hr⟩
  intro nm' d' r s₂ hw'
  exact channelWrite_of_readerless hy (hc ▸ hgone.2.1) (hc ▸ hgone.2.2) hw'

/-- Node 0 creates a channel and closes its read handle; its write of one byte fails
    with `ErrChannelClosed`; node 0 then clones the write handle. -/
theorem closed_to_writers_forever_closeRead :
    ∃ ts s s₁ ts' s', fresh.run [.channelCreate ⟨0⟩ "c" Label.publicUntrusted .no [5, 6], .channelClose ⟨0⟩ 6] =
        some (ts, s) ∧ s.channelWrite ⟨0⟩ 5 ⟨[1], []⟩ .no = some (.error .errChannelClosed, s₁) ∧
      s₁.run [.handleClone ⟨0⟩ 5 [7]] = some (ts', s') ∧ s.abiToWriteHalf ⟨0⟩ 5 = some (.ok ⟨0, .write⟩) ∧
      s'.abiToWriteHalf ⟨0⟩ 7 = some (.ok ⟨0, .write⟩) ∧
      ∀ (nm' : NodeMessage) (d' : Downgrading) r s₂, s'.channelWrite ⟨0⟩ 7 nm' d' = some (r, s₂) →
        r = .error .errChannelClosed ∨ r = .error .errPermissionDenied ∨ r = .error .errBadHandle := by
  refine ⟨_, _, _, _, _, rfl, rfl, rfl, ?hx, ?hy,
    closed_to_writers_forever ?hx (rfl : Runtime.channelWrite _ ⟨0⟩ 5 ⟨[1], []⟩ .no = _)
      (rfl : Runtime.run _ [.handleClone ⟨0⟩ 5 [7]] = _) ?hy rfl⟩ <;> rfl

end Runtime

end OakRuntime

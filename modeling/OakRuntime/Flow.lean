import OakRuntime.Fifo

/-!
# Explicit Flows

The information-flow guarantee the runtime gives on its message path. A message moves
from a writer to a reader through a channel, and each end is checked against the
channel's label: `validate_can_write_to_label` when the message is written,
`validate_can_read_from_label` when it is read. Neither check sees the other end, so
the guarantee between the two nodes is a property of whole runs: it needs that the
message read was the one written (the FIFO law of `OakRuntime.Fifo`), and that the
channel's label did not change in between.

Labels are never changed once a channel is created (`label_run`); each successful
write and read passed its check (`flowsTo_of_enqueued`, `flowsTo_of_dequeued`); and
downgrading is monotone, so the two checks compose.

## Theorems

* `Downgrading.apply_mono`: Applying a flag is monotone.
* `Runtime.label_run`: Channel labels are immutable along a run.
* `Transition.flowsTo_of_enqueued`: A message was enqueued by a write the write check
  allowed.
* `Transition.flowsTo_of_dequeued`: A message was dequeued by a read the read check
  allowed.
* `Runtime.explicit_flow`: Every message read was written by a node whose downgraded
  label flows, through the channel, to the reader's.
-/

namespace OakRuntime

theorem Downgrading.apply_mono (d : Downgrading) (p : NodePrivilege) {a b : Label} (h : a.flowsTo b) :
    (d.apply p a).flowsTo (d.apply p b) := by
  cases d with
  | no => exact h
  | yes => exact p.downgradeLabel_mono h

namespace Runtime

variable {s s' : Runtime}

/-- Every state of a run sees channel `c` with the label it had at the start. -/
theorem label_run {calls : List Call} {ts : List Transition} (h : s.run calls = some (ts, s')) {c : Nat}
    (hc : c < s.channels.length) :
    ∀ t ∈ ts, (t.pre.channels[c]?).map Channel.label = (s.channels[c]?).map Channel.label := by
  induction calls generalizing s ts with
  | nil => cases h; simp
  | cons call calls ih =>
    obtain ⟨o, s₁, ts', hs, hr, rfl⟩ := run_cons.1 h
    obtain ⟨hlen, hlab⟩ := heap_step hs
    intro t ht
    rcases List.mem_cons.1 ht with rfl | ht
    · rfl
    · rw [ih hr (lt_of_lt_of_le hc hlen) t ht, hlab c hc]

@[simp] theorem fresh_queueOf (c : Nat) : fresh.queueOf c = [] := rfl

end Runtime

namespace Transition

open Runtime

/-- A transition that put a message on channel `c` is a `channel_write` whose check
    passed: the writer's label, downgraded as its flag says, flows to `c`'s label. -/
theorem flowsTo_of_enqueued {t : Transition} (hs : t.pre.step t.call = some (t.outcome, t.post)) {c : Nat}
    {m : Message} (he : t.enqueued c = some m) :
    ∃ w d ni ch, t.call.nodeId = some w ∧ t.call.downgrading = some d ∧ t.pre.nodeInfos.lookup w = some ni ∧
      t.pre.channels[c]? = some ch ∧ (d.apply ni.privilege ni.label).flowsTo ch.label := by
  obtain ⟨pre, call, o, post⟩ := t
  cases hsub : submitted ⟨pre, call, o, post⟩ with
  | none => simp [enqueued, hsub] at he
  | some x =>
    obtain ⟨w, k, nm⟩ := x
    obtain ⟨d, ni, half, ch, m', rfl, rfl, hw⟩ := submitted_step hs hsub
    rw [hw.enqueued c] at he
    split at he
    · subst c
      exact ⟨w, d, ni, ch, rfl, rfl, hw.lookup_node, hw.channel, hw.check⟩
    · cases he

/-- A transition that took a message off channel `c` is a read whose check passed:
    `c`'s label, downgraded as the reader's flag says, flows to the reader's label. -/
theorem flowsTo_of_dequeued {t : Transition} (hs : t.pre.step t.call = some (t.outcome, t.post)) {c : Nat}
    {m : Message} (hd : t.dequeued c = some m) :
    ∃ r d ni ch, t.call.nodeId = some r ∧ t.call.downgrading = some d ∧ t.pre.nodeInfos.lookup r = some ni ∧
      t.pre.channels[c]? = some ch ∧ (d.apply ni.privilege ch.label).flowsTo ni.label := by
  obtain ⟨pre, call, o, post⟩ := t
  cases hdel : delivered ⟨pre, call, o, post⟩ with
  | none => simp [dequeued, hdel] at hd
  | some x =>
    obtain ⟨r, k, nm⟩ := x
    obtain ⟨d, ni, half, ch, m', rest, hn, hdg, hr⟩ := delivered_step hs hdel
    simp only [dequeued, hdel, Option.some_bind, hr.received] at hd
    split at hd
    · subst c
      exact ⟨r, d, ni, ch, hn, hdg, hr.lookup_node, hr.channel, hr.check⟩
    · cases hd

/-- A transition does not both write and read a message. -/
theorem enqueued_eq_none_of_dequeued {t : Transition} {c : Nat} {m : Message} (hd : t.dequeued c = some m)
    (c' : Nat) : t.enqueued c' = none :=
  enqueued_eq_none (fun ho => by simp [dequeued_eq_none (t := t) (by simp [ho]) (by simp [ho])] at hd) c'

end Transition

namespace Runtime

/-- Explicit-flow soundness. In every run from a fresh runtime, a message that node `r`
    reads from channel `c` (the `j`-th call) was written to `c` by an earlier call of
    some node `w`; `w`'s label, downgraded as the write's flag says, flows to `c`'s
    label, `c`'s label, downgraded as the read's flag says, flows to `r`'s label, and so
    the writer's label, downgraded by both, flows to the reader's. -/
theorem explicit_flow (calls : List Call) (ts : List Transition) (s' : Runtime)
    (h : fresh.run calls = some (ts, s')) (c j : Nat) (hj : j < ts.length) (m : Message)
    (hm : ts[j].dequeued c = some m) :
    ∃ i, ∃ (_ : i < j), ts[i].enqueued c = some m ∧
      ∃ (w r : NodeId) (dw dr : Downgrading) (niw nir : NodeInfo) (lc : Label),
        ts[i].call.nodeId = some w ∧ ts[i].call.downgrading = some dw ∧ ts[i].pre.nodeInfos.lookup w = some niw ∧
        ts[j].call.nodeId = some r ∧ ts[j].call.downgrading = some dr ∧ ts[j].pre.nodeInfos.lookup r = some nir ∧
        (ts[i].pre.channels[c]?).map Channel.label = some lc ∧
        (dw.apply niw.privilege niw.label).flowsTo lc ∧ (dr.apply nir.privilege lc).flowsTo nir.label ∧
        (dr.apply nir.privilege (dw.apply niw.privilege niw.label)).flowsTo nir.label := by
  -- the message was written in the run up to the read, by FIFO from an empty queue
  obtain ⟨s₁, h₁⟩ := run_take h (j + 1)
  have hread : m ∈ (ts.take (j + 1)).filterMap (·.dequeued c) :=
    List.mem_filterMap.2 ⟨ts[j], List.mem_take_iff_getElem.2 ⟨j, by omega, rfl⟩, hm⟩
  have hwrite := (dequeued_isPrefix_written h₁ c).subset hread
  rw [fresh_queueOf, List.nil_append, List.mem_filterMap] at hwrite
  obtain ⟨t, ht, he⟩ := hwrite
  obtain ⟨i, hi, rfl⟩ := List.mem_take_iff_getElem.1 ht
  have hij : i < j := by
    rcases Nat.lt_or_eq_of_le (Nat.le_of_lt_succ (lt_of_lt_of_le hi (min_le_left _ _))) with hij | rfl
    · exact hij
    · simp [Transition.enqueued_eq_none_of_dequeued hm c] at he
  refine ⟨i, hij, he, ?_⟩
  -- each end passed its check
  obtain ⟨w, dw, niw, chw, hw, hdw, hniw, hchw, hcw⟩ :=
    Transition.flowsTo_of_enqueued (step_of_mem_run h (List.getElem_mem _)) he
  obtain ⟨r, dr, nir, chr, hr, hdr, hnir, hchr, hcr⟩ :=
    Transition.flowsTo_of_dequeued (step_of_mem_run h (List.getElem_mem _)) hm
  -- and the channel kept its label in between
  have hlabel : chr.label = chw.label := by
    have hmem : ts[j] ∈ ts.drop i := List.mem_drop_iff_getElem.2 ⟨j - i, by omega, by congr 1; omega⟩
    have := label_run (run_drop h i (by omega)) (List.getElem?_eq_some_iff.1 hchw).1 _ hmem
    simpa [hchr, hchw] using this
  refine ⟨w, r, dw, dr, niw, nir, chw.label, hw, hdw, hniw, hr, hdr, hnir, by simp [hchw], hcw,
    hlabel ▸ hcr, ?_⟩
  exact Label.flowsTo_trans (dr.apply_mono nir.privilege hcw) (hlabel ▸ hcr)

/-- The echo run: the message node 0 reads back was written by node 0 itself, and the
    public label flows to itself both ways. -/
theorem explicit_flow_echo :
    ∃ ts s', fresh.run [.channelCreate ⟨0⟩ "echo" Label.publicUntrusted .no [5, 6],
        .channelWrite ⟨0⟩ 5 ⟨[1, 2], []⟩ .no, .channelRead ⟨0⟩ 6 .no []] = some (ts, s') ∧
      ∃ (_ : 2 < ts.length) (m : Message), ts[2].dequeued 0 = some m ∧
      ∃ i, ∃ (_ : i < 2), ts[i].enqueued 0 = some m ∧
        ∃ (w r : NodeId) (dw dr : Downgrading) (niw nir : NodeInfo) (lc : Label),
          ts[i].call.nodeId = some w ∧ ts[i].call.downgrading = some dw ∧ ts[i].pre.nodeInfos.lookup w = some niw ∧
          ts[2].call.nodeId = some r ∧ ts[2].call.downgrading = some dr ∧ ts[2].pre.nodeInfos.lookup r = some nir ∧
          (ts[i].pre.channels[0]?).map Channel.label = some lc ∧
          (dw.apply niw.privilege niw.label).flowsTo lc ∧ (dr.apply nir.privilege lc).flowsTo nir.label ∧
          (dr.apply nir.privilege (dw.apply niw.privilege niw.label)).flowsTo nir.label := by
  refine ⟨_, _, rfl, by decide, _, rfl, ?_⟩
  exact explicit_flow [.channelCreate ⟨0⟩ "echo" Label.publicUntrusted .no [5, 6],
    .channelWrite ⟨0⟩ 5 ⟨[1, 2], []⟩ .no, .channelRead ⟨0⟩ 6 .no []] _ _ rfl 0 2 (by decide) _ rfl

end Runtime

end OakRuntime

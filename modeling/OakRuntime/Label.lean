import Mathlib.Data.List.Basic
import Mathlib.Algebra.Group.Nat.Basic

/-!
# Labels and Privileges

The information-flow lattice the runtime enforces, and the downgrading a node's
privilege allows.

A `Label` is a pair of tag lists, confidentiality and integrity. The runtime never
looks inside a tag; it compares tags for equality and singles out one of them, `top`.
`Label.flowsTo` is the lattice order: data may move from `a` to `b` when `b` is at
least as confidential and at most as trusted. `Label::flows_to` itself lives in the
`oak_abi` crate, outside this repository, so it is modelled from the spec: the
confidentiality tags of the source are a subset of those of the target, and the
integrity tags of the target a subset of those of the source. Lists stand for the
`HashSet`s and `Vec`s of the source; only membership is ever consulted, so order and
repetition are immaterial, which is why `downgradeLabel` may append the endorsed tags
without deduplicating them.

`NodePrivilege.downgradeLabel` is the least restrictive label a node may turn a label
into: it drops the confidentiality tags the node may declassify (all of them when the
node may declassify `top`) and adds the integrity tags it may endorse. Every run-level
information-flow argument about the runtime rests on three facts about it, proved
here: it only ever lowers a label (`downgradeLabel_flowsTo`), it is monotone
(`downgradeLabel_mono`), and applying it twice gains nothing
(`downgradeLabel_twice_flowsTo`).

## Main definitions

* `Tag`: A tag of a label component.
* `Label`: Confidentiality and integrity tags.
* `Label.flowsTo`: The lattice order on labels.
* `NodePrivilege`: The tags a node may declassify and endorse.
* `NodePrivilege.downgradeLabel`: A label lowered as far as a privilege allows.

## Theorems

* `Label.flowsTo_refl`, `Label.flowsTo_trans`: `flowsTo` is a preorder.
* `NodePrivilege.downgradeLabel_flowsTo`: Downgrading only lowers a label.
* `NodePrivilege.downgradeLabel_mono`: Downgrading is monotone.
* `NodePrivilege.downgradeLabel_twice_flowsTo`: Downgrading twice is no lower
  than downgrading once.
* `NodePrivilege.downgradeLabel_interior`: The three together: an interior operator.
-/

namespace OakRuntime

/-- A tag of a label component (`oak_abi::label::Tag`). Tags are opaque to the
    runtime except for the distinguished `top`. -/
inductive Tag where
  | top
  | tag (id : Nat)
  deriving DecidableEq, Repr

/-- `oak_abi::label::Label`. -/
structure Label where
  confidentialityTags : List Tag
  integrityTags : List Tag
  deriving DecidableEq, Repr

namespace Label

/-- `Label::public_untrusted`: no confidentiality and no integrity tags. -/
def publicUntrusted : Label := ⟨[], []⟩

/-- `Label::flows_to`, modelled from the spec (the `oak_abi` crate is not part of
    this repository): `a.C ⊆ b.C` and `b.I ⊆ a.I`. -/
def flowsTo (a b : Label) : Prop :=
  a.confidentialityTags ⊆ b.confidentialityTags ∧ b.integrityTags ⊆ a.integrityTags

instance : DecidableRel flowsTo := fun _ _ => inferInstanceAs (Decidable (_ ∧ _))

theorem flowsTo_trans {a b c : Label} (hab : a.flowsTo b) (hbc : b.flowsTo c) :
    a.flowsTo c :=
  ⟨List.Subset.trans hab.1 hbc.1, List.Subset.trans hbc.2 hab.2⟩

end Label

/-- `NodePrivilege`: the tags a node may remove from the confidentiality component
    and add to the integrity component of a label. -/
structure NodePrivilege where
  canDeclassifyConfidentialityTags : List Tag
  canEndorseIntegrityTags : List Tag
  deriving DecidableEq, Repr

namespace NodePrivilege

/-- `NodePrivilege::default`: no privilege at all. -/
def default : NodePrivilege := ⟨[], []⟩

/-- `NodePrivilege::top_privilege`: may downgrade any label. -/
def topPrivilege : NodePrivilege := ⟨[.top], [.top]⟩

/-- `NodePrivilege::downgrade_label`: drop the declassifiable confidentiality tags
    (all of them under `top`), add the endorsable integrity tags. -/
def downgradeLabel (p : NodePrivilege) (label : Label) : Label where
  confidentialityTags :=
    if Tag.top ∈ p.canDeclassifyConfidentialityTags then []
    else label.confidentialityTags.filter fun t => t ∉ p.canDeclassifyConfidentialityTags
  integrityTags := label.integrityTags ++ p.canEndorseIntegrityTags

theorem downgradeLabel_flowsTo (p : NodePrivilege) (label : Label) :
    (p.downgradeLabel label).flowsTo label := by
  refine ⟨?_, List.subset_append_left _ _⟩
  simp only [downgradeLabel]
  split
  · exact List.nil_subset _
  · exact (List.filter_sublist _).subset

theorem downgradeLabel_mono (p : NodePrivilege) {l₁ l₂ : Label} (h : l₁.flowsTo l₂) :
    (p.downgradeLabel l₁).flowsTo (p.downgradeLabel l₂) := by
  refine ⟨?_, List.append_subset.2
    ⟨List.subset_append_of_subset_left _ h.2, List.subset_append_right _ _⟩⟩
  simp only [downgradeLabel]
  split
  · exact List.Subset.refl _
  · exact List.filter_subset _ h.1

/-- A second downgrade removes nothing the first left and only repeats the endorsed
    tags, so the twice-downgraded label is no lower than the once-downgraded one.
    Together with `downgradeLabel_flowsTo` the two flow to each other. -/
theorem downgradeLabel_twice_flowsTo (p : NodePrivilege) (label : Label) :
    (p.downgradeLabel label).flowsTo (p.downgradeLabel (p.downgradeLabel label)) := by
  constructor
  · simp only [downgradeLabel]
    split
    · exact List.Subset.refl _
    · intro t ht
      simp only [List.mem_filter] at ht ⊢
      exact ⟨ht, ht.2⟩
  · exact List.append_subset.2 ⟨List.Subset.refl _, List.subset_append_right _ _⟩

/-- `downgrade_label` is an interior operator on the `flows_to` preorder: it lowers,
    it is monotone, and it is idempotent up to `flows_to` in both directions. The `top`
    shortcut and the endorsed tags appended twice are both covered, since only
    membership is compared. -/
theorem downgradeLabel_interior (p : NodePrivilege) (label l₁ l₂ : Label) :
    (p.downgradeLabel label).flowsTo label ∧
      (l₁.flowsTo l₂ → (p.downgradeLabel l₁).flowsTo (p.downgradeLabel l₂)) ∧
      (p.downgradeLabel (p.downgradeLabel label)).flowsTo (p.downgradeLabel label) ∧
      (p.downgradeLabel label).flowsTo (p.downgradeLabel (p.downgradeLabel label)) :=
  ⟨p.downgradeLabel_flowsTo label, p.downgradeLabel_mono, p.downgradeLabel_flowsTo _,
    p.downgradeLabel_twice_flowsTo label⟩

end NodePrivilege

end OakRuntime

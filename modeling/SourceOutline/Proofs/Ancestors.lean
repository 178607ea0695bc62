import SourceOutline.Proofs.Lines

/-! The way up from a place. What stands above a place is a chain, and where nodes reach over their
children each link of it has at least the lines of the one before. Two places that are not on one way up
stand side by side. -/
namespace SourceOutline

namespace Place

variable {a b p : Place}

theorem mem_outward : a ∈ p.outward ↔ a = p ∨ a ∈ p.ancestors := List.mem_cons

theorem mem_outward_of_above (above : a ∈ p.ancestors) : a ∈ p.outward := List.mem_cons_of_mem _ above

theorem outward_child (p : Place) (i : Nat) (n : Node) :
    (child p i n).outward = child p i n :: p.outward := rfl

theorem outward_suffix (above : a ∈ p.outward) : a.outward <:+ p.outward := by
  induction p with
  | root n =>
    obtain rfl : a = root n := by simpa [outward, ancestors] using above
    exact List.suffix_rfl
  | child parent i n ih =>
    rw [outward_child] at above ⊢
    rcases List.mem_cons.mp above with rfl | later
    · exact List.suffix_rfl
    · exact (ih later).trans (List.suffix_cons ..)

theorem outward_total (left : a ∈ p.outward) (right : b ∈ p.outward) :
    a ∈ b.outward ∨ b ∈ a.outward := by
  rcases List.suffix_or_suffix_of_suffix (outward_suffix left) (outward_suffix right) with up | up
  · exact .inl (up.subset List.mem_cons_self)
  · exact .inr (up.subset List.mem_cons_self)

/-- The way up, as it is written down, leads on upwards. -/
theorem outward_pairwise (p : Place) : p.outward.Pairwise fun a b => b ∈ a.outward := by
  induction p with
  | root n => exact List.pairwise_singleton ..
  | child parent i n ih =>
    rw [outward_child]
    exact List.pairwise_cons.mpr ⟨fun b above => List.mem_cons_of_mem _ above, ih⟩

theorem depth_lt (above : a ∈ p.ancestors) : a.ancestors.length < p.ancestors.length := by
  cases p with
  | root n => cases above
  | child parent i n => exact Nat.lt_of_succ_le (outward_suffix above).length_le

theorem not_mem_ancestors (p : Place) : p ∉ p.ancestors := fun above => Nat.lt_irrefl _ (depth_lt above)

theorem mem_ancestors_of_ne (above : a ∈ p.outward) (apart : a ≠ p) : a ∈ p.ancestors :=
  (mem_outward.mp above).resolve_left apart

theorem outward_of_ancestors {nearer above : List Place} (split : p.ancestors = nearer ++ a :: above) :
    a :: above = a.outward := by
  induction p generalizing nearer with
  | root n => simp [ancestors] at split
  | child parent i n ih =>
    cases nearer with
    | nil =>
      obtain ⟨rfl, rfl⟩ := List.cons.inj split
      rfl
    | cons b nearer => exact ih (List.cons.inj split).2

theorem address_length (p : Place) : p.address.length = p.ancestors.length := by
  induction p with
  | root n => rfl
  | child parent i n ih => simp [address, ancestors, ih]

theorem eq_of_same (left : a ∈ p.outward) (right : b ∈ p.outward) (same : a.same b = true) : a = b := by
  have depth : a.ancestors.length = b.ancestors.length := by
    rw [← address_length, ← address_length, eq_of_beq same]
  by_contra apart
  rcases outward_total left right with up | up
  · exact absurd (depth_lt (mem_ancestors_of_ne up apart)) (by omega)
  · exact absurd (depth_lt (mem_ancestors_of_ne up (Ne.symm apart))) (by omega)

theorem Within.mem_outward (within : Within a p) : a ∈ p.outward := by
  induction within with
  | here => exact List.mem_cons_self
  | child _ _ ih => exact List.mem_cons_of_mem _ ih

theorem Within.of_mem_outward {top : Node} (within : Within (root top) p) (above : a ∈ p.outward) :
    Within (root top) a ∧ Within a p := by
  induction within with
  | here =>
    obtain rfl : a = root top := by simpa [outward, ancestors] using above
    exact ⟨.here, .here⟩
  | @child q i n inside at_ ih =>
    rw [outward_child] at above
    rcases List.mem_cons.mp above with rfl | later
    · exact ⟨inside.child at_, .here⟩
    · exact ⟨(ih later).1, (ih later).2.child at_⟩

theorem Within.eq_of_address {top : Node} (left : Within (root top) a) (right : Within (root top) b)
    (same : a.address = b.address) : a = b := by
  induction left generalizing b with
  | here =>
    cases right with
    | here => rfl
    | child _ _ => simp [address] at same
  | @child q i n _ at_ ih =>
    cases right with
    | here => simp [address] at same
    | @child r j m above other =>
      obtain ⟨addresses, index⟩ := List.append_inj' same rfl
      obtain rfl := ih above addresses
      obtain rfl : i = j := by simpa using index
      rw [at_] at other
      rw [Option.some.inj other]

theorem Within.mem_ancestors_iff {top : Node} (left : Within (root top) a)
    (right : Within (root top) p) : a ∈ p.ancestors ↔ a.address ∈ p.ancestors.map address := by
  constructor
  · exact List.mem_map_of_mem
  · intro listed
    obtain ⟨b, above, same⟩ := List.mem_map.mp listed
    have inside := (right.of_mem_outward (mem_outward_of_above above)).1
    rwa [left.eq_of_address inside same.symm]

end Place

namespace Node

/-- Every node of the tree reaches over its children. -/
def Enclosing (top : Node) : Prop :=
  ∀ p ∈ (Place.root top).subtree, ∀ n ∈ p.node.children, p.node.range.Covers n.range

/-- In every node of the tree each child ends before the next one starts. -/
def Sequential (top : Node) : Prop :=
  ∀ p ∈ (Place.root top).subtree, p.node.children.Pairwise fun a b => a.range.stop ≤ b.range.start

end Node

namespace Place

variable {a b p : Place} {top : Node}

theorem Within.covers (enclosing : top.Enclosing) (upper : Within (root top) a) (lower : Within a p) :
    a.node.range.Covers p.node.range := by
  induction lower with
  | here => exact .refl _
  | @child q i n above at_ ih =>
    exact ih.trans (enclosing q (mem_subtree.mpr (upper.trans above)) n (List.mem_of_getElem? at_))

/-- Further up there are no fewer lines. -/
theorem span_contains {src : Source} (distinct : src.breaks.Nodup) (enclosing : top.Enclosing)
    (within : Within (root top) p) (filled : p.node.range.Filled) (above : a ∈ p.outward) :
    (src.span a).contains (src.span p) = true := by
  obtain ⟨upper, lower⟩ := within.of_mem_outward above
  exact Source.lineSpan_contains distinct (upper.covers enclosing lower) filled

/-- Of two places one is on the way up from the other, or one ends before the other starts. -/
theorem Within.cases_pair (enclosing : top.Enclosing) (sequential : top.Sequential)
    (left : Within (root top) a) (right : Within (root top) b) :
    a ∈ b.outward ∨ b ∈ a.outward ∨ a.node.range.stop ≤ b.node.range.start ∨
      b.node.range.stop ≤ a.node.range.start := by
  induction left with
  | here => exact .inl right.mem_outward
  | @child q i n above at_ ih =>
    have reach := above.covers enclosing (Within.here.child at_)
    rcases ih with up | down | before | after
    · -- The way down to `b` starts at `q` as well: at the same child, at an earlier or at a later one.
      rcases (right.of_mem_outward up).2.cases_head with rfl | ⟨j, m, other, below⟩
      · exact .inr (.inl (List.mem_cons_of_mem _ List.mem_cons_self))
      · have inside := (above.child other).covers enclosing below
        have apart := List.pairwise_iff_getElem.mp (sequential q (mem_subtree.mpr above))
        obtain ⟨bound, rfl⟩ := List.getElem?_eq_some_iff.mp at_
        obtain ⟨boundToo, rfl⟩ := List.getElem?_eq_some_iff.mp other
        rcases Nat.lt_trichotomy i j with less | rfl | greater
        · exact .inr (.inr (.inl ((apart i j bound boundToo less).trans inside.1)))
        · exact .inl below.mem_outward
        · exact .inr (.inr (.inr (inside.2.trans (apart j i boundToo bound greater))))
    · exact .inr (.inl (List.mem_cons_of_mem _ down))
    · exact .inr (.inr (.inl (reach.2.trans before)))
    · exact .inr (.inr (.inr (after.trans reach.1)))

end Place

end SourceOutline

import Mathlib.Algebra.GroupWithZero.Nat
import SourceOutline.Proofs.Ancestors

/-! The complexity of a place adds up: a walk stops once at each place of the subtree, so a place counts
itself and what its children count, and no place counts less than one below it. -/
namespace SourceOutline

namespace Place

theorem placesBelow_eq (top : Place) (i : Nat) (ns : List Node) :
    Node.placesBelow top i ns = (top.childrenFrom i ns).flatMap subtree := by
  induction ns generalizing i with
  | nil => rfl
  | cons n ns ih =>
    rw [Node.placesBelow, childrenFrom, List.flatMap_cons, ih]
    rfl

theorem subtree_eq_flatMap (p : Place) : p.subtree = p :: p.children.flatMap subtree := by
  rw [subtree_eq_cons, placesBelow_eq]
  rfl

theorem subtree_sublist {p q : Place} (within : Within p q) : q.subtree.Sublist p.subtree := by
  induction within with
  | here => exact List.Sublist.refl _
  | @child q i n _ at_ ih =>
    have member : child q i n ∈ q.children := mem_children.mpr ⟨i, n, at_, rfl⟩
    obtain ⟨before, after, split⟩ := List.append_of_mem member
    refine List.Sublist.trans ?_ ih
    rw [subtree_eq_flatMap q, split, List.flatMap_append, List.flatMap_cons]
    exact ((List.sublist_append_left ..).trans (List.sublist_append_right ..)).cons q

theorem not_within_child (top : Place) (i : Nat) (n : Node) : ¬ Within (child top i n) top := by
  intro within
  have deeper := (outward_suffix within.mem_outward).length_le
  simp only [outward, ancestors, List.length_cons] at deeper
  omega

/-- Two children of one place have nothing below them in common. -/
theorem index_eq_of_within {top p : Place} {i j : Nat} {n m : Node}
    (left : Within (child top i n) p) (right : Within (child top j m) p) : i = j := by
  have level {k l : Nat} {a b : Node} (above : child top k a ∈ (child top l b).outward) : k = l := by
    rcases mem_outward.mp above with same | higher
    · cases same
      rfl
    · exact absurd (depth_lt higher) (Nat.lt_irrefl _)
  rcases outward_total left.mem_outward right.mem_outward with up | up
  · exact level up
  · exact (level up).symm

end Place

namespace Node

open Place

mutual

theorem placesAt_nodup (top : Place) : ∀ n : Node, top.node = n → (n.placesAt top).Nodup
  | ⟨kind, field, range, named, missing, extra, faulty, children⟩, same => by
    rw [placesAt, List.nodup_cons]
    refine ⟨?_, placesBelow_nodup top 0 children⟩
    intro again
    obtain ⟨j, n, _, within⟩ := (mem_placesBelow top top 0 children).mp again
    exact not_within_child top _ n within

theorem placesBelow_nodup (top : Place) (i : Nat) : ∀ ns : List Node, (placesBelow top i ns).Nodup
  | [] => .nil
  | n :: ns => by
    rw [placesBelow, List.nodup_append']
    refine ⟨placesAt_nodup (.child top i n) n rfl, placesBelow_nodup top (i + 1) ns, ?_⟩
    intro p first later
    obtain ⟨j, m, _, within⟩ := (mem_placesBelow top p (i + 1) ns).mp later
    have index := index_eq_of_within ((mem_placesAt _ p n rfl).mp first) within
    omega

end

end Node

namespace Complexity

variable (src : Source) (p : Place)

theorem ofPlace_eq_succ_sum : ofPlace src p - 1 =
    (if isDecision src p.node then 1 else 0) + (p.children.map fun c => ofPlace src c - 1).sum := by
  have below (q : Place) : ofPlace src q - 1 = q.subtree.countP fun r => isDecision src r.node := by
    rw [ofPlace_eq, Cursor.stops_eq_subtree, Nat.add_sub_cancel_left]
  rw [below, Place.subtree_eq_flatMap, List.countP_cons, List.countP_flatMap, Nat.add_comm]
  simp only [below, Function.comp_def]

theorem ofPlace_le {q : Place} (within : Place.Within p q) : ofPlace src q ≤ ofPlace src p := by
  have fewer := (Place.subtree_sublist within).countP_le (p := fun r => isDecision src r.node)
  rw [ofPlace_eq, ofPlace_eq, Cursor.stops_eq_subtree, Cursor.stops_eq_subtree]
  omega

/-- Every walk ends. From a place it stops once at each place of the subtree and nowhere else, whatever it
collects there, and the complexity is one more than the decision points at these stops. It adds up over
the children, and is at least that of every place below. -/
theorem ofPlace_counts_decisions (src : Source) (p : Place) :
    WellFounded (fun d c : Cursor => c.next? = some d) ∧
    (∀ (β : Type) (visit : β → Place → β) (seen : β),
      (Cursor.start p).walk visit seen = (Cursor.stops p).foldl visit seen) ∧
    (Cursor.stops p).Nodup ∧ (∀ q, q ∈ Cursor.stops p ↔ p.Within q) ∧
    ofPlace src p = 1 + (Cursor.stops p).countP (fun q => isDecision src q.node) ∧
    ofPlace src p - 1 =
      (if isDecision src p.node then 1 else 0) + (p.children.map fun c => ofPlace src c - 1).sum ∧
    ∀ q, p.Within q → ofPlace src q ≤ ofPlace src p := by
  refine ⟨Cursor.next?_wellFounded, ?_, ?_, ?_, ofPlace_eq src p, ofPlace_eq_succ_sum src p, ?_⟩
  · intro β visit seen
    rw [Cursor.walk_eq_foldl, Cursor.ahead_start, Cursor.stops_eq_subtree]
  · rw [Cursor.stops_eq_subtree]
    exact Node.placesAt_nodup p p.node rfl
  · intro q
    rw [Cursor.stops_eq_subtree]
    exact Place.mem_subtree
  · exact fun q within => ofPlace_le src p within

end Complexity

end SourceOutline

import SourceOutline.Tree

/-! A walk over a subtree, move by move. A cursor knows how far below its start it is, and does not leave
it: from the start there is no way to a sibling or up. -/
namespace SourceOutline

theorem Place.subtree_eq_cons (p : Place) :
    p.subtree = p :: Node.placesBelow p 0 p.node.children := by
  rw [subtree]
  cases p.node
  rfl

structure Cursor where
  place : Place
  /-- The number of levels from the start down to the place. -/
  depth : Nat

namespace Cursor

def start (p : Place) : Cursor := ⟨p, 0⟩

def firstChild? (c : Cursor) : Option Cursor :=
  match c.place.node.children with
  | [] => none
  | n :: _ => some ⟨.child c.place 0 n, c.depth + 1⟩

def nextSibling? : Cursor → Option Cursor
  | ⟨.child p i _, depth + 1⟩ => p.node.children[i + 1]?.map (⟨.child p (i + 1) ·, depth + 1⟩)
  | _ => none

def parent? : Cursor → Option Cursor
  | ⟨.child p _ _, depth + 1⟩ => some ⟨p, depth⟩
  | _ => none

theorem parent?_depth {c up : Cursor} (above : c.parent? = some up) : up.depth < c.depth := by
  unfold parent? at above
  split at above
  · obtain rfl := Option.some.inj above
    exact Nat.lt_succ_self _
  · contradiction

/-- Up as often as it takes to find a next sibling, and on to that. -/
def climb? (c : Cursor) : Option Cursor :=
  match _above : c.parent? with
  | none => none
  | some up => up.nextSibling? <|> up.climb?
termination_by c.depth
decreasing_by exact parent?_depth _above

theorem climb?_of_none {c : Cursor} (top : c.parent? = none) : c.climb? = none := by
  rw [climb?]
  split
  · rfl
  · rename_i up above
    rw [top] at above
    contradiction

theorem climb?_of_some {c up : Cursor} (above : c.parent? = some up) :
    c.climb? = (up.nextSibling? <|> up.climb?) := by
  rw [climb?]
  split
  · rename_i top
    rw [above] at top
    contradiction
  · rename_i other same
    rw [above] at same
    rw [Option.some.inj same]

def next? (c : Cursor) : Option Cursor := c.firstChild? <|> c.nextSibling? <|> c.climb?

def after : Nat → Place → List Place
  | depth + 1, .child p i _ =>
    Node.placesBelow p (i + 1) (p.node.children.drop (i + 1)) ++ after depth p
  | _, _ => []

/-- The places from the cursor on. -/
def ahead (c : Cursor) : List Place := c.place.subtree ++ after c.depth c.place

theorem after_eq (depth : Nat) (place : Place) :
    after depth place =
      ((nextSibling? ⟨place, depth⟩ <|> climb? ⟨place, depth⟩).map ahead).getD [] := by
  induction depth generalizing place with
  | zero =>
    rw [climb?_of_none (by simp [parent?])]
    simp [after, nextSibling?]
  | succ depth ih =>
    cases place with
    | root n =>
      rw [climb?_of_none rfl]
      rfl
    | child p i n =>
      have up : parent? ⟨.child p i n, depth + 1⟩ = some ⟨p, depth⟩ := rfl
      rw [after, nextSibling?, climb?_of_some up]
      cases sibling : p.node.children[i + 1]? with
      | none =>
        rw [List.drop_eq_nil_of_le (List.getElem?_eq_none_iff.mp sibling), Node.placesBelow,
          List.nil_append]
        exact ih p
      | some m =>
        obtain ⟨bound, rfl⟩ := List.getElem?_eq_some_iff.mp sibling
        rw [List.drop_eq_getElem_cons bound, Node.placesBelow]
        exact List.append_assoc ..

theorem ahead_eq (c : Cursor) : c.ahead = c.place :: (c.next?.map ahead).getD [] := by
  rw [ahead, Place.subtree_eq_cons, next?, firstChild?, List.cons_append]
  split
  · rename_i leaf
    rw [leaf, Node.placesBelow, after_eq]
    rfl
  · rename_i n others inner
    rw [inner, Node.placesBelow]
    change _ = c.place :: ahead ⟨.child c.place 0 n, c.depth + 1⟩
    rw [ahead, after, inner, List.append_assoc]
    rfl

theorem ahead_next {c d : Cursor} (next : c.next? = some d) : d.ahead.length < c.ahead.length := by
  rw [ahead_eq c, next]
  exact Nat.lt_succ_self _

/-- Stops at every place of the walk, and hands what it has seen from stop to stop. -/
def walk (visit : β → Place → β) (seen : β) (c : Cursor) : β :=
  match _next : c.next? with
  | some d => walk visit (visit seen c.place) d
  | none => visit seen c.place
termination_by c.ahead.length
decreasing_by exact ahead_next _next

end Cursor

end SourceOutline

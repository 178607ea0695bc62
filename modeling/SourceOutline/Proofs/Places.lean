import SourceOutline.Query

/-! Where matches lie: a place is below another if children lead down to it, the places of a subtree are
those below its top, and a match captures nothing outside the subtree that was searched. -/
namespace SourceOutline

namespace Place

/-- The place is `top`, or children lead down from `top` to it. -/
inductive Within (top : Place) : Place → Prop where
  | here : Within top top
  | child {p : Place} {i : Nat} {n : Node} (above : Within top p)
      (at_ : p.node.children[i]? = some n) : Within top (.child p i n)

theorem Within.trans {a b c : Place} (upper : Within a b) (lower : Within b c) : Within a c := by
  induction lower with
  | here => exact upper
  | child _ at_ ih => exact ih.child at_

theorem Within.cases_head {top p : Place} (within : Within top p) :
    p = top ∨ ∃ i n, top.node.children[i]? = some n ∧ Within (.child top i n) p := by
  induction within with
  | here => exact .inl rfl
  | @child q i n _ at_ ih =>
    rcases ih with rfl | ⟨j, m, first, rest⟩
    · exact .inr ⟨i, n, at_, .here⟩
    · exact .inr ⟨j, m, first, rest.child at_⟩

theorem mem_childrenFrom {top p : Place} {i : Nat} {ns : List Node} :
    p ∈ top.childrenFrom i ns ↔ ∃ j n, ns[j]? = some n ∧ p = .child top (i + j) n := by
  induction ns generalizing i with
  | nil => simp [childrenFrom]
  | cons n ns ih =>
    rw [childrenFrom, List.mem_cons, ih]
    constructor
    · rintro (rfl | ⟨j, m, at_, rfl⟩)
      · exact ⟨0, n, rfl, rfl⟩
      · exact ⟨j + 1, m, at_, by rw [Nat.add_right_comm, Nat.add_assoc]⟩
    · rintro ⟨j, m, at_, rfl⟩
      cases j with
      | zero =>
        cases at_
        exact .inl rfl
      | succ j => exact .inr ⟨j, m, at_, by rw [Nat.add_right_comm, Nat.add_assoc]⟩

theorem mem_children {top p : Place} :
    p ∈ top.children ↔ ∃ i n, top.node.children[i]? = some n ∧ p = .child top i n := by
  simp [children, mem_childrenFrom]

end Place

namespace Node

open Place

mutual

theorem mem_placesAt (top p : Place) :
    ∀ n : Node, top.node = n → (p ∈ n.placesAt top ↔ Within top p)
  | ⟨kind, field, range, named, missing, extra, faulty, children⟩, same => by
    rw [placesAt, List.mem_cons, mem_placesBelow top p 0 children]
    simp only [Nat.zero_add]
    constructor
    · rintro (rfl | ⟨j, n, at_, below⟩)
      · exact .here
      · exact (Within.here.child (by rw [same]; exact at_)).trans below
    · intro within
      rcases within.cases_head with rfl | ⟨j, n, at_, below⟩
      · exact .inl rfl
      · rw [same] at at_
        exact .inr ⟨j, n, at_, below⟩

theorem mem_placesBelow (top p : Place) (i : Nat) :
    ∀ ns : List Node, p ∈ placesBelow top i ns ↔
      ∃ j n, ns[j]? = some n ∧ Within (.child top (i + j) n) p
  | [] => by simp [placesBelow]
  | n :: ns => by
    rw [placesBelow, List.mem_append, mem_placesAt (.child top i n) p n rfl,
      mem_placesBelow top p (i + 1) ns]
    constructor
    · rintro (first | ⟨j, m, at_, later⟩)
      · exact ⟨0, n, rfl, first⟩
      · exact ⟨j + 1, m, at_, by rwa [← Nat.add_assoc, Nat.add_right_comm]⟩
    · rintro ⟨j, m, at_, below⟩
      cases j with
      | zero =>
        cases at_
        exact .inl below
      | succ j => exact .inr ⟨j, m, at_, by rwa [Nat.add_right_comm, Nat.add_assoc]⟩

end

end Node

theorem Place.mem_subtree {top p : Place} : p ∈ top.subtree ↔ Place.Within top p :=
  Node.mem_placesAt top p top.node rfl

namespace Pattern

open Place

/-- A way to bind a part to one of the places that may fill its field, and what follows it to later
ones. -/
def Binds (field : Option String) (try_ : Place → List Match) (rest : List Place → List Match)
    (places : List Place) (m : Match) : Prop :=
  ∃ p later, p :: later <:+ places ∧ (field.isNone || p.node.field == field) = true ∧
    ∃ a ∈ try_ p, ∃ b ∈ rest later, a ++ b = m

variable {field : Option String} {try_ : Place → List Match} {rest : List Place → List Match}
  {p : Place} {places : List Place} {m : Match}

theorem Binds.cons (binds : Binds field try_ rest places m) :
    Binds field try_ rest (p :: places) m := by
  obtain ⟨q, later, suffix, found⟩ := binds
  exact ⟨q, later, suffix.trans (List.suffix_cons ..), found⟩

theorem binds_first {here : List Match}
    (tried : (if field.isNone || p.node.field == field then try_ p else []) = here)
    (way : m ∈ here.flatMap fun a => (rest places).map (a ++ ·)) :
    Binds field try_ rest (p :: places) m := by
  subst tried
  split at way
  · rename_i fills
    simp only [List.mem_flatMap, List.mem_map] at way
    exact ⟨p, places, List.suffix_rfl, fills, way⟩
  · cases way

theorem binds_of_mem_bindEach (bound : m ∈ bindEach field try_ rest places) :
    Binds field try_ rest places m := by
  induction places with
  | nil => cases bound
  | cons p places ih =>
    simp only [bindEach] at bound
    generalize tried : (if field.isNone || p.node.field == field then try_ p else []) = here at bound
    split at bound
    · exact binds_first tried bound
    · rcases List.mem_append.mp bound with first | later
      · exact binds_first tried first
      · exact (ih later).cons

theorem binds_of_mem_bindFirst (bound : m ∈ bindFirst field try_ rest places) :
    Binds field try_ rest places m := by
  induction places with
  | nil => cases bound
  | cons p places ih =>
    simp only [bindFirst] at bound
    generalize tried : (if field.isNone || p.node.field == field then try_ p else []) = here at bound
    split at bound
    · exact binds_first tried bound
    · split at bound
      · cases bound
      · exact (ih bound).cons

theorem Binds.within {try_ : Place → List Match} {rest : List Place → List Match}
    (binds : Binds field try_ rest places m)
    (first : ∀ p, ∀ a ∈ try_ p, ∀ c ∈ a, Within p c.place)
    (others : ∀ later, ∀ b ∈ rest later, ∀ c ∈ b, ∃ q ∈ later, Within q c.place) :
    ∀ c ∈ m, ∃ q ∈ places, Within q c.place := by
  obtain ⟨p, later, suffix, _, a, tried, b, followed, rfl⟩ := binds
  intro c captured
  rcases List.mem_append.mp captured with here | after
  · exact ⟨p, suffix.subset List.mem_cons_self, first p a tried c here⟩
  · obtain ⟨q, member, within⟩ := others later b followed c after
    exact ⟨q, suffix.subset (List.mem_cons_of_mem _ member), within⟩

/-- A match of parts binds the first one, or leaves it out if it is optional. -/
theorem matchParts_cases {optional : Bool} {pattern : Pattern} {parts : List ChildPattern}
    (found : m ∈ matchParts (.part field optional pattern :: parts) places) :
    (optional = true ∧ m ∈ matchParts parts places) ∨
      Binds field (matchAt [] pattern) (matchParts parts) places m := by
  simp only [matchParts] at found
  split at found
  · rename_i optional
    split at found
    · exact .inl ⟨optional, found⟩
    · exact .inr (binds_of_mem_bindFirst found)
  · exact .inr (binds_of_mem_bindEach found)

mutual

theorem matchAt_within : ∀ (pattern : Pattern) (outer : List String) (p : Place),
    ∀ m ∈ matchAt outer pattern p, ∀ c ∈ m, Within p c.place
  | node test captures parts, outer, p, m, found, c, captured => by
    simp only [matchAt] at found
    split at found
    · obtain ⟨below, inside, rfl⟩ := List.mem_map.mp found
      rcases List.mem_append.mp captured with own | part
      · obtain ⟨_, _, rfl⟩ := List.mem_map.mp own
        exact .here
      · obtain ⟨q, child, within⟩ := matchParts_within parts p.children below inside c part
        obtain ⟨i, n, at_, rfl⟩ := mem_children.mp child
        exact (Within.here.child at_).trans within
    · cases found
  | oneOf captures alternatives, outer, p, m, found, c, captured =>
    matchAny_within alternatives (captures ++ outer) p m found c captured

theorem matchAny_within : ∀ (alternatives : List Pattern) (outer : List String) (p : Place),
    ∀ m ∈ matchAny outer alternatives p, ∀ c ∈ m, Within p c.place
  | [], _, _, _, found, _, _ => by cases found
  | a :: as, outer, p, m, found, c, captured => by
    rcases List.mem_append.mp found with first | other
    · exact matchAt_within a outer p m first c captured
    · exact matchAny_within as outer p m other c captured

theorem matchParts_within : ∀ (parts : List ChildPattern) (places : List Place),
    ∀ m ∈ matchParts parts places, ∀ c ∈ m, ∃ q ∈ places, Within q c.place
  | [], _, m, found, c, captured => by
    rw [matchParts, List.mem_singleton] at found
    subst found
    cases captured
  | .part field optional pattern :: parts, places, m, found, c, captured => by
    have first : ∀ p, ∀ a ∈ matchAt [] pattern p, ∀ c ∈ a, Within p c.place :=
      matchAt_within pattern []
    have others : ∀ later, ∀ b ∈ matchParts parts later, ∀ c ∈ b, ∃ q ∈ later, Within q c.place :=
      matchParts_within parts
    simp only [matchParts] at found
    split at found
    · split at found
      · exact matchParts_within parts places m found c captured
      · exact (binds_of_mem_bindFirst found).within first others c captured
    · exact (binds_of_mem_bindEach found).within first others c captured

end

end Pattern

theorem Query.exists_of_mem_run {q : Query} {top : Place} {m : Match} (found : m ∈ q.run top) :
    ∃ p, Place.Within top p ∧ ∃ pattern ∈ q.patterns, m ∈ pattern.matchAt [] p := by
  simp only [run, List.mem_map, List.mem_mergeSort, List.mem_flatMap, matchesAt] at found
  obtain ⟨_, ⟨_, ⟨p, inside, pattern, among, here⟩, rfl⟩, rfl⟩ := found
  exact ⟨p, Place.mem_subtree.mp inside, pattern, among, here⟩

/-- A query captures only places of the subtree that it searches. -/
theorem Query.run_within {q : Query} {top : Place} {m : Match} (found : m ∈ q.run top) :
    ∀ c ∈ m, Place.Within top c.place := by
  obtain ⟨p, inside, pattern, _, here⟩ := exists_of_mem_run found
  intro c captured
  exact inside.trans (pattern.matchAt_within [] p m here c captured)

/-- Matches that are found in order stay in it. -/
theorem Query.run_of_sorted {q : Query} {top : Place}
    (sorted : (top.subtree.flatMap q.matchesAt).Pairwise fun a b =>
      Place.addressLe (lastAddress a) (lastAddress b) = true) :
    q.run top = top.subtree.flatMap q.matchesAt := by
  rw [run, List.mergeSort_of_pairwise (by rw [List.pairwise_map]; exact sorted), List.map_map]
  exact List.map_id _

end SourceOutline

import SourceOutline.Proofs.Forest

/-! Forests of lists with any links at all: repeated ids, links that lead nowhere, a child below two
parents, circles. The walk ends, shows no id twice, and leaves out only what no root leads to: an id that
is passed over has been shown before, and its children are shown where it was. -/
namespace SourceOutline.Forest

open Branch

section

variable {defs ds : List Definition} {shown after others : List Nat} {bs cs : List Branch}

theorem Walk.unique (first : Walk defs shown ds bs after) (second : Walk defs shown ds cs others) :
    bs = cs ∧ after = others := by
  induction first generalizing cs others with
  | done =>
    cases second with
    | done => exact ⟨rfl, rfl⟩
  | skip marked _ ih =>
    cases second with
    | skip _ rest => exact ih rest
    | visit fresh _ _ => exact absurd marked fresh
  | visit fresh _ _ ihBelow ihRest =>
    cases second with
    | skip marked _ => exact absurd marked fresh
    | visit _ below rest =>
      obtain ⟨rfl, rfl⟩ := ihBelow below
      obtain ⟨rfl, rfl⟩ := ihRest rest
      exact ⟨rfl, rfl⟩

end

/-- The ids that are reached through children in the list, from definitions whose parent is not there. -/
inductive Reachable (defs : List Definition) : Nat → Prop where
  | root {d : Definition} (member : d ∈ defs)
      (free : ∀ p, d.parent = some p → ∀ e ∈ defs, e.id ≠ p) : Reachable defs d.id
  | child {d e : Definition} (holder : d ∈ defs) (reached : Reachable defs d.id) (member : e ∈ defs)
      (listed : e.id ∈ d.children) : Reachable defs e.id

variable {defs : List Definition}

theorem isRoot_iff {d : Definition} :
    isRoot defs d = true ↔ ∀ p, d.parent = some p → ∀ e ∈ defs, e.id ≠ p := by
  unfold isRoot
  cases d.parent with
  | none => simp
  | some p => simp [lastWithId?_eq_none_iff]

theorem reachable_of_walk {shown after : List Nat} {ds : List Definition} {bs : List Branch}
    (walk : Walk defs shown ds bs after) (inside : ds ⊆ defs) (starts : ∀ d ∈ ds, Reachable defs d.id) :
    ∀ id ∈ shownIds bs, Reachable defs id := by
  -- Whatever the links, a shown definition is reachable: it is a root or hangs below a shown one.
  induction walk with
  | done => simp [shownIds, preorderAll]
  | skip _ _ ih =>
    exact ih (fun d later => inside (List.mem_cons_of_mem _ later))
      fun d later => starts d (List.mem_cons_of_mem _ later)
  | @visit _ _ _ d ds bs cs _ _ _ ihBelow ihRest =>
    have holder := inside List.mem_cons_self
    have reached := starts d List.mem_cons_self
    have children : ∀ c ∈ childrenOf defs d, Reachable defs c.id := by
      intro c named
      obtain ⟨id, listed, found⟩ := mem_childrenOf.mp named
      obtain ⟨member, rfl⟩ := lastWithId?_some found
      exact .child holder reached member listed
    have below := ihBelow (childrenOf_subset defs d) children
    have rest := ihRest (fun d later => inside (List.mem_cons_of_mem _ later))
      fun d later => starts d (List.mem_cons_of_mem _ later)
    intro id listed
    rw [shownIds, preorderAll, preorder_eq, List.cons_append, List.map_cons, List.map_append] at listed
    rcases List.mem_cons.mp listed with rfl | listed
    · exact reached
    · rcases List.mem_append.mp listed with inBranch | later
      · exact below id inBranch
      · exact rest id later

theorem reachable_of_shown {id : Nat} (listed : id ∈ shownIds (build defs)) : Reachable defs id := by
  obtain ⟨after, walk⟩ := build_walk defs
  refine reachable_of_walk walk (List.filter_subset_self _) ?_ id listed
  intro d root
  obtain ⟨member, free⟩ := List.mem_filter.mp root
  exact .root member (isRoot_iff.mp free)

/-- Where ids are distinct, nothing that a root leads to is left out. -/
theorem shown_of_reachable (distinct : (defs.map (·.id)).Nodup) {id : Nat}
    (reachable : Reachable defs id) : id ∈ shownIds (build defs) := by
  have grown := build_grown defs
  induction reachable with
  | root member free => exact grown.reached _ (List.mem_filter.mpr ⟨member, isRoot_iff.mpr free⟩)
  | @child d e holder _ member listed ih =>
    obtain ⟨b, inside, same⟩ := List.mem_map.mp ih
    obtain rfl := List.inj_on_of_nodup_map distinct (definition_mem inside) holder same
    have stands := (lastWithId?_eq_some_iff distinct).mpr ⟨member, rfl⟩
    exact grown.closed b inside e (mem_childrenOf.mpr ⟨e.id, listed, stands⟩)

/-- The walk from the roots ends, in one way; its forest shows no id in two views, at any level of
detail; and where ids are distinct the shown ids are those that a root leads to. -/
theorem build_shows_reachable (defs : List Definition) :
    (∃ after, ∀ bs marks,
      Walk defs [] (defs.filter (isRoot defs)) bs marks ↔ bs = build defs ∧ marks = after) ∧
    (∀ detail, View.preorderAll (View.forest detail defs) =
      (preorderAll (build defs)).map (View.ofBranch detail)) ∧
    (shownIds (build defs)).Nodup ∧
    ((defs.map (·.id)).Nodup → ∀ id, id ∈ shownIds (build defs) ↔ Reachable defs id) := by
  obtain ⟨after, walk⟩ := build_walk defs
  refine ⟨⟨after, fun bs marks => ⟨fun other => other.unique walk, ?_⟩⟩, ?_, shownIds_nodup defs, ?_⟩
  · rintro ⟨rfl, rfl⟩
    exact walk
  · exact fun detail => View.preorderAll_ofBranches detail (build defs)
  · exact fun distinct id => ⟨reachable_of_shown, shown_of_reachable distinct⟩

/-- A class lists a method twice, itself and a definition that is not there, and the method lists the class;
two functions are each other's parent. The class and the method are shown, the functions are not. -/
theorem build_shows_reachable_circles :
    let outer := { Definition.ofSpan 1 .classDef "outer" ⟨1, 9⟩ with
      parent := some 7, children := [2, 1, 2, 8] }
    let inner := { Definition.ofSpan 2 .method "inner" ⟨2, 5⟩ with parent := some 1, children := [1] }
    let left := { Definition.ofSpan 3 .function "left" ⟨11, 12⟩ with parent := some 4, children := [4] }
    let right := { Definition.ofSpan 4 .function "right" ⟨13, 14⟩ with parent := some 3, children := [3] }
    let defs := [outer, inner, left, right]
    (defs.map (·.id)).Nodup ∧ 1 ∈ shownIds (build defs) ∧ 2 ∈ shownIds (build defs) ∧
    3 ∉ shownIds (build defs) ∧ 4 ∉ shownIds (build defs) := by
  intro outer inner left right defs
  have distinct : (defs.map (·.id)).Nodup := by decide
  have shown := (build_shows_reachable defs).2.2.2 distinct
  have first : Reachable defs 1 := .root (d := outer) (by decide) (by decide)
  have second : Reachable defs 2 :=
    .child (d := outer) (e := inner) (by decide) first (by decide) (by decide)
  have only : ∀ id, Reachable defs id → id = 1 ∨ id = 2 := by
    intro id reachable
    induction reachable with
    | root member free =>
      have roots : ∀ d ∈ defs, isRoot defs d = true → d.id = 1 ∨ d.id = 2 := by decide
      exact roots _ member (isRoot_iff.mpr free)
    | child holder _ member listed ih =>
      have closed : ∀ d ∈ defs, d.id = 1 ∨ d.id = 2 → ∀ e ∈ defs, e.id ∈ d.children →
          e.id = 1 ∨ e.id = 2 := by decide
      exact closed _ holder ih _ member listed
  refine ⟨distinct, (shown 1).mpr first, (shown 2).mpr second, ?_, ?_⟩
  · exact fun listed => absurd (only 3 ((shown 3).mp listed)) (by decide)
  · exact fun listed => absurd (only 4 ((shown 4).mp listed)) (by decide)

end SourceOutline.Forest

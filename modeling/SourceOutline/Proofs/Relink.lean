import SourceOutline.Proofs.InPlace

/-! Linking only adds links, and adds them once. A definition that found no parent finds none the second
time either: the links that have come in between are not what a search looks at. -/
namespace SourceOutline

/-- `e` is `d` with more links: a parent that was there is still there, and new children come last. -/
structure Extends (d e : Definition) : Prop where
  unlinked : e = { d with parent := e.parent, children := e.children }
  parent : ∀ id, d.parent = some id → e.parent = some id
  children : d.children <+: e.children

namespace Hierarchy

variable {nav : Navigator} {defs : List Definition} {ls : List (Entry × Entry)} {e x : Entry}

theorem applyLinks_extends (ls : List (Entry × Entry)) (e : Entry) : Extends e.1 (applyLinks ls e) where
  unlinked := rfl
  parent id old := by simp [applyLinks, old]
  children := List.prefix_append _ _

theorem build_extends (nav : Navigator) (defs : List Definition) :
    List.Forall₂ Extends defs (build nav defs) := by
  have each : List.Forall₂ Extends (defs.zipIdx.map (·.1)) (build nav defs) := by
    rw [build, List.forall₂_map_left_iff, List.forall₂_map_right_iff, List.forall₂_same]
    exact fun e _ => applyLinks_extends _ e
  rwa [List.zipIdx_map_fst] at each

theorem exists_entry (member : x ∈ (build nav defs).zipIdx) :
    ∃ e ∈ defs.zipIdx, x = (applyLinks (links nav defs) e, e.2) := by
  rw [List.mem_zipIdx_iff_getElem?, build, List.getElem?_map, List.getElem?_zipIdx] at member
  simp only [Option.map_map, Option.map_eq_some_iff, Function.comp_apply, Nat.zero_add] at member
  obtain ⟨d, at_, same⟩ := member
  exact ⟨(d, x.2), List.mem_zipIdx_iff_getElem?.mpr at_, Prod.ext same.symm rfl⟩

theorem parentOf?_build (locates : nav.Locates)
    (none : parentOf? nav (defs.zipIdx.filter (·.1.kind.container)) e = none) :
    parentOf? nav ((build nav defs).zipIdx.filter (·.1.kind.container))
      (applyLinks (links nav defs) e, e.2) = Option.none := by
  have around : nav (applyLinks (links nav defs) e) = nav e.1 := locates _ _ rfl rfl
  rw [parentOf?, List.findSome?_eq_none_iff] at none ⊢
  intro span listed
  rw [around] at listed
  have nowhere := List.find?_eq_none.mp (none span listed)
  rw [holderOn?, List.find?_eq_none]
  intro c member
  obtain ⟨entry, container⟩ := List.mem_filter.mp member
  obtain ⟨old, origin, rfl⟩ := exists_entry entry
  exact nowhere old (List.mem_filter.mpr ⟨origin, container⟩)

theorem newParent?_build (locates : nav.Locates) (member : x ∈ (build nav defs).zipIdx) :
    newParent? nav (build nav defs) x = none := by
  obtain ⟨e, entry, rfl⟩ := exists_entry member
  rw [newParent?]
  split
  · rename_i free
    have parent := free.2
    rw [applyLinks_parent nav entry] at parent
    cases old : e.1.parent with
    | some id => simp [old] at parent
    | none =>
      have search : newParent? nav defs e = none := by simpa [old] using parent
      rw [newParent?, if_pos ⟨free.1, old⟩] at search
      exact parentOf?_build locates search
  · rfl

theorem build_build (locates : nav.Locates) (defs : List Definition) :
    build nav (build nav defs) = build nav defs := by
  have none : links nav (build nav defs) = [] := by
    rw [List.eq_nil_iff_forall_not_mem]
    intro l linked
    obtain ⟨member, found⟩ := mem_links.mp linked
    rw [newParent?_build locates member] at found
    contradiction
  conv_lhs => rw [build, none]
  exact linked_nil _

theorem newChildren_ordered (nav : Navigator) (distinct : (defs.map (·.id)).Nodup) (e : Entry) :
    ∃ cs : List Definition, (∀ c ∈ cs, c ∈ build nav defs) ∧ newChildren nav defs e = cs.map (·.id) ∧
      cs.Pairwise fun a b => a.nestingKey.lt b.nestingKey = true := by
  let into := (links nav defs).filter fun l => l.2.2 == e.2
  have sources : into.Pairwise fun l m => l.1.1.nestingKey.lt m.1.1.nestingKey = true := by
    have sorted := (links_sorted nav defs).and (List.pairwise_map.mp (links_sources_nodup nav defs))
    refine (sorted.sublist List.filter_sublist).imp_of_mem ?_
    intro l m left right ⟨le, apart⟩
    refine NestingKey.lt_of_le_of_ne_tie le ?_
    intro same
    exact apart (entry_ext_of_id distinct (mem_links.mp (List.mem_of_mem_filter left)).1
      (mem_links.mp (List.mem_of_mem_filter right)).1 same)
  refine ⟨into.map fun l => applyLinks (links nav defs) l.1, ?_, ?_, ?_⟩
  · intro c member
    obtain ⟨l, listed, rfl⟩ := List.mem_map.mp member
    exact mem_build.mpr ⟨l.1, (mem_links.mp (List.mem_of_mem_filter listed)).1, rfl⟩
  · rw [List.map_map]
    rfl
  · rw [List.pairwise_map]
    exact sources

/-- Linking in place and linking at once come to the same. A second time changes nothing, and the first
adds links only; if there were none and ids are distinct, children are in strict nesting order. -/
theorem build_adds_links_once (nav : Navigator) (locates : nav.Locates) (defs : List Definition) :
    buildInPlace nav defs = build nav defs ∧
    build nav (build nav defs) = build nav defs ∧
    List.Forall₂ Extends defs (build nav defs) ∧
    ((defs.map (·.id)).Nodup → (∀ d ∈ defs, d.parent = none ∧ d.children = []) →
      ∀ p ∈ build nav defs, ∃ cs : List Definition, (∀ c ∈ cs, c ∈ build nav defs) ∧
        p.children = cs.map (·.id) ∧ cs.Pairwise fun a b => a.nestingKey.lt b.nestingKey = true) := by
  refine ⟨buildInPlace_eq_build locates defs, build_build locates defs, build_extends nav defs, ?_⟩
  intro distinct unlinked p member
  obtain ⟨e, entry, rfl⟩ := mem_build.mp member
  have bare := (unlinked e.1 (List.fst_mem_of_mem_zipIdx entry)).2
  rw [applyLinks_children, bare, List.nil_append]
  exact newChildren_ordered nav distinct e

/-- A list with the innermost definition first, and nodes that are found by the lines of a definition. -/
theorem build_adds_links_once_unsorted :
    let defs := [Definition.ofSpan 4 .method "inner" ⟨3, 5⟩, Definition.metadata 5 "note",
      Definition.ofSpan 3 .function "beside" ⟨12, 15⟩, Definition.ofSpan 2 .classDef "middle" ⟨2, 10⟩,
      Definition.ofSpan 1 .namespaceDef "outer" ⟨1, 20⟩]
    let nav : Navigator := fun d => [d.span, ⟨2, 10⟩, ⟨1, 20⟩]
    nav.Locates ∧ (defs.map (·.id)).Nodup ∧ (∀ d ∈ defs, d.parent = none ∧ d.children = []) ∧
    build nav (build nav defs) = build nav defs ∧
    ∀ p ∈ build nav defs, ∃ cs : List Definition, (∀ c ∈ cs, c ∈ build nav defs) ∧
      p.children = cs.map (·.id) ∧ cs.Pairwise fun a b => a.nestingKey.lt b.nestingKey = true := by
  intro defs nav
  have locates : nav.Locates := by
    intro d e _ lines
    simp only [nav, lines]
  have distinct : (defs.map (·.id)).Nodup := by decide
  have unlinked : ∀ d ∈ defs, d.parent = none ∧ d.children = [] := by decide
  obtain ⟨_, again, _, ordered⟩ := build_adds_links_once nav locates defs
  exact ⟨locates, distinct, unlinked, again, ordered distinct unlinked⟩

end Hierarchy

end SourceOutline

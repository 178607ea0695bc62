import Mathlib.Data.List.Forall2
import SourceOutline.Proofs.Lineage

/-! A stricter filter leaves less: of the definitions, of their parents and of their children. Excluding a
name takes definitions away and cuts climbs short, but it brings back nothing that a looser filter drops. -/
namespace SourceOutline

/-- `d` is `e`, but for links that it lacks. -/
structure FewerLinks (d e : Definition) : Prop where
  unlink : d.unlink = e.unlink
  parent : ∀ p, d.parent = some p → e.parent = some p
  children : d.children.Sublist e.children

theorem FewerLinks.refl (d : Definition) : FewerLinks d d :=
  ⟨rfl, fun _ parent => parent, List.Sublist.refl _⟩

namespace Filter

variable {f g : Filter} {defs cands : List Definition} {kept more : List Nat}

theorem Keepable.mono (excludes : ∀ d ∈ cands, g.excludesName d.name = true → f.excludesName d.name = true)
    {id : Nat} (keepable : Keepable f cands id) : Keepable g cands id := by
  obtain ⟨d, found, named⟩ := keepable
  refine ⟨d, found, ?_⟩
  by_contra excluded
  have also := excludes d (lastWithId?_some found).1 (by simpa using excluded)
  rw [named] at also
  contradiction

/-- A reason to stay under the stricter filter is one under the looser: each climb goes at least as far. -/
theorem Survives.mono (accepts : ∀ d ∈ cands, f.accepts d = true → g.accepts d = true)
    (excludes : ∀ d ∈ cands, g.excludesName d.name = true → f.excludesName d.name = true) {id : Nat}
    (survives : Survives f cands id) : Survives g cands id := by
  induction survives with
  | accepted member accepted => exact .accepted member (accepts _ member accepted)
  | parent _ pulls ih => exact ih.parent ⟨pulls.1, pulls.2.mono excludes⟩

def byLine (defs : List Definition) : List Definition :=
  (candidates defs ++ defs.filter fun d => d.kind.passthrough).mergeSort
    fun a b => decide (a.startLine ≤ b.startLine)

def stays (kept : List Nat) (d : Definition) : Bool := d.kind.passthrough || kept.contains d.id

def cut (kept : List Nat) (d : Definition) : Definition :=
  if d.kind.passthrough then d else prune kept d

theorem cut_startLine (kept : List Nat) (d : Definition) : (cut kept d).startLine = d.startLine := by
  unfold cut
  split <;> rfl

theorem keep_eq_byLine (kept : List Nat) (defs : List Definition) :
    keep kept defs = ((byLine defs).filter (stays kept)).map (cut kept) := by
  -- What is kept may as well be sorted first.
  have survivors : ((candidates defs).filter (stays kept)).map (cut kept) =
      ((candidates defs).filter fun d => kept.contains d.id).map (prune kept) := by
    have same : (candidates defs).filter (stays kept) =
        (candidates defs).filter fun d => kept.contains d.id := by
      refine List.filter_congr ?_
      intro d member
      simp [stays, (mem_candidates.mp member).2]
    rw [same]
    refine List.map_congr_left ?_
    intro d member
    simp [cut, (mem_candidates.mp (List.mem_of_mem_filter member)).2]
  have reports : ((defs.filter fun d => d.kind.passthrough).filter (stays kept)).map (cut kept) =
      defs.filter fun d => d.kind.passthrough := by
    have all : (defs.filter fun d => d.kind.passthrough).filter (stays kept) =
        defs.filter fun d => d.kind.passthrough := by
      rw [List.filter_eq_self]
      intro d report
      simp [stays, (List.mem_filter.mp report).2]
    rw [all]
    refine (List.map_congr_left ?_).trans (List.map_id _)
    intro d report
    simp [cut, (List.mem_filter.mp report).2]
  rw [byLine, filter_mergeSort startLine_le_trans startLine_le_total, List.map_mergeSort,
    List.filter_append, List.map_append, survivors, reports]
  · rfl
  · intro a _ b _
    rw [cut_startLine, cut_startLine]

theorem prune_fewerLinks (larger : kept ⊆ more) (d : Definition) :
    FewerLinks (prune kept d) (prune more d) where
  unlink := rfl
  parent p parent := by
    obtain ⟨old, here⟩ := prune_parent_eq_some.mp parent
    exact prune_parent_eq_some.mpr ⟨old, larger here⟩
  children := by
    apply List.monotone_filter_right
    intro id here
    simp only [List.contains_eq_mem, decide_eq_true_eq] at here ⊢
    exact larger here

theorem cut_fewerLinks (larger : kept ⊆ more) (d : Definition) :
    FewerLinks (cut kept d) (cut more d) := by
  unfold cut
  split
  · exact .refl d
  · exact prune_fewerLinks larger d

theorem keep_mono (larger : kept ⊆ more) (defs : List Definition) :
    List.SublistForall₂ FewerLinks (keep kept defs) (keep more defs) := by
  have stay : ((byLine defs).filter (stays kept)).Sublist ((byLine defs).filter (stays more)) := by
    apply List.monotone_filter_right
    intro d
    simp only [stays, List.contains_eq_mem, Bool.or_eq_true, decide_eq_true_eq]
    exact Or.imp_right (larger ·)
  rw [keep_eq_byLine, keep_eq_byLine, List.sublistForall₂_iff]
  refine ⟨((byLine defs).filter (stays kept)).map (cut more), ?_, stay.map _⟩
  rw [List.forall₂_map_left_iff, List.forall₂_map_right_iff, List.forall₂_same]
  exact fun d _ => cut_fewerLinks larger d

/-- If `g` accepts all of the list that `f` accepts and excludes no name of it that `f` does not, then what
`f` leaves is among what `g` leaves, in the same order and with no link that is missing there. -/
theorem apply_mono (f g : Filter) (defs : List Definition)
    (accepts : ∀ d ∈ defs, f.accepts d = true → g.accepts d = true)
    (excludes : ∀ d ∈ defs, g.excludesName d.name = true → f.excludesName d.name = true) :
    List.SublistForall₂ FewerLinks (f.apply defs) (g.apply defs) := by
  rw [apply_eq_keep, apply_eq_keep]
  apply keep_mono
  intro id here
  rw [mem_survivors] at here ⊢
  exact here.mono (fun d member => accepts d (mem_candidates.mp member).1)
    fun d member => excludes d (mem_candidates.mp member).1

/-- The stricter filter asks for a higher complexity and excludes names with a `d`. It keeps the method
alone; the looser one keeps the class and the namespace above it as well. -/
theorem apply_mono_middle :
    let f : Filter := ⟨{ minComplexity := some 3 }, .unset, some (.chars ⟨[(100, 100)]⟩)⟩
    let g : Filter := ⟨{ minComplexity := some 2 }, .unset, none⟩
    let outer := { Definition.ofSpan 1 .namespaceDef "outer" ⟨1, 20⟩ with children := [2] }
    let middle := { Definition.ofSpan 2 .classDef "middle" ⟨2, 10⟩ with
      parent := some 1, children := [3] }
    let inner := { Definition.ofSpan 3 .method "inner" ⟨3, 5⟩ with parent := some 2, complexity := 3 }
    let defs := [outer, middle, inner, Definition.metadata 4 "note"]
    (∀ d ∈ defs, f.accepts d = true → g.accepts d = true) ∧
    (∀ d ∈ defs, g.excludesName d.name = true → f.excludesName d.name = true) ∧
    f.survivors (candidates defs) = [3] ∧ g.survivors (candidates defs) = [1, 2, 3] ∧
    List.SublistForall₂ FewerLinks (f.apply defs) (g.apply defs) := by
  intro f g outer middle inner defs
  have accepts : ∀ d ∈ defs, f.accepts d = true → g.accepts d = true := by decide
  have excludes : ∀ d ∈ defs, g.excludesName d.name = true → f.excludesName d.name = true := by decide
  exact ⟨accepts, excludes, by decide, by decide, apply_mono f g defs accepts excludes⟩

end Filter

end SourceOutline

import SourceOutline.Proofs.Lineage

/-! Filtering what a filter has left changes nothing. A definition that stays only as an ancestor is not
accepted by itself, but the links that lead to it from an accepted one are kept, so the second filter finds
it again. -/
namespace SourceOutline.Filter

variable {f : Filter} {defs : List Definition} {kept : List Nat} {d : Definition}

theorem prune_prune (kept : List Nat) (d : Definition) : prune kept (prune kept d) = prune kept d := by
  simp only [prune, List.filter_filter, Option.filter_filter, Bool.and_self]

theorem mem_candidates_keep :
    d ∈ candidates (keep kept defs) ↔ ∃ e ∈ candidates defs, e.id ∈ kept ∧ prune kept e = d := by
  -- The candidates that are left are those with a kept id, without their other links.
  rw [mem_candidates, mem_keep]
  constructor
  · rintro ⟨origin | ⟨_, report⟩, plain⟩
    · exact origin
    · rw [plain] at report
      contradiction
  · rintro ⟨e, candidate, here, rfl⟩
    exact ⟨.inl ⟨e, candidate, here, rfl⟩, (mem_candidates.mp candidate).2⟩

theorem candidates_keep_distinct (distinct : ((candidates defs).map (·.id)).Nodup) :
    ((candidates (keep kept defs)).map (·.id)).Nodup := by
  let survivors := ((candidates defs).filter fun d => kept.contains d.id).map (prune kept)
  have sorted : (candidates (keep kept defs)).Perm
      (candidates (survivors ++ defs.filter fun d => d.kind.passthrough)) :=
    (List.mergeSort_perm _ _).filter _
  have plain : candidates (survivors ++ defs.filter fun d => d.kind.passthrough) = survivors := by
    rw [candidates, List.filter_append, List.filter_filter]
    have none : (defs.filter fun d => !d.kind.passthrough && d.kind.passthrough) = [] := by simp
    rw [none, List.append_nil, List.filter_eq_self]
    intro d survivor
    obtain ⟨e, member, rfl⟩ := List.mem_map.mp survivor
    simpa using (mem_candidates.mp (List.mem_of_mem_filter member)).2
  rw [plain] at sorted
  have ids : survivors.map (·.id) = ((candidates defs).filter fun d => kept.contains d.id).map (·.id) := by
    rw [List.map_map]
    rfl
  rw [(sorted.map _).nodup_iff, ids]
  exact distinct.sublist (List.filter_sublist.map _)

theorem lastWithId?_keep (distinct : ((candidates defs).map (·.id)).Nodup) {id : Nat}
    (found : lastWithId? (candidates defs) id = some d) (here : id ∈ kept) :
    lastWithId? (candidates (keep kept defs)) id = some (prune kept d) := by
  obtain ⟨member, rfl⟩ := lastWithId?_some found
  rw [lastWithId?_eq_some_iff (candidates_keep_distinct distinct)]
  exact ⟨mem_candidates_keep.mpr ⟨d, member, here, rfl⟩, rfl⟩

/-- Whatever had a reason to stay still has it among the definitions that are left: each link that the
reason goes along leads to a kept id, and such links are not cut. -/
theorem survives_keep (distinct : ((candidates defs).map (·.id)).Nodup)
    (stays : ∀ id, id ∈ kept ↔ Survives f (candidates defs) id) {id : Nat}
    (survives : Survives f (candidates defs) id) : Survives f (candidates (keep kept defs)) id := by
  induction survives with
  | @accepted d member accepts =>
    have here := (stays d.id).mpr (.accepted member accepts)
    have left : prune kept d ∈ candidates (keep kept defs) :=
      mem_candidates_keep.mpr ⟨d, member, here, rfl⟩
    -- What a filter asks of a definition is not about its links.
    have still : f.accepts (prune kept d) = true := accepts
    rw [← prune_id kept d]
    exact .accepted left still
  | @parent id p below pulls ih =>
    have here := (stays id).mpr below
    have hereToo := (stays p).mpr (below.parent pulls)
    obtain ⟨⟨d, found, parent⟩, e, foundToo, named⟩ := pulls
    refine ih.parent ⟨⟨prune kept d, lastWithId?_keep distinct found here, ?_⟩, ?_⟩
    · exact prune_parent_eq_some.mpr ⟨parent, hereToo⟩
    · exact ⟨prune kept e, lastWithId?_keep distinct foundToo hereToo, named⟩

theorem survives_keep_iff (distinct : ((candidates defs).map (·.id)).Nodup)
    (stays : ∀ id, id ∈ kept ↔ Survives f (candidates defs) id) (id : Nat) :
    Survives f (candidates (keep kept defs)) id ↔ id ∈ kept := by
  constructor
  · intro survives
    obtain ⟨d, member, rfl⟩ := survives.mem
    obtain ⟨e, _, here, rfl⟩ := mem_candidates_keep.mp member
    exact here
  · exact fun here => survives_keep distinct stays ((stays id).mp here)

/-- Keeping the same ids again changes no definition and leaves the order alone. -/
theorem keep_keep (kept : List Nat) (defs : List Definition) :
    keep kept (keep kept defs) = keep kept defs := by
  have all : ((candidates (keep kept defs)).filter fun d => kept.contains d.id) =
      candidates (keep kept defs) := by
    rw [List.filter_eq_self]
    intro d member
    obtain ⟨e, _, here, rfl⟩ := mem_candidates_keep.mp member
    simpa using here
  have same : (candidates (keep kept defs)).map (prune kept) = candidates (keep kept defs) := by
    refine (List.map_congr_left ?_).trans (List.map_id _)
    intro d member
    obtain ⟨e, _, _, rfl⟩ := mem_candidates_keep.mp member
    exact prune_prune kept e
  have stable := keep_stablySorted kept defs
  have again := stable.mergeSort_parts startLine_le_trans startLine_le_total
    (fun d => !d.kind.passthrough) ?_ ?_
  · simp only [Bool.not_not] at again
    conv_lhs => rw [keep]
    rw [all, same]
    exact again
  · intro d survivor
    obtain ⟨e, member, rfl⟩ := List.mem_map.mp survivor
    simpa using (mem_candidates.mp (List.mem_of_mem_filter member)).2
  · intro r report
    simpa using (List.mem_filter.mp report).2

/-- A second run of a filter gives the list of the first, with its order and all its links. -/
theorem apply_idempotent (f : Filter) (defs : List Definition)
    (distinct : ((candidates defs).map (·.id)).Nodup) : f.apply (f.apply defs) = f.apply defs := by
  have stays (id : Nat) : id ∈ f.survivors (candidates defs) ↔ Survives f (candidates defs) id :=
    mem_survivors
  have again (id : Nat) : id ∈ f.survivors (candidates (keep (f.survivors (candidates defs)) defs)) ↔
      id ∈ f.survivors (candidates defs) :=
    mem_survivors.trans (survives_keep_iff distinct stays id)
  calc f.apply (f.apply defs)
    _ = keep (f.survivors (candidates (f.apply defs))) (f.apply defs) := apply_eq_keep f _
    _ = keep (f.survivors (candidates defs)) (f.apply defs) := keep_congr again _
    _ = f.apply defs := keep_keep _ defs

/-- A class and a method that are each other's parent, the class with a child that is not there. The method
is accepted and the class stays for it, in the second run as in the first; a report may have their ids. -/
theorem apply_idempotent_circle :
    let f : Filter := ⟨{ minComplexity := some 2 }, .unset, none⟩
    let inner : Definition := { Definition.ofSpan 2 .method "inner" ⟨2, 5⟩ with
      parent := some 1, complexity := 3 }
    let outer : Definition := { Definition.ofSpan 1 .classDef "outer" ⟨1, 9⟩ with
      parent := some 2, children := [2, 7] }
    let beside : Definition := { Definition.ofSpan 3 .function "beside" ⟨11, 12⟩ with parent := some 8 }
    let defs := [beside, inner, outer, Definition.error 2 "broken"]
    ((candidates defs).map (·.id)).Nodup ∧ f.accepts outer = false ∧ 1 ∈ remaining f defs ∧
    f.apply (f.apply defs) = f.apply defs := by
  intro f inner outer beside defs
  have distinct : ((candidates defs).map (·.id)).Nodup := by decide
  have accepted : Survives f (candidates defs) inner.id := .accepted (by decide) (by decide)
  have pulls : Pulls f (candidates defs) inner.id outer.id :=
    ⟨⟨inner, by decide, rfl⟩, outer, by decide, rfl⟩
  exact ⟨distinct, by decide, (mem_remaining 1).mpr (accepted.parent pulls), apply_idempotent f defs distinct⟩

end SourceOutline.Filter

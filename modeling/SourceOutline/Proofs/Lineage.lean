import SourceOutline.Proofs.Forest
import SourceOutline.Proofs.StableSort

/-! What a filter leaves above a definition: its ancestors as they were, up to the first one with an
excluded name. A definition above that one may stay for the sake of others, but no longer as an ancestor
of this one. -/
namespace SourceOutline

/-- The definitions above `d`, from its parent up to one without a parent. -/
inductive Lineage (defs : List Definition) : Definition → List Definition → Prop where
  | root {d : Definition} (free : d.parent = none) : Lineage defs d []
  | step {d p : Definition} {above : List Definition} (holder : p ∈ defs)
      (parent : d.parent = some p.id) (rest : Lineage defs p above) : Lineage defs d (p :: above)

theorem Lineage.unique {defs : List Definition} (distinct : (defs.map (·.id)).Nodup) {d : Definition}
    {above others : List Definition} (first : Lineage defs d above) (second : Lineage defs d others) :
    above = others := by
  induction first generalizing others with
  | root free =>
    cases second with
    | root _ => rfl
    | step _ parent _ => simp [free] at parent
  | step holder parent _ ih =>
    cases second with
    | root free => simp [free] at parent
    | step holderToo parentToo rest =>
      have same := Option.some.inj (parent.symm.trans parentToo)
      obtain rfl := List.inj_on_of_nodup_map distinct holder holderToo same
      rw [ih rest]

theorem exists_lineage {defs : List Definition} (linked : Linked defs) (acyclic : Acyclic defs) :
    ∀ d ∈ defs, ∃ above, Lineage defs d above := by
  refine Forest.parent_induction (motive := fun d => ∃ above, Lineage defs d above) acyclic ?_
  intro d member ih
  cases parent : d.parent with
  | none => exact ⟨[], .root parent⟩
  | some id =>
    obtain ⟨p, holder, rfl⟩ := linked.parent_mem d member id parent
    obtain ⟨above, rest⟩ := ih p ⟨holder, member, parent⟩
    exact ⟨p :: above, .step holder parent rest⟩

namespace Filter

variable {f : Filter} {defs : List Definition} {kept : List Nat} {d p : Definition}

theorem candidates_distinct (distinct : (defs.map (·.id)).Nodup) :
    ((candidates defs).map (·.id)).Nodup :=
  distinct.sublist (List.filter_sublist.map _)

theorem parent_candidate (linked : Linked defs)
    (alone : ∀ r ∈ defs, r.kind.passthrough = true → r.parent = none ∧ r.children = [])
    (child : d ∈ defs) (holder : p ∈ defs) (parent : d.parent = some p.id) : p ∈ candidates defs := by
  -- A report has no children, so a parent is a candidate.
  rw [mem_candidates]
  refine ⟨holder, ?_⟩
  by_contra report
  have listed := (linked.mem_children_iff child holder).mpr parent
  rw [(alone p holder (by simpa using report)).2] at listed
  cases listed

theorem Survives.named (distinct : (defs.map (·.id)).Nodup) (member : d ∈ candidates defs)
    (survives : Survives f (candidates defs) d.id) : f.excludesName d.name = false := by
  have distinct := candidates_distinct distinct
  generalize same : d.id = id at survives
  cases survives with
  | @accepted e candidate accepts =>
    obtain rfl := List.inj_on_of_nodup_map distinct member candidate same
    simp only [Filter.accepts, Bool.and_eq_true, Bool.not_eq_true'] at accepts
    exact accepts.1.1.2
  | parent _ pulls =>
    obtain ⟨e, found, named⟩ := pulls.2
    have stands := (lastWithId?_eq_some_iff distinct).mpr ⟨member, same⟩
    rw [found] at stands
    cases stands
    exact named

theorem survives_parent_iff (distinct : (defs.map (·.id)).Nodup) (child : d ∈ candidates defs)
    (holder : p ∈ candidates defs) (parent : d.parent = some p.id)
    (survives : Survives f (candidates defs) d.id) :
    Survives f (candidates defs) p.id ↔ f.excludesName p.name = false := by
  have stands {e : Definition} (member : e ∈ candidates defs) :
      lastWithId? (candidates defs) e.id = some e :=
    (lastWithId?_eq_some_iff (candidates_distinct distinct)).mpr ⟨member, rfl⟩
  refine ⟨Survives.named distinct holder, ?_⟩
  intro named
  exact survives.parent ⟨⟨d, stands child, parent⟩, p, stands holder, named⟩

/-- The ancestors of what stays are cut off at the first excluded name. -/
theorem lineage_keep (linked : Linked defs)
    (alone : ∀ r ∈ defs, r.kind.passthrough = true → r.parent = none ∧ r.children = [])
    (stays : ∀ id, id ∈ kept ↔ Survives f (candidates defs) id) {above : List Definition}
    (lineage : Lineage defs d above) (member : d ∈ candidates defs) (survives : d.id ∈ kept) :
    Lineage (keep kept defs) (prune kept d)
      ((above.takeWhile fun p => !f.excludesName p.name).map (prune kept)) := by
  induction lineage with
  | root free => exact .root (by simp [prune, free])
  | @step d p above holder parent rest ih =>
    have candidate := parent_candidate linked alone (mem_candidates.mp member).1 holder parent
    have goes := survives_parent_iff linked.distinct member candidate parent ((stays _).mp survives)
    rw [← stays] at goes
    cases named : f.excludesName p.name with
    | true =>
      rw [List.takeWhile_cons_of_neg (by simp [named])]
      refine .root (Option.eq_none_iff_forall_ne_some.mpr ?_)
      intro id pruned
      obtain ⟨old, here⟩ := prune_parent_eq_some.mp pruned
      rw [← Option.some.inj (parent.symm.trans old), goes, named] at here
      contradiction
    | false =>
      have here := goes.mpr named
      rw [List.takeWhile_cons_of_pos (by simp [named])]
      exact .step (mem_keep.mpr (.inl ⟨p, candidate, here, rfl⟩))
        (prune_parent_eq_some.mpr ⟨parent, here⟩) (ih candidate here)

def remaining (f : Filter) (defs : List Definition) : List Nat :=
  (candidates (f.apply defs)).map (·.id)

theorem mem_remaining (id : Nat) : id ∈ remaining f defs ↔ Survives f (candidates defs) id := by
  have ids : id ∈ remaining f defs ↔ id ∈ keptIds (f.apply defs) := by
    simp [remaining, keptIds, mem_candidates, and_assoc]
  rw [ids, apply_eq_keep, keptIds_keep fun _ member => (mem_survivors.mp member).mem]
  exact mem_survivors

theorem apply_eq_keep_remaining (f : Filter) (defs : List Definition) :
    f.apply defs = keep (remaining f defs) defs := by
  rw [apply_eq_keep]
  exact keep_congr (fun id => mem_survivors.trans (mem_remaining id).symm) defs

theorem startLine_le_trans (a b c : Definition) (first : decide (a.startLine ≤ b.startLine) = true)
    (second : decide (b.startLine ≤ c.startLine) = true) :
    decide (a.startLine ≤ c.startLine) = true := by
  simp only [decide_eq_true_eq] at first second ⊢
  omega

theorem startLine_le_total (a b : Definition) :
    (decide (a.startLine ≤ b.startLine) || decide (b.startLine ≤ a.startLine)) = true := by
  simp only [Bool.or_eq_true, decide_eq_true_eq]
  omega

theorem keep_stablySorted (kept : List Nat) (defs : List Definition) :
    StablySorted (fun a b : Definition => decide (a.startLine ≤ b.startLine))
      (((candidates defs).filter fun d => kept.contains d.id).map (prune kept) ++
        defs.filter fun d => d.kind.passthrough) (keep kept defs) :=
  stablySorted_mergeSort startLine_le_trans startLine_le_total _

/-- A filter keeps what it accepts and every report, and of a definition that stays it changes the links
alone: the ancestors end before the first excluded name, and the children are those that stay, in their
order. The list is sorted by first line, reports last among those on one line. -/
theorem apply_cuts_lineage (f : Filter) (defs : List Definition) (linked : Linked defs)
    (acyclic : Acyclic defs)
    (alone : ∀ r ∈ defs, r.kind.passthrough = true → r.parent = none ∧ r.children = []) :
    let out := f.apply defs
    let kept := remaining f defs
    (∀ e ∈ candidates out, ∃ d ∈ candidates defs,
      e = { d with parent := e.parent, children := d.children.filter kept.contains } ∧
      f.excludesName e.name = false ∧
      ∃ above, (∀ l, Lineage defs d l ↔ l = above) ∧
        ∀ l, Lineage out e l ↔
          l = (above.takeWhile fun p => !f.excludesName p.name).map (prune kept)) ∧
    (∀ d ∈ candidates defs, f.accepts d = true → d.id ∈ kept) ∧
    (∀ r ∈ defs, r.kind.passthrough = true → r ∈ out) ∧
    StablySorted (fun a b => decide (a.startLine ≤ b.startLine))
      (((candidates defs).filter fun d => kept.contains d.id).map (prune kept) ++
        defs.filter fun d => d.kind.passthrough) out := by
  intro out kept
  have eq : out = keep kept defs := apply_eq_keep_remaining f defs
  have stays : ∀ id, id ∈ kept ↔ Survives f (candidates defs) id := mem_remaining
  refine ⟨?_, ?_, ?_, eq ▸ keep_stablySorted kept defs⟩
  · intro e member
    rw [eq, mem_candidates] at member
    rcases mem_keep.mp member.1 with ⟨d, candidate, here, rfl⟩ | ⟨_, report⟩
    · obtain ⟨above, lineage⟩ := exists_lineage linked acyclic d (mem_candidates.mp candidate).1
      have named : f.excludesName d.name = false :=
        Survives.named linked.distinct candidate ((stays _).mp here)
      refine ⟨d, candidate, rfl, named, above, ?_, ?_⟩
      · exact fun l => ⟨fun other => other.unique linked.distinct lineage, fun same => same ▸ lineage⟩
      · have cut := lineage_keep linked alone stays lineage candidate here
        intro l
        rw [eq]
        exact ⟨fun other => other.unique (keep_ids_nodup linked.distinct) cut, fun same => same ▸ cut⟩
    · rw [member.2] at report
      contradiction
  · exact fun d candidate accepts => (stays _).mpr (.accepted candidate accepts)
  · intro r member report
    rw [eq]
    exact mem_keep.mpr (.inr ⟨member, report⟩)

/-- A class in the middle has an excluded name: the method in it loses both ancestors, and a function beside
it keeps the namespace around them. -/
theorem apply_cuts_lineage_middle :
    let f : Filter := ⟨{ }, .unset, some (.chars ⟨[(100, 100)]⟩)⟩
    let outer := { Definition.ofSpan 1 .namespaceDef "outer" ⟨1, 20⟩ with children := [2, 4] }
    let middle := { Definition.ofSpan 2 .classDef "middle" ⟨2, 10⟩ with
      parent := some 1, children := [3] }
    let inner := { Definition.ofSpan 3 .method "inner" ⟨3, 5⟩ with parent := some 2 }
    let beside := { Definition.ofSpan 4 .function "helper" ⟨12, 15⟩ with parent := some 1 }
    let defs := [outer, middle, inner, beside, Definition.metadata 5 "note"]
    Linked defs ∧ Acyclic defs ∧
    (∀ r ∈ defs, r.kind.passthrough = true → r.parent = none ∧ r.children = []) ∧
    Lineage defs inner [middle, outer] ∧
    (∃ e ∈ f.apply defs, e.id = 3 ∧ Lineage (f.apply defs) e []) ∧
    ∃ e ∈ f.apply defs, e.id = 4 ∧ ∃ p, p.id = 1 ∧ Lineage (f.apply defs) e [p] := by
  intro f outer middle inner beside defs
  have nested : Nested defs := by
    refine ⟨⟨by decide, ?_, by decide, by decide⟩, ?_, by decide⟩
    · have named : ∀ d ∈ defs, ∀ id ∈ d.parent, ∃ p ∈ defs, p.id = id := by decide
      exact named
    · intro d child p holder parent
      have encloses : ∀ d ∈ defs, ∀ p ∈ defs, d.parent = some p.id → p.kind.container = true ∧
          p.containsSpan d = true ∧ p.nestingKey.lt d.nestingKey = true := by decide
      obtain ⟨container, spans, precedes⟩ := encloses d child p holder parent
      exact ⟨container, spans, precedes⟩
  obtain ⟨cut, accepted, _⟩ :=
    apply_cuts_lineage f defs nested.toLinked nested.acyclic nested.reports
  have shown (d : Definition) (member : d ∈ candidates defs) (accepts : f.accepts d = true)
      (above : List Definition) (lineage : Lineage defs d above) :
      ∃ e ∈ f.apply defs, e.id = d.id ∧ Lineage (f.apply defs) e
        ((above.takeWhile fun p => !f.excludesName p.name).map (prune (remaining f defs))) := by
    obtain ⟨e, listed, same⟩ := List.mem_map.mp (accepted d member accepts)
    obtain ⟨origin, candidate, eq, _, chain, only, left⟩ := cut e listed
    obtain rfl : origin = d := nested.eq_of_id (mem_candidates.mp candidate).1
      (mem_candidates.mp member).1 ((congrArg Definition.id eq).symm.trans same)
    obtain rfl := (only above).mp lineage
    exact ⟨e, (mem_candidates.mp listed).1, same, (left _).mpr rfl⟩
  have top : Lineage defs outer [] := .root rfl
  have chain : Lineage defs inner [middle, outer] :=
    .step (by decide) rfl (.step (by decide) rfl top)
  refine ⟨nested.toLinked, nested.acyclic, nested.reports, chain, ?_, ?_⟩
  · have cutOff : ([middle, outer].takeWhile fun p => !f.excludesName p.name) = [] := by decide
    have left := shown inner (by decide) (by decide) _ chain
    rwa [cutOff] at left
  · have whole : ([outer].takeWhile fun p => !f.excludesName p.name) = [outer] := by decide
    obtain ⟨e, listed, same, left⟩ :=
      shown beside (by decide) (by decide) [outer] (.step (by decide) rfl top)
    rw [whole] at left
    exact ⟨e, listed, same, _, rfl, left⟩

end Filter

end SourceOutline

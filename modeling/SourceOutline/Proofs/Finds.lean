import SourceOutline.Proofs.Extraction
import SourceOutline.Proofs.StableSort

/-! From finds to definitions. The first find with each key becomes a definition, unless it repeats a
callable; nothing else is lost, and nothing is there twice. -/
namespace SourceOutline.Extracted

variable {language : Language} {src : Source} {root : Place} {e : Extracted} {es : List Extracted}

@[simp] theorem unnumbered_kind (e : Extracted) : e.unnumbered.definition.kind = e.definition.kind := rfl
@[simp] theorem unnumbered_order (e : Extracted) : e.unnumbered.order = e.order := rfl

theorem ofMatch?_unnumbered {kind : Kind} {m : Match} (found : ofMatch? src kind m = some e) :
    e.unnumbered = e := by
  obtain ⟨_, _, _, _, _, rfl⟩ := ofMatch?_eq_some_iff.mp found
  rfl

theorem all_unnumbered (found : e ∈ all language src root) : e.unnumbered = e := by
  obtain ⟨_, _, _, _, _, here⟩ := exists_match found
  exact ofMatch?_unnumbered here

theorem mem_reconcile : e ∈ reconcile es ↔ e ∈ es ∧ (e.definition.kind.callable = true ∨
    ∀ c ∈ es, c.definition.kind.callable = true → c.nameAndSpan ≠ e.nameAndSpan) := by
  simp only [reconcile, List.mem_filter, Bool.or_eq_true, Bool.not_eq_true', List.contains_eq_mem,
    decide_eq_false_iff_not, List.mem_map, not_exists, not_and, and_imp, ne_eq]

theorem chosen_sublist (language : Language) (src : Source) (root : Place) :
    (chosen language src root).Sublist (firstPerKey key (all language src root)) :=
  List.filter_sublist

theorem definitions_unnumbered (language : Language) (src : Source) (root : Place) :
    (definitions language src root).map unnumbered =
      (chosen language src root).mergeSort fun a b => a.order.le b.order := by
  rw [definitions, numberFrom_unnumbered]
  refine (List.map_congr_left ?_).trans (List.map_id _)
  intro e member
  have found := (chosen_sublist language src root).subset (List.mem_mergeSort.mp member)
  exact all_unnumbered ((firstPerKey_sublist key _).subset found)

theorem exists_definition_iff :
    (∃ d ∈ definitions language src root, d.unnumbered = e) ↔ e ∈ chosen language src root := by
  rw [← List.mem_map, definitions_unnumbered, List.mem_mergeSort]

theorem unnumbered_mem_chosen (member : e ∈ definitions language src root) :
    e.unnumbered ∈ chosen language src root :=
  exists_definition_iff.mp ⟨e, member, rfl⟩

/-- A callable is never left out for another one. -/
theorem exists_callable (found : e ∈ firstPerKey key (all language src root))
    (callable : e.definition.kind.callable = true) :
    ∃ d ∈ definitions language src root, d.unnumbered = e :=
  exists_definition_iff.mpr (mem_reconcile.mpr ⟨found, .inl callable⟩)

/-- No definition repeats the name and the lines of a callable. -/
theorem nameAndSpan_ne_callable {c : Extracted} (member : e ∈ definitions language src root)
    (plain : e.definition.kind.callable = false) (callableMember : c ∈ definitions language src root)
    (callable : c.definition.kind.callable = true) : c.nameAndSpan ≠ e.nameAndSpan := by
  have kept := (mem_reconcile.mp (unnumbered_mem_chosen member)).2
  rw [unnumbered_kind, plain] at kept
  exact kept.resolve_left (by simp) c.unnumbered
    (mem_reconcile.mp (unnumbered_mem_chosen callableMember)).1 callable

theorem definitions_keys_nodup (language : Language) (src : Source) (root : Place) :
    ((definitions language src root).map key).Nodup := by
  have keys : (definitions language src root).map key =
      ((definitions language src root).map unnumbered).map key := by
    rw [List.map_map]
    rfl
  rw [keys, definitions_unnumbered, ((List.mergeSort_perm _ _).map key).nodup_iff]
  exact (firstPerKey_nodup key _).sublist ((chosen_sublist language src root).map key)

/-- Definitions are in nesting order, and where that leaves a tie in the order of the finds. -/
theorem definitions_order (language : Language) (src : Source) (root : Place) :
    (definitions language src root).Pairwise fun a b => a.order.lt b.order = true ∨
      (a.order = b.order ∧ ((all language src root).map key).idxOf a.key <
        ((all language src root).map key).idxOf b.key) := by
  have stable : StablySorted (fun a b : Extracted => a.order.le b.order) (chosen language src root)
      ((chosen language src root).mergeSort fun a b => a.order.le b.order) := by
    apply stablySorted_mergeSort
    · exact fun _ _ _ => NestingKey.le_trans
    · exact fun _ _ => NestingKey.le_total _ _
  have along := (firstPerKey_idxOf key (all language src root)).sublist (chosen_sublist language src root)
  have sorted := stable.pairwise (fun e => NestingKey.le_refl e.order) along
  rw [← definitions_unnumbered, List.pairwise_map] at sorted
  refine sorted.imp ?_
  rintro a b (after | ⟨tied, earlier⟩)
  · exact .inl (by simpa [NestingKey.le] using after)
  · simp only [level, Bool.and_eq_true] at tied
    exact .inr ⟨NestingKey.le_antisymm tied.1 tied.2, earlier⟩

/-- A definition is, but for its number, the first find with its key, and no two have one key. A find is
passed over only for an earlier one with its key, or for a callable with its name and lines that is there.
The definitions are in nesting order, those that tie in the order of the finds, and numbered from one. -/
theorem definitions_from_finds (language : Language) (src : Source) (root : Place) :
    let finds := all language src root
    let es := definitions language src root
    (∀ e ∈ es, IsFirst key finds e.unnumbered) ∧
    (es.map key).Nodup ∧
    (∀ e ∈ es, e.definition.kind.callable = false →
      ∀ c ∈ es, c.definition.kind.callable = true → c.nameAndSpan ≠ e.nameAndSpan) ∧
    (∀ before e after, finds = before ++ e :: after →
      (∃ d ∈ es, d.unnumbered = e) ∨ (∃ b ∈ before, b.key = e.key) ∨
        (e.definition.kind.callable = false ∧
          ∃ c ∈ es, c.definition.kind.callable = true ∧ c.nameAndSpan = e.nameAndSpan)) ∧
    (es.Pairwise fun a b => a.order.lt b.order = true ∨
      (a.order = b.order ∧ (finds.map key).idxOf a.key < (finds.map key).idxOf b.key)) ∧
    es.map (·.definition.id) = List.range' 1 es.length := by
  intro finds es
  refine ⟨?_, definitions_keys_nodup language src root, ?_, ?_, definitions_order language src root,
    definitions_ids language src root⟩
  · intro e member
    exact (mem_firstPerKey_iff key).mp (mem_reconcile.mp (unnumbered_mem_chosen member)).1
  · exact fun e member plain c other callable => nameAndSpan_ne_callable member plain other callable
  · intro before e after split
    by_cases first : ∀ b ∈ before, b.key ≠ e.key
    · have found : e ∈ firstPerKey key finds := (mem_firstPerKey_iff key).mpr ⟨before, after, split, first⟩
      by_cases stays : e ∈ chosen language src root
      · exact .inl (exists_definition_iff.mpr stays)
      · -- A first find that is passed over repeats a callable, which is a definition itself.
        have passed : ¬ (e.definition.kind.callable = true ∨ ∀ c ∈ firstPerKey key finds,
            c.definition.kind.callable = true → c.nameAndSpan ≠ e.nameAndSpan) :=
          fun kept => stays (mem_reconcile.mpr ⟨found, kept⟩)
        push Not at passed
        obtain ⟨plain, c, foundToo, callable, same⟩ := passed
        obtain ⟨d, member, rfl⟩ := exists_callable foundToo callable
        exact .inr (.inr ⟨by simpa using plain, d, member, callable, same⟩)
    · push Not at first
      exact .inr (.inl first)

end SourceOutline.Extracted

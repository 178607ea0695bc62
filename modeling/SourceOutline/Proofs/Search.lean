import SourceOutline.Proofs.Catalogue

/-! The search for a parent. It goes up from the anchor of a definition, node by node, to the first one
whose lines are those of a container that may hold the definition. -/
namespace SourceOutline

instance (p d : Definition) : Decidable (Encloses p d) :=
  decidable_of_iff
    (p.kind.container = true ∧ p.containsSpan d = true ∧ p.nestingKey.lt d.nestingKey = true)
    ⟨fun h => ⟨h.1, h.2.1, h.2.2⟩, fun h => ⟨h.container, h.spans, h.precedes⟩⟩

namespace Hierarchy

def holderAt? (defs : List Definition) (x : Entry) (span : LineSpan) : Option Entry :=
  holderOn? (defs.zipIdx.filter (·.1.kind.container)) x span

variable {nav : Navigator} {defs : List Definition} {x : Entry} {span : LineSpan}

theorem newParent?_eq_findSome? (free : x.1.kind.passthrough = false ∧ x.1.parent = none) :
    newParent? nav defs x = (nav x.1).findSome? (holderAt? defs x) := by
  rw [newParent?, if_pos free]
  rfl

theorem holderAt?_some {c : Entry} (found : holderAt? defs x span = some c) :
    c.1 ∈ defs ∧ c.1.span = span ∧ Encloses c.1 x.1 := by
  have member := List.mem_filter.mp (List.mem_of_find?_eq_some found)
  have test := List.find?_some found
  simp only [mayHold, Bool.and_eq_true, beq_iff_eq] at test
  exact ⟨List.fst_mem_of_mem_zipIdx member.1, test.1, member.2, test.2.1.2, test.2.2⟩

theorem exists_holder (entry : x ∈ defs.zipIdx) {d : Definition} (member : d ∈ defs)
    (encloses : Encloses d x.1) :
    ∃ i, (d, i) ∈ defs.zipIdx.filter (·.1.kind.container) ∧ mayHold (d, i) x = true := by
  obtain ⟨i, at_⟩ := List.mem_iff_getElem?.mp member
  have other : (d, i) ∈ defs.zipIdx := List.mem_zipIdx_iff_getElem?.mpr at_
  have apart : i ≠ x.2 := by
    intro equal
    have itself : (d, i) = x := entry_ext other entry equal
    exact NestingKey.lt_irrefl d.nestingKey (congrArg (·.1.nestingKey) itself ▸ encloses.precedes)
  refine ⟨i, List.mem_filter.mpr ⟨other, encloses.container⟩, ?_⟩
  simp [mayHold, apart, encloses.spans, encloses.precedes]

theorem holderAt?_none (entry : x ∈ defs.zipIdx) (none : holderAt? defs x span = none) {d : Definition}
    (member : d ∈ defs) (encloses : Encloses d x.1) : d.span ≠ span := by
  intro same
  obtain ⟨i, holder, holds⟩ := exists_holder entry member encloses
  refine List.find?_eq_none.mp none (d, i) holder ?_
  simp [same, holds]

/-- Of the containers on these lines that may hold the entry, the one with the least id is taken. -/
theorem holderAt?_least (increasing : (defs.map (·.id)).Pairwise (· < ·)) (entry : x ∈ defs.zipIdx)
    {c : Entry} (found : holderAt? defs x span = some c) {d : Definition} (member : d ∈ defs)
    (encloses : Encloses d x.1) (same : d.span = span) : c.1.id ≤ d.id := by
  have along : (defs.zipIdx.filter (·.1.kind.container)).Pairwise fun a b => a.1.id < b.1.id := by
    rw [← zipIdx_ids, List.pairwise_map] at increasing
    exact increasing.filter _
  obtain ⟨i, holder, holds⟩ := exists_holder entry member encloses
  rcases find?_earliest along found holder (by simp [same, holds]) with here | later
  · exact Nat.le_of_eq (congrArg (·.1.id) here.symm)
  · exact Nat.le_of_lt later

end Hierarchy

namespace Extracted

section

variable (language : Language) (src : Source) (e : Extracted)

@[simp] theorem complete_id : (complete language src e).id = e.definition.id := by
  obtain ⟨_, _, _, _, same⟩ := complete_eq language src e
  rw [same]

@[simp] theorem complete_kind : (complete language src e).kind = e.definition.kind := by
  obtain ⟨_, _, _, _, same⟩ := complete_eq language src e
  rw [same]

@[simp] theorem complete_span : (complete language src e).span = e.definition.span := by
  obtain ⟨_, _, _, _, same⟩ := complete_eq language src e
  rw [same]
  rfl

@[simp] theorem complete_nestingKey :
    (complete language src e).nestingKey = e.definition.nestingKey := by
  obtain ⟨_, _, _, _, same⟩ := complete_eq language src e
  rw [same]
  rfl

@[simp] theorem complete_parent : (complete language src e).parent = e.definition.parent := by
  obtain ⟨_, _, _, _, same⟩ := complete_eq language src e
  rw [same]

end

variable {language : Language} {src : Source} {es : List Extracted} {e p : Extracted}

theorem complete_encloses :
    Encloses (complete language src p) (complete language src e) ↔
      Encloses p.definition e.definition := by
  have spans : (complete language src p).containsSpan (complete language src e) =
      p.definition.containsSpan e.definition := by simp [Definition.containsSpan]
  constructor
  · intro h
    exact ⟨by simpa using h.container, spans ▸ h.spans, by simpa using h.precedes⟩
  · intro h
    exact ⟨by simpa using h.container, spans ▸ h.spans, by simpa using h.precedes⟩

theorem navigator_eq (distinct : (es.map (·.definition.id)).Nodup) (member : e ∈ es) {d : Definition}
    (same : d.id = e.definition.id) : navigator src es d = e.anchor.outward.map src.span := by
  have found : es.findRev? (·.definition.id == d.id) = some e := by
    rw [List.findRev?_eq_findRev?TR, List.findRev?TR]
    refine find?_eq_some_of_unique (List.mem_reverse.mpr member) (by simp [same]) ?_
    intro f other named
    exact List.inj_on_of_nodup_map distinct (List.mem_reverse.mp other) member
      ((beq_iff_eq.mp named).trans same)
  simp only [navigator, found]

/-- No container that may hold `e` has the lines of this place. -/
def Passes (src : Source) (es : List Extracted) (e : Extracted) (b : Place) : Prop :=
  ∀ q ∈ es, Encloses q.definition e.definition → q.definition.span ≠ src.span b

/-- The search from the anchor of `e` passes places until one has the lines of `p`, the first container
listed on these lines that may hold `e`. -/
structure Chosen (src : Source) (es : List Extracted) (e p : Extracted) : Prop where
  member : p ∈ es
  encloses : Encloses p.definition e.definition
  least : ∀ q ∈ es, Encloses q.definition e.definition → q.definition.span = p.definition.span →
    p.definition.id ≤ q.definition.id
  found : ∃ inner a outer, e.anchor.outward = inner ++ a :: outer ∧ p.definition.span = src.span a ∧
    ∀ b ∈ inner, Passes src es e b

theorem newParent?_cases (increasing : (es.map (·.definition.id)).Pairwise (· < ·)) (member : e ∈ es)
    (free : e.definition.kind.passthrough = false ∧ e.definition.parent = none)
    {x : Hierarchy.Entry} (entry : x ∈ (es.map (complete language src)).zipIdx)
    (same : x.1 = complete language src e) :
    (Hierarchy.newParent? (navigator src es) (es.map (complete language src)) x = none ∧
      ∀ b ∈ e.anchor.outward, Passes src es e b) ∨
    ∃ c p, Hierarchy.newParent? (navigator src es) (es.map (complete language src)) x = some c ∧
      c.1.id = p.definition.id ∧ Chosen src es e p := by
  have distinct : (es.map (·.definition.id)).Nodup := increasing.imp Nat.ne_of_lt
  have ids : ((es.map (complete language src)).map (·.id)).Pairwise (· < ·) := by
    simpa [List.map_map, Function.comp_def] using increasing
  have passes {b : Place}
      (none : Hierarchy.holderAt? (es.map (complete language src)) x (src.span b) = none) :
      Passes src es e b := by
    intro q inside encloses
    rw [← complete_span language src]
    refine Hierarchy.holderAt?_none entry none (List.mem_map_of_mem inside) ?_
    rw [same]
    exact complete_encloses.mpr encloses
  rw [Hierarchy.newParent?_eq_findSome? (by simpa [same] using free),
    navigator_eq distinct member (by simp [same]), List.findSome?_map]
  cases result : e.anchor.outward.findSome?
      (Hierarchy.holderAt? (es.map (complete language src)) x ∘ src.span) with
  | none =>
    rw [List.findSome?_eq_none_iff] at result
    exact .inl ⟨rfl, fun b above => passes (result b above)⟩
  | some c =>
    obtain ⟨inner, a, outer, way, here, before⟩ := List.findSome?_eq_some_iff.mp result
    obtain ⟨listed, lines, encloses⟩ := Hierarchy.holderAt?_some here
    obtain ⟨p, inside, completed⟩ := List.mem_map.mp listed
    rw [← completed] at lines encloses
    rw [same] at encloses
    rw [complete_span] at lines
    refine .inr ⟨c, p, rfl, by rw [← completed, complete_id], inside, complete_encloses.mp encloses,
      ?_, inner, a, outer, way, lines, fun b passed => passes (before b passed)⟩
    intro q among enclosesToo level
    have least := Hierarchy.holderAt?_least ids entry here (List.mem_map_of_mem among)
      (by rw [same]; exact complete_encloses.mpr enclosesToo) (by simp [level, lines])
    simpa [← completed] using least

end Extracted

namespace Index

open Extracted

variable {language : Language} {root : Node} {src : Source} {e : Extracted} {d : Definition}

theorem ofTree_eq_append (language : Language) (path : String) (src : Source) (root : Node) :
    ∃ notes, ofTree language path src root =
        Hierarchy.build (navigator src (definitions language src (.root root)))
          (completed language src (.root root)) ++ notes ∧
      ∀ r ∈ notes, r.kind = .metadata ∧ r.id = (definitions language src (.root root)).length + 1 := by
  by_cases faulty : root.faulty = true
  · refine ⟨_, by simp only [ofTree, if_pos faulty]; rfl, ?_⟩
    intro r note
    rw [List.mem_singleton.mp note, Hierarchy.build_length, List.length_map]
    exact ⟨rfl, rfl⟩
  · exact ⟨[], by simp only [ofTree, if_neg faulty, List.append_nil]; rfl, by simp⟩

theorem ofTree_unlink (extractable : ∀ kind ∈ language.kinds, kind ∈ Kind.extractable) (path : String) :
    ((ofTree language path src root).filter fun d => !d.kind.passthrough).map Definition.unlink =
      (definitions language src (.root root)).map (complete language src) := by
  obtain ⟨notes, eq, reports⟩ := ofTree_eq_append language path src root
  have plain : ∀ d ∈ Hierarchy.build (navigator src (definitions language src (.root root)))
      (completed language src (.root root)), (!d.kind.passthrough) = true := by
    intro d member
    obtain ⟨x, entry, rfl⟩ := Hierarchy.mem_build.mp member
    obtain ⟨e, found, same⟩ := List.mem_map.mp (List.fst_mem_of_mem_zipIdx entry)
    rw [Hierarchy.applyLinks_kind, ← same, complete_kind,
      Kind.passthrough_of_extractable _ (extractable _ (mem_definitions found).1)]
    rfl
  have none : (notes.filter fun d => !d.kind.passthrough) = [] := by
    rw [List.filter_eq_nil_iff]
    intro r note
    rw [(reports r note).1]
    decide
  rw [eq, List.filter_append, none, List.append_nil, List.filter_eq_self.mpr plain,
    Hierarchy.build_unlink]
  refine (List.map_congr_left ?_).trans (List.map_id _)
  intro d member
  obtain ⟨parent, children⟩ := completed_unlinked language src (.root root) d member
  rw [Definition.unlink, ← parent, ← children]
  rfl

/-- The parent of a definition is the container at which the search from its anchor ends. -/
theorem ofTree_parent_cases (extractable : ∀ kind ∈ language.kinds, kind ∈ Kind.extractable)
    {path : String} (member : e ∈ definitions language src (.root root))
    (listed : d ∈ ofTree language path src root) (same : d.id = e.definition.id) :
    (d.parent = none ∧
      ∀ b ∈ e.anchor.outward, Passes src (definitions language src (.root root)) e b) ∨
    ∃ p, Chosen src (definitions language src (.root root)) e p ∧
      d.parent = some p.definition.id := by
  have ids := definitions_ids language src (.root root)
  have increasing : ((definitions language src (.root root)).map (·.definition.id)).Pairwise (· < ·) :=
    ids ▸ List.pairwise_lt_range'
  have built : d ∈ Hierarchy.build (navigator src (definitions language src (.root root)))
      (completed language src (.root root)) := by
    obtain ⟨notes, eq, reports⟩ := ofTree_eq_append language path src root
    rw [eq] at listed
    rcases List.mem_append.mp listed with inside | note
    · exact inside
    · have counted : e.definition.id ∈ (definitions language src (.root root)).map (·.definition.id) :=
        List.mem_map_of_mem member
      rw [ids, List.mem_range'_1, ← same, (reports d note).2] at counted
      omega
  obtain ⟨x, entry, rfl⟩ := Hierarchy.mem_build.mp built
  obtain ⟨f, found, named⟩ := List.mem_map.mp (List.fst_mem_of_mem_zipIdx entry)
  obtain rfl : f = e := by
    refine List.inj_on_of_nodup_map (increasing.imp Nat.ne_of_lt) found member ?_
    rw [← same, Hierarchy.applyLinks_id, ← named, complete_id]
  obtain ⟨kind, _, described⟩ := mem_definitions member
  have plain := Kind.passthrough_of_extractable _ (extractable _ kind)
  have unlinked : x.1.parent = none := by rw [← named, complete_parent, described.unlinked.1]
  rw [Hierarchy.applyLinks_parent _ entry, unlinked]
  rcases newParent?_cases increasing member ⟨plain, described.unlinked.1⟩ entry named.symm with
    ⟨none, passes⟩ | ⟨c, p, some_, id, chosen⟩
  · exact .inl ⟨by rw [completed, none]; rfl, passes⟩
  · exact .inr ⟨p, chosen, by rw [completed, some_, ← id]; rfl⟩

theorem queries_of_mem_definitions {language : Language} {src : Source} {root : Place} {e : Extracted}
    (member : e ∈ definitions language src root) : ¬ language.definitions.isEmpty = true := by
  intro none
  have kind := (mem_definitions member).1
  rw [Language.kinds, List.isEmpty_iff.mp none] at kind
  cases kind

theorem ofSource_eq_ofTree {language : Language} (path text : String) (root : Node)
    (queries : ¬ language.definitions.isEmpty = true) :
    ofSource (some language) path text (some root) = ofTree language path (Source.ofText text) root := by
  simp only [ofSource, tryIndex, if_neg queries]

theorem ofSource_unlink {language : Language}
    (extractable : ∀ kind ∈ language.kinds, kind ∈ Kind.extractable) (path text : String)
    (root : Node) :
    ((ofSource (some language) path text (some root)).filter fun d => !d.kind.passthrough).map
        Definition.unlink =
      (definitions language (Source.ofText text) (.root root)).map
        (complete language (Source.ofText text)) := by
  by_cases queries : language.definitions.isEmpty = true
  · have none : definitions language (Source.ofText text) (.root root) = [] := by
      rw [List.eq_nil_iff_forall_not_mem]
      exact fun e member => queries_of_mem_definitions member queries
    simp only [ofSource, tryIndex, if_pos queries, none]
    rfl
  · rw [ofSource_eq_ofTree path text root queries]
    exact ofTree_unlink extractable path

theorem exists_mem_of_unlink {language : Language} {src : Source} {es : List Extracted}
    {defs : List Definition}
    (same : (defs.filter fun d => !d.kind.passthrough).map Definition.unlink =
      es.map (complete language src)) {e : Extracted} (member : e ∈ es) :
    ∃ d ∈ defs, d.id = e.definition.id := by
  have inside : complete language src e ∈ es.map (complete language src) := List.mem_map_of_mem member
  rw [← same] at inside
  obtain ⟨d, kept, unlinked⟩ := List.mem_map.mp inside
  refine ⟨d, List.mem_of_mem_filter kept, ?_⟩
  rw [← complete_id language src, ← unlinked]
  rfl

theorem exists_find_of_unlink {language : Language} {src : Source} {es : List Extracted}
    {defs : List Definition}
    (same : (defs.filter fun d => !d.kind.passthrough).map Definition.unlink =
      es.map (complete language src)) {d : Definition} (listed : d ∈ defs)
    (plain : d.kind.passthrough = false) : ∃ e ∈ es, d.id = e.definition.id := by
  have kept : d.unlink ∈ (defs.filter fun d => !d.kind.passthrough).map Definition.unlink :=
    List.mem_map_of_mem (List.mem_filter.mpr ⟨listed, by simp [plain]⟩)
  rw [same] at kept
  obtain ⟨e, member, completed⟩ := List.mem_map.mp kept
  refine ⟨e, member, ?_⟩
  rw [← complete_id language src, completed]
  rfl

end Index

end SourceOutline

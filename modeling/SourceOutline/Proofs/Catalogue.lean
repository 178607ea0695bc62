import SourceOutline.Language.Builtin
import SourceOutline.Proofs.Extraction
import SourceOutline.Proofs.Links

/-! The list that indexing returns. Its ids count from one in an order in which outer definitions come
first, so that a parent's id is below those of its children. -/
namespace SourceOutline

/-- Ids and nesting keys both grow along the list. -/
def InOrder (defs : List Definition) : Prop :=
  defs.Pairwise fun a b => a.nestingKey.lt b.nestingKey = true ∧ a.id < b.id

theorem Hierarchy.build_unlink (nav : Navigator) (defs : List Definition) :
    (build nav defs).map Definition.unlink = defs.map Definition.unlink := by
  conv_rhs => rw [← List.zipIdx_map_fst 0 defs]
  rw [build, List.map_map, List.map_map]
  rfl

theorem Hierarchy.build_length (nav : Navigator) (defs : List Definition) :
    (build nav defs).length = defs.length := by
  simp [build]

theorem InOrder.build {defs : List Definition} (nav : Navigator) (ordered : InOrder defs) :
    InOrder (Hierarchy.build nav defs) := by
  have transfer (ds : List Definition) : InOrder ds ↔ InOrder (ds.map Definition.unlink) := by
    rw [InOrder, InOrder, List.pairwise_map]
    rfl
  rw [transfer, Hierarchy.build_unlink, ← transfer]
  exact ordered

theorem InOrder.id_lt {defs : List Definition} (ordered : InOrder defs) {a b : Definition}
    (left : a ∈ defs) (right : b ∈ defs) (precedes : a.nestingKey.lt b.nestingKey = true) :
    a.id < b.id := by
  have forward : defs.Pairwise fun a b => a.nestingKey.lt b.nestingKey = true → a.id < b.id :=
    ordered.imp fun before _ => before.2
  have backward : defs.Pairwise fun a b => b.nestingKey.lt a.nestingKey = true → b.id < a.id :=
    ordered.imp fun before after =>
      absurd (NestingKey.lt_trans before.1 after) (NestingKey.lt_irrefl _)
  have same : ∀ a ∈ defs, a.nestingKey.lt a.nestingKey = true → a.id < a.id :=
    fun a _ circle => absurd circle (NestingKey.lt_irrefl _)
  exact forward.forall_of_forall_of_flip same backward left right precedes

theorem InOrder.newChildren_increasing {defs : List Definition} (nav : Navigator)
    (ordered : InOrder defs) (distinct : (defs.map (·.id)).Nodup) (e : Hierarchy.Entry) :
    (Hierarchy.newChildren nav defs e).Pairwise (· < ·) := by
  have nodup := Hierarchy.newChildren_nodup nav distinct e
  rw [Hierarchy.newChildren, List.Nodup, List.pairwise_map] at nodup
  rw [Hierarchy.newChildren, List.pairwise_map]
  have sorted := (Hierarchy.links_sorted nav defs).filter fun l => l.2.2 == e.2
  refine (nodup.and sorted).imp_of_mem ?_
  intro l m left right apart
  have source := (Hierarchy.mem_links.mp (List.mem_of_mem_filter left)).1
  have other := (Hierarchy.mem_links.mp (List.mem_of_mem_filter right)).1
  exact ordered.id_lt (List.fst_mem_of_mem_zipIdx source) (List.fst_mem_of_mem_zipIdx other)
    (NestingKey.lt_of_le_of_ne_tie apart.2 apart.1)

theorem Kind.passthrough_of_extractable : ∀ kind ∈ Kind.extractable, kind.passthrough = false := by
  decide

/-- The queries of the known languages find definitions only, never reports. -/
theorem Language.builtin_extractable :
    ∀ language ∈ Language.builtin, ∀ kind ∈ language.kinds, kind ∈ Kind.extractable := by
  decide

namespace Index

/-- What holds of the list of a tree's definitions, with a note at its end if the tree has errors. -/
structure Catalogued (defs : List Definition) : Prop where
  ids : defs.map (·.id) = List.range' 1 defs.length
  sorted : (defs.filter fun d => !d.kind.passthrough).Pairwise
    fun a b => (a.keyWith 0).le (b.keyWith 0) = true
  placed : ∀ d ∈ defs, d.kind.passthrough = false → d.Placed
  measured : ∀ d ∈ defs, d.Measured
  parents : ∀ d ∈ defs, ∀ id, d.parent = some id → id < d.id ∧
    ∃ p ∈ defs, p.id = id ∧ p.kind.container = true ∧ p.containsSpan d = true ∧
      p.children.count d.id = 1
  children : ∀ p ∈ defs, p.children.Pairwise (· < ·)
  note : ∀ r ∈ defs, r.kind.passthrough = true → r.kind = .metadata ∧ defs.getLast? = some r ∧
    r.startLine = 0 ∧ r.endLine = 0 ∧ r.loc = 0 ∧ r.parent = none ∧ r.children = []
  single : defs.countP (fun d => d.kind == .metadata) ≤ 1

theorem countP_metadata {defs : List Definition} (plain : ∀ d ∈ defs, d.kind.passthrough = false) :
    defs.countP (fun d => d.kind == .metadata) = 0 := by
  rw [List.countP_eq_zero]
  intro d member note
  have kind := plain d member
  rw [beq_iff_eq.mp note] at kind
  contradiction

theorem Catalogued.append_note {defs : List Definition} (valid : Catalogued defs)
    (plain : ∀ d ∈ defs, d.kind.passthrough = false) (text : String) :
    Catalogued (defs ++ [Definition.metadata (defs.length + 1) text]) where
  ids := by
    rw [List.map_append, valid.ids, List.length_append, List.length_singleton, List.range'_1_concat,
      Nat.add_comm 1]
    rfl
  sorted := by
    rw [List.filter_append]
    simpa [Definition.metadata, Definition.report, Kind.passthrough] using valid.sorted
  placed := by
    intro d member kind
    rcases List.mem_append.mp member with inside | note
    · exact valid.placed d inside kind
    · rw [List.mem_singleton.mp note] at kind
      contradiction
  measured := by
    intro d member
    rcases List.mem_append.mp member with inside | note
    · exact valid.measured d inside
    · rw [List.mem_singleton.mp note]
      exact ⟨fun callable => by contradiction, fun _ => ⟨rfl, rfl, rfl, rfl⟩⟩
  parents := by
    intro d member id parent
    rcases List.mem_append.mp member with inside | note
    · obtain ⟨less, p, holder, facts⟩ := valid.parents d inside id parent
      exact ⟨less, p, List.mem_append_left _ holder, facts⟩
    · rw [List.mem_singleton.mp note] at parent
      contradiction
  children := by
    intro p member
    rcases List.mem_append.mp member with inside | note
    · exact valid.children p inside
    · rw [List.mem_singleton.mp note]
      exact .nil
  note := by
    intro r member kind
    rcases List.mem_append.mp member with inside | note
    · rw [plain r inside] at kind
      contradiction
    · rw [List.mem_singleton.mp note]
      exact ⟨rfl, List.getLast?_concat, rfl, rfl, rfl, rfl, rfl⟩
  single := by
    rw [List.countP_append, countP_metadata plain, Nat.zero_add]
    exact List.countP_le_length

theorem catalogued_build (nav : Navigator) {defs : List Definition}
    (ids : defs.map (·.id) = List.range' 1 defs.length) (ordered : InOrder defs)
    (plain : ∀ d ∈ defs, d.kind.passthrough = false)
    (unlinked : ∀ d ∈ defs, d.parent = none ∧ d.children = [])
    (placed : ∀ d ∈ defs, d.Placed) (measured : ∀ d ∈ defs, d.Measured) :
    Catalogued (Hierarchy.build nav defs) := by
  have distinct : (defs.map (·.id)).Nodup := ids ▸ List.nodup_range'
  have nested := Hierarchy.build_nested nav (nested_of_unlinked distinct unlinked)
  have inOrder := ordered.build nav
  have sorted : (Hierarchy.build nav defs).Pairwise
      fun a b => (a.keyWith 0).le (b.keyWith 0) = true := by
    refine inOrder.imp ?_
    intro a b before
    rw [NestingKey.le_iff, NestingKey.lt_iff]
    have first := before.1
    rw [NestingKey.lt_iff] at first
    simp only [Definition.nestingKey, Definition.keyWith] at first ⊢
    omega
  have origin {d : Definition} (member : d ∈ Hierarchy.build nav defs) :
      ∃ e ∈ defs.zipIdx, e.1 ∈ defs ∧ Hierarchy.applyLinks (Hierarchy.links nav defs) e = d := by
    obtain ⟨e, entry, rfl⟩ := Hierarchy.mem_build.mp member
    exact ⟨e, entry, List.fst_mem_of_mem_zipIdx entry, rfl⟩
  have kinds : ∀ d ∈ Hierarchy.build nav defs, d.kind.passthrough = false := by
    intro d member
    obtain ⟨e, _, inside, rfl⟩ := origin member
    exact plain e.1 inside
  refine ⟨?_, sorted.filter _, ?_, ?_, ?_, ?_, ?_, ?_⟩
  · rw [Hierarchy.build_ids, ids, Hierarchy.build_length]
  · intro d member _
    obtain ⟨e, _, inside, rfl⟩ := origin member
    have facts := placed e.1 inside
    exact ⟨facts.starts, facts.ends, facts.loc, facts.name_filled, facts.name_trimmed, facts.modifier,
      facts.dataType, facts.value, facts.returnType, facts.types⟩
  · intro d member
    obtain ⟨e, _, inside, rfl⟩ := origin member
    exact ⟨(measured e.1 inside).callable, (measured e.1 inside).plain⟩
  · intro d child id parent
    obtain ⟨p, holder, rfl⟩ := nested.parent_mem d child id parent
    have encloses := nested.encloses d child p holder parent
    exact ⟨inOrder.id_lt holder child encloses.precedes, p, holder, rfl, encloses.container,
      encloses.spans, by rw [nested.count d child p holder, if_pos parent]⟩
  · intro p member
    obtain ⟨e, _, inside, rfl⟩ := origin member
    rw [Hierarchy.applyLinks_children, (unlinked e.1 inside).2, List.nil_append]
    exact ordered.newChildren_increasing nav distinct e
  · intro r member kind
    rw [kinds r member] at kind
    contradiction
  · rw [countP_metadata kinds]
    exact Nat.zero_le _

def completed (language : Language) (src : Source) (root : Place) : List Definition :=
  (Extracted.definitions language src root).map (Extracted.complete language src)

section

variable (language : Language) (src : Source) (root : Place)

theorem completed_ids : (completed language src root).map (·.id) =
    List.range' 1 (completed language src root).length := by
  have same : (fun d : Definition => d.id) ∘ Extracted.complete language src =
      fun e => e.definition.id := by
    funext e
    obtain ⟨_, _, _, _, eq⟩ := Extracted.complete_eq language src e
    simp only [Function.comp_apply, eq]
  rw [completed, List.map_map, same, Extracted.definitions_ids, List.length_map]

theorem completed_inOrder : InOrder (completed language src root) := by
  have ids : ((Extracted.definitions language src root).map (·.definition.id)).Pairwise (· < ·) := by
    rw [Extracted.definitions_ids]
    exact List.pairwise_lt_range'
  rw [List.pairwise_map] at ids
  rw [InOrder, completed, List.pairwise_map]
  refine (ids.and (Extracted.definitions_sorted language src root)).imp ?_
  rintro a b ⟨less, order⟩
  obtain ⟨_, _, _, _, left⟩ := Extracted.complete_eq language src a
  obtain ⟨_, _, _, _, right⟩ := Extracted.complete_eq language src b
  rw [left, right]
  refine ⟨?_, less⟩
  -- The two sort keys differ in their last part only, and there the ids decide.
  rw [NestingKey.le_iff, NestingKey.lt_iff] at order
  rw [NestingKey.lt_iff]
  simp only [Extracted.order, Definition.nestingKey, Definition.keyWith] at order ⊢
  omega

theorem completed_unlinked : ∀ d ∈ completed language src root, d.parent = none ∧ d.children = [] := by
  intro d member
  obtain ⟨e, found, rfl⟩ := List.mem_map.mp member
  obtain ⟨_, _, _, _, eq⟩ := Extracted.complete_eq language src e
  rw [eq]
  exact (Extracted.mem_definitions found).2.2.unlinked

end

theorem ofTree_eq (language : Language) (path : String) (src : Source) (root : Node) :
    ∃ nav text, ofTree language path src root =
      let linked := Hierarchy.build nav (completed language src (.root root))
      if root.faulty then linked ++ [Definition.metadata (linked.length + 1) text] else linked :=
  ⟨_, _, rfl⟩

theorem ofSource_cases (language? : Option Language) (path text : String) (tree : Option Node) :
    (∃ message, ofSource language? path text tree = [Definition.error 1 message]) ∨
    ∃ language root, language? = some language ∧ tree = some root ∧
      ofSource language? path text tree = ofTree language path (Source.ofText text) root := by
  unfold ofSource tryIndex
  cases language? with
  | none => exact .inl ⟨_, rfl⟩
  | some language =>
    by_cases empty : language.definitions.isEmpty = true
    · exact .inl ⟨_, by simp only [if_pos empty]; rfl⟩
    · cases tree with
      | none => exact .inl ⟨_, by simp only [if_neg empty]; rfl⟩
      | some root => exact .inr ⟨language, root, rfl, rfl, by simp only [if_neg empty]⟩

theorem ofTree_nested (language : Language) (path : String) (src : Source) (root : Node) :
    Nested (ofTree language path src root) := by
  have distinct : ((completed language src (.root root)).map (·.id)).Nodup := by
    rw [completed_ids]
    exact List.nodup_range'
  obtain ⟨nav, text, eq⟩ := ofTree_eq language path src root
  have linked := Hierarchy.build_nested nav (nested_of_unlinked distinct (completed_unlinked _ _ _))
  rw [eq]
  by_cases faulty : root.faulty = true
  · simp only [if_pos faulty]
    refine linked.append_report ?_ ⟨rfl, rfl⟩
    -- The ids end where the note's id starts.
    intro d member same
    have listed : d.id ∈ (Hierarchy.build nav (completed language src (.root root))).map (·.id) :=
      List.mem_map_of_mem member
    rw [Hierarchy.build_ids, completed_ids, List.mem_range'_1, ← Hierarchy.build_length nav] at listed
    simp only [Definition.metadata, Definition.report] at same
    omega
  · simp only [if_neg faulty]
    exact linked

/-- Whatever the language and the tree, the links of an index agree in both directions. -/
theorem ofSource_nested (language? : Option Language) (path text : String) (tree : Option Node) :
    Nested (ofSource language? path text tree) := by
  rcases ofSource_cases language? path text tree with ⟨message, eq⟩ | ⟨language, root, _, _, eq⟩
  · rw [eq]
    refine nested_of_unlinked (List.nodup_singleton _) ?_
    intro d member
    rw [List.mem_singleton.mp member]
    exact ⟨rfl, rfl⟩
  · rw [eq]
    exact ofTree_nested language path _ root

theorem ofTree_catalogued {language : Language} (path : String) (src : Source) {root : Node}
    (extractable : ∀ kind ∈ language.kinds, kind ∈ Kind.extractable) (ordered : root.Ordered) :
    Catalogued (ofTree language path src root) ∧
      ((∃ r ∈ ofTree language path src root, r.kind = .metadata) ↔ root.faulty = true) := by
  have plain : ∀ d ∈ completed language src (.root root), d.kind.passthrough = false := by
    intro d member
    obtain ⟨e, found, rfl⟩ := List.mem_map.mp member
    obtain ⟨_, _, _, _, eq⟩ := Extracted.complete_eq language src e
    rw [eq]
    exact Kind.passthrough_of_extractable _ (extractable _ (Extracted.mem_definitions found).1)
  have placed : ∀ d ∈ completed language src (.root root), d.Placed := by
    intro d member
    obtain ⟨e, found, rfl⟩ := List.mem_map.mp member
    obtain ⟨_, within, described⟩ := Extracted.mem_definitions found
    exact Extracted.complete_placed described (ordered _ (Place.mem_subtree.mpr within))
  have measured : ∀ d ∈ completed language src (.root root), d.Measured := by
    intro d member
    obtain ⟨e, found, rfl⟩ := List.mem_map.mp member
    exact Extracted.complete_measured (Extracted.mem_definitions found).2.2
  obtain ⟨nav, text, eq⟩ := ofTree_eq language path src root
  have linked := catalogued_build nav (completed_ids ..) (completed_inOrder ..) plain
    (completed_unlinked _ _ _) placed measured
  have kinds : ∀ d ∈ Hierarchy.build nav (completed language src (.root root)),
      d.kind.passthrough = false := by
    intro d member
    obtain ⟨e, entry, rfl⟩ := Hierarchy.mem_build.mp member
    exact plain e.1 (List.fst_mem_of_mem_zipIdx entry)
  rw [eq]
  by_cases faulty : root.faulty = true
  · simp only [if_pos faulty]
    refine ⟨linked.append_note kinds text, fun _ => faulty, fun _ => ?_⟩
    exact ⟨_, List.mem_append_right _ (List.mem_singleton.mpr rfl), rfl⟩
  · simp only [if_neg faulty]
    refine ⟨linked, ?_, fun h => absurd h faulty⟩
    rintro ⟨r, member, kind⟩
    have other := kinds r member
    rw [kind] at other
    contradiction

/-- An index is one error entry that stands for no line, or a list in which ids, order, lines, texts,
measures, links and notes are as they should be. -/
theorem ofSource_well_formed (language? : Option Language) (path text : String) (tree : Option Node)
    (extractable : ∀ language ∈ language?, ∀ kind ∈ language.kinds, kind ∈ Kind.extractable)
    (ordered : ∀ root ∈ tree, root.Ordered) :
    (∃ e, ofSource language? path text tree = [e] ∧ e.kind = .error ∧ e.id = 1 ∧
      e.startLine = 0 ∧ e.endLine = 0) ∨
    (Catalogued (ofSource language? path text tree) ∧
      ((∃ r ∈ ofSource language? path text tree, r.kind = .metadata) ↔
        ∃ root ∈ tree, root.faulty = true)) := by
  rcases ofSource_cases language? path text tree with ⟨message, eq⟩ | ⟨language, root, rfl, rfl, eq⟩
  · exact .inl ⟨_, eq, rfl, rfl, rfl, rfl⟩
  · have catalogued := ofTree_catalogued path (Source.ofText text) (extractable language rfl)
      (ordered root rfl)
    rw [← eq] at catalogued
    exact .inr ⟨catalogued.1, catalogued.2.trans (by simp)⟩

/-- A class whose closing brace is missing: the index has a note, so it is no error entry. -/
theorem ofSource_well_formed_unclosed :
    let name : Node := ⟨"identifier", some "name", ⟨6, 7⟩, true, false, false, false, []⟩
    let declaration : Node :=
      ⟨"class_declaration", none, ⟨0, 9⟩, true, false, false, true, [name]⟩
    let root : Node := ⟨"program", none, ⟨0, 9⟩, true, false, false, true, [declaration]⟩
    root.Ordered ∧ (∀ kind ∈ Language.javascript.kinds, kind ∈ Kind.extractable) ∧
    Catalogued (ofSource (some Language.javascript) "a.js" "class A \x7b" (some root)) := by
  intro name declaration root
  have ordered : root.Ordered := by
    unfold Node.Ordered
    decide
  have extractable : ∀ kind ∈ Language.javascript.kinds, kind ∈ Kind.extractable :=
    Language.builtin_extractable _ List.mem_cons_self
  refine ⟨ordered, extractable, ?_⟩
  have wellFormed := ofSource_well_formed (some Language.javascript) "a.js" "class A \x7b" (some root)
    (fun language same => Option.some.inj same ▸ extractable)
    (fun tree same => Option.some.inj same ▸ ordered)
  rcases wellFormed with ⟨e, single, kind, _⟩ | ⟨catalogued, _⟩
  · have last := congrArg List.getLast? single
    change (_ ++ [_]).getLast? = [e].getLast? at last
    rw [List.getLast?_concat, List.getLast?_singleton] at last
    rw [← Option.some.inj last] at kind
    contradiction
  · exact catalogued

end Index

end SourceOutline

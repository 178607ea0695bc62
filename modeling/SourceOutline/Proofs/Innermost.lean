import SourceOutline.Proofs.Siblings

/-! Containers between a definition and its parent. The search for a parent passes over one of these only
on shared lines: if it has all the lines of the parent and does not outrank it, or just the lines of the
definition and does not outrank that. -/
namespace SourceOutline

namespace Extracted

/-- `q` is a container anchored above `e` and below `p`. -/
structure Between (p q e : Extracted) : Prop where
  container : q.definition.kind.container = true
  above : q.anchor ∈ e.anchor.ancestors
  below : p.anchor ∈ q.anchor.ancestors

/-- The definition has the lines of the other and ranks no higher. -/
structure Levels (q d : Extracted) : Prop where
  span : q.definition.span = d.definition.span
  rank : d.definition.kind.rank ≤ q.definition.kind.rank

variable {src : Source} {root : Node} {es : List Extracted} {e p q : Extracted}

theorem levels_of_not_encloses (container : q.definition.kind.container = true)
    (spans : q.definition.span.contains e.definition.span = true)
    (free : ¬ Encloses q.definition e.definition) : Levels q e := by
  have later : ¬ q.definition.nestingKey.lt e.definition.nestingKey = true :=
    fun precedes => free ⟨container, spans, precedes⟩
  rw [NestingKey.lt_iff] at later
  simp only [Definition.span, LineSpan.contains_iff, Definition.nestingKey, Definition.keyWith] at spans later
  constructor
  · rw [Definition.span, Definition.span, LineSpan.mk.injEq]
    omega
  · omega

theorem precedes_of_rank (same : q.definition.span = p.definition.span)
    (less : q.definition.kind.rank < p.definition.kind.rank) :
    q.definition.nestingKey.lt p.definition.nestingKey = true := by
  rw [NestingKey.lt_iff]
  simp only [Definition.span, LineSpan.mk.injEq] at same
  simp only [Definition.nestingKey, Definition.keyWith]
  omega

/-- What the search passes over on its way to a parent is level with the parent or with the child. -/
theorem Chosen.levels_between (anchored : Anchored src root es)
    (ordered : ∀ a ∈ es, ∀ b ∈ es, a.definition.nestingKey.lt b.definition.nestingKey = true →
      a.definition.id < b.definition.id)
    (member : e ∈ es) (chosen : Chosen src es e p) (inside : q ∈ es) (between : Between p q e) :
    Levels q p ∨ Levels q e := by
  have onWay : q.anchor ∈ e.anchor.outward := Place.mem_outward_of_above between.above
  by_cases encloses : Encloses q.definition e.definition
  · have wider := chosen.within anchored member inside encloses onWay
    have narrower := anchored.contains inside (Place.mem_outward_of_above between.below)
    rw [← anchored.span p chosen.member] at narrower
    have same : q.definition.span = p.definition.span := LineSpan.contains_antisymm wider narrower
    have least := chosen.least q inside encloses same
    refine .inl ⟨same, ?_⟩
    by_contra outranks
    have earlier := ordered q inside p chosen.member (precedes_of_rank same (Nat.lt_of_not_le outranks))
    omega
  · have spans := anchored.contains member onWay
    rw [← anchored.span q inside] at spans
    exact .inr (levels_of_not_encloses between.container spans encloses)

/-- A test by addresses: `q` stands between, and `p` is listed first of all that enclose `e`, which are on
the lines of one node around `e`. -/
def PassedOver (src : Source) (es : List Extracted) (p q e : Extracted) : Prop :=
  Encloses p.definition e.definition ∧
  (∀ c ∈ es, Encloses c.definition e.definition →
    c.definition.span = p.definition.span ∧ p.definition.id ≤ c.definition.id) ∧
  (∃ b ∈ e.anchor.outward, p.definition.span = src.span b) ∧
  q.definition.kind.container = true ∧
  q.anchor.address ∈ e.anchor.ancestors.map Place.address ∧
  p.anchor.address ∈ q.anchor.ancestors.map Place.address

instance (src : Source) (es : List Extracted) (p q e : Extracted) : Decidable (PassedOver src es p q e) :=
  inferInstanceAs (Decidable (_ ∧ _))

theorem definitions_id_lt {language : Language} {src : Source} {root : Place}
    (left : p ∈ definitions language src root) (right : q ∈ definitions language src root)
    (precedes : p.definition.nestingKey.lt q.definition.nestingKey = true) :
    p.definition.id < q.definition.id := by
  have less := (Index.completed_inOrder language src root).id_lt (List.mem_map_of_mem left)
    (List.mem_map_of_mem right) (by simpa using precedes)
  simpa using less

end Extracted

namespace Index

open Extracted

theorem exists_chosen {language : Language}
    (extractable : ∀ kind ∈ language.kinds, kind ∈ Kind.extractable) {path text : String} {root : Node}
    {d : Definition} (listed : d ∈ ofSource (some language) path text (some root)) {id : Nat}
    (parent : d.parent = some id) :
    ∃ e ∈ definitions language (Source.ofText text) (.root root), ∃ p, d.id = e.definition.id ∧
      id = p.definition.id ∧
      Chosen (Source.ofText text) (definitions language (Source.ofText text) (.root root)) e p := by
  have plain : d.kind.passthrough = false := by
    by_contra report
    have free := (ofSource_nested _ path text _).reports d listed (by simpa using report)
    simp [free.1] at parent
  obtain ⟨e, member, same⟩ :=
    exists_find_of_unlink (ofSource_unlink extractable path text root) listed plain
  rw [ofSource_eq_ofTree path text root (queries_of_mem_definitions member)] at listed
  rcases ofTree_parent_cases extractable member listed same with ⟨none, _⟩ | ⟨p, chosen, named⟩
  · simp [none] at parent
  · exact ⟨e, member, p, same, Option.some.inj (parent.symm.trans named), chosen⟩

theorem exists_passedOver {language : Language}
    (extractable : ∀ kind ∈ language.kinds, kind ∈ Kind.extractable) (path : String) {text : String}
    {root : Node} :
    let es := definitions language (Source.ofText text) (.root root)
    (∃ p ∈ es, ∃ q ∈ es, ∃ e ∈ es, PassedOver (Source.ofText text) es p q e) →
      ∃ d ∈ ofSource (some language) path text (some root), ∃ e ∈ es, ∃ p ∈ es, ∃ q ∈ es,
        d.id = e.definition.id ∧ d.parent = some p.definition.id ∧ Between p q e := by
  intro es passed
  obtain ⟨p, outer, q, middle, e, inner, encloses, first, ⟨b, onWay, lines⟩, container, above, below⟩ :=
    passed
  have place {x : Extracted} (member : x ∈ es) := (mem_definitions member).2.1
  rw [← (place middle).mem_ancestors_iff (place inner)] at above
  rw [← (place outer).mem_ancestors_iff (place middle)] at below
  obtain ⟨d, listed, same⟩ := exists_mem_of_unlink (ofSource_unlink extractable path text root) inner
  refine ⟨d, listed, e, inner, p, outer, q, middle, same, ?_, container, above, below⟩
  rw [ofSource_eq_ofTree _ _ _ (queries_of_mem_definitions inner)] at listed
  rcases ofTree_parent_cases extractable inner listed same with ⟨_, passes⟩ | ⟨c, chosen, parent⟩
  · exact absurd lines (passes b onWay p outer encloses)
  · obtain ⟨level, less⟩ := first c chosen.member chosen.encloses
    have least := chosen.least p outer encloses level.symm
    rw [parent, Nat.le_antisymm least less]

/-- In the known languages a container between a definition and its parent is level with one of them. -/
theorem ofSource_between_levels (language : Language) (known : language ∈ Language.builtin)
    (path text : String) (root : Node) (enclosing : root.Enclosing) :
    let es := definitions language (Source.ofText text) (.root root)
    ∀ d ∈ ofSource (some language) path text (some root), ∀ id, d.parent = some id →
      ∃ e ∈ es, ∃ p ∈ es, d.id = e.definition.id ∧ id = p.definition.id ∧
        ∀ q ∈ es, Between p q e → Levels q p ∨ Levels q e := by
  intro es d listed id parent
  have anchored := definitions_anchored language text enclosing fun _ => anchor_filled known enclosing
  obtain ⟨e, member, p, child, holder, chosen⟩ :=
    exists_chosen (Language.builtin_extractable language known) listed parent
  refine ⟨e, member, p, chosen.member, child, holder, ?_⟩
  intro q inside between
  refine chosen.levels_between anchored ?_ member inside between
  exact fun a left b right precedes => definitions_id_lt left right precedes

/-- A function inside a method, on its line: the function outranks the method, so the class around both
becomes its parent. -/
theorem ofSource_between_levels_method :
    let part (kind field : String) (start stop : Nat) (children : List Node) : Node :=
      ⟨kind, some field, ⟨start, stop⟩, true, false, false, false, children⟩
    let whole (kind : String) (start stop : Nat) (children : List Node) : Node :=
      ⟨kind, none, ⟨start, stop⟩, true, false, false, false, children⟩
    let function := whole "function_declaration" 18 33
      [part "identifier" "name" 27 28 [], part "formal_parameters" "parameters" 28 30 [],
        part "statement_block" "body" 31 33 []]
    let method := whole "method_definition" 12 35
      [part "property_identifier" "name" 12 13 [], part "formal_parameters" "parameters" 13 15 [],
        part "statement_block" "body" 16 35 [function]]
    let root := whole "program" 0 37 [whole "class_declaration" 0 37
      [part "identifier" "name" 6 7 [], part "class_body" "body" 8 37 [method]]]
    let text := "class A \x7b\n  m() \x7b function f() \x7b\x7d \x7d\n\x7d"
    let es := definitions Language.javascript (Source.ofText text) (.root root)
    root.Enclosing ∧
    ∃ d ∈ ofSource (some Language.javascript) "a.js" text (some root), ∃ id, d.parent = some id ∧
      ∃ e ∈ es, ∃ p ∈ es, ∃ q ∈ es, d.id = e.definition.id ∧ id = p.definition.id ∧
        Between p q e ∧ (Levels q p ∨ Levels q e) := by
  intro part whole function method root text es
  have enclosing : root.Enclosing := by
    unfold Node.Enclosing
    decide
  have extractable := Language.builtin_extractable Language.javascript List.mem_cons_self
  have found : es = numberFrom 1 _ := definitions_of_sorted (by decide +kernel) rfl (by decide +kernel)
  have passed : ∃ p ∈ es, ∃ q ∈ es, ∃ e ∈ es, PassedOver (Source.ofText text) es p q e := by
    rw [found]
    decide +kernel
  obtain ⟨d, listed, e, inner, p, outer, q, middle, child, parent, between⟩ :=
    exists_passedOver extractable "a.js" passed
  obtain ⟨e', inside, p', holder, same, sameToo, levels⟩ := ofSource_between_levels Language.javascript
    List.mem_cons_self "a.js" text root enclosing d listed _ parent
  have distinct : (es.map (·.definition.id)).Nodup := definitions_ids .. ▸ List.nodup_range'
  obtain rfl := List.inj_on_of_nodup_map distinct inner inside (child.symm.trans same)
  obtain rfl := List.inj_on_of_nodup_map distinct outer holder sameToo
  exact ⟨enclosing, d, listed, _, parent, e, inner, p, outer, q, middle, child, rfl, between,
    levels q middle between⟩

/-- A namespace, a class in it and a method of the class, all on one line: the method is put under the
namespace. -/
theorem ofSource_parent_not_smallest :
    let token (kind : String) (start stop : Nat) : Node :=
      ⟨kind, none, ⟨start, stop⟩, false, false, false, false, []⟩
    let part (kind field : String) (start stop : Nat) (children : List Node) : Node :=
      ⟨kind, some field, ⟨start, stop⟩, true, false, false, false, children⟩
    let whole (kind : String) (start stop : Nat) (children : List Node) : Node :=
      ⟨kind, none, ⟨start, stop⟩, true, false, false, false, children⟩
    let method := whole "method_definition" 24 30
      [part "property_identifier" "name" 24 25 [],
        part "formal_parameters" "parameters" 25 27 [token "(" 25 26, token ")" 26 27],
        part "statement_block" "body" 28 30 [token "\x7b" 28 29, token "\x7d" 29 30]]
    let declaration := whole "class_declaration" 14 32
      [token "class" 14 19, part "type_identifier" "name" 20 21 [],
        part "class_body" "body" 22 32 [token "\x7b" 22 23, method, token "\x7d" 31 32]]
    let namespace_ := whole "internal_module" 0 34
      [token "namespace" 0 9, part "identifier" "name" 10 11 [],
        part "statement_block" "body" 12 34 [token "\x7b" 12 13, declaration, token "\x7d" 33 34]]
    let root := whole "program" 0 34 [whole "expression_statement" 0 34 [namespace_]]
    let text := "namespace N \x7b class A \x7b m() \x7b\x7d \x7d \x7d"
    let es := definitions Language.typescript (Source.ofText text) (.root root)
    root.Enclosing ∧ root.Sequential ∧
    ∃ d ∈ ofSource (some Language.typescript) "a.ts" text (some root), ∃ e ∈ es, ∃ p ∈ es, ∃ q ∈ es,
      d.id = e.definition.id ∧ d.parent = some p.definition.id ∧ Between p q e := by
  intro token part whole method declaration namespace_ root text es
  have enclosing : root.Enclosing := by
    unfold Node.Enclosing
    decide
  have sequential : root.Sequential := by
    unfold Node.Sequential
    decide
  have extractable := Language.builtin_extractable Language.typescript (by simp [Language.builtin])
  have found : es = numberFrom 1 _ := definitions_of_sorted (by decide +kernel) rfl (by decide +kernel)
  have passed : ∃ p ∈ es, ∃ q ∈ es, ∃ e ∈ es, PassedOver (Source.ofText text) es p q e := by
    rw [found]
    decide +kernel
  exact ⟨enclosing, sequential, exists_passedOver extractable "a.ts" passed⟩

end Index

end SourceOutline

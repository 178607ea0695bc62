import SourceOutline.Proofs.Anchors
import SourceOutline.Proofs.Search

/-! Parents by lines, and parents by nodes. Where definitions that share a line lie one inside the other,
on different lines, the search by lines finds the container at the nearest node above. -/
namespace SourceOutline

namespace Extracted

/-- The definitions stand at places of a tree whose nodes reach over their children, on the lines of
these places; there is text at each. -/
structure Anchored (src : Source) (root : Node) (es : List Extracted) : Prop where
  breaks : src.breaks.Nodup
  enclosing : root.Enclosing
  distinct : (es.map (·.definition.id)).Nodup
  within : ∀ e ∈ es, (Place.root root).Within e.anchor
  filled : ∀ e ∈ es, e.anchor.node.range.Filled
  span : ∀ e ∈ es, e.definition.span = src.span e.anchor

theorem definitions_anchored (language : Language) (text : String) {root : Node}
    (enclosing : root.Enclosing)
    (filled : ∀ e ∈ definitions language (Source.ofText text) (.root root), e.anchor.node.range.Filled) :
    Anchored (Source.ofText text) root (definitions language (Source.ofText text) (.root root)) where
  breaks := Source.ofText_breaks_nodup text
  enclosing := enclosing
  distinct := definitions_ids .. ▸ List.nodup_range'
  within _ member := (mem_definitions member).2.1
  filled := filled
  span _ member := (mem_definitions member).2.2.span

variable {src : Source} {root : Node} {es : List Extracted} {e p : Extracted} {a b : Place}

theorem Anchored.span_contains (anchored : Anchored src root es) (member : e ∈ es)
    (onWay : a ∈ e.anchor.outward) (above : b ∈ a.outward) :
    (src.span b).contains (src.span a) = true := by
  obtain ⟨upper, lower⟩ := (anchored.within e member).of_mem_outward onWay
  exact Place.span_contains anchored.breaks anchored.enclosing upper
    ((upper.covers anchored.enclosing lower).filled (anchored.filled e member)) above

theorem Anchored.contains (anchored : Anchored src root es) (member : e ∈ es)
    (above : a ∈ e.anchor.outward) : (src.span a).contains e.definition.span = true := by
  rw [anchored.span e member]
  exact anchored.span_contains member List.mem_cons_self above

theorem Anchored.first_le_last (anchored : Anchored src root es) (member : e ∈ es) :
    e.definition.span.first ≤ e.definition.span.last := by
  rw [anchored.span e member]
  exact src.first_le_last (Nat.le_of_lt (anchored.filled e member))

theorem Anchored.eq_of_id (anchored : Anchored src root es) (left : p ∈ es) (right : e ∈ es)
    (same : p.definition.id = e.definition.id) : p = e :=
  List.inj_on_of_nodup_map anchored.distinct left right same

theorem Anchored.apart_of_encloses (anchored : Anchored src root es) (left : p ∈ es) (right : e ∈ es)
    (encloses : Encloses p.definition e.definition) :
    p.definition.id ≠ e.definition.id ∧ p.definition.span.Meets e.definition.span := by
  refine ⟨?_, LineSpan.meets_of_contains encloses.spans (anchored.first_le_last right)⟩
  intro same
  obtain rfl := anchored.eq_of_id left right same
  exact NestingKey.lt_irrefl _ encloses.precedes

/-- Definitions that share a line lie one inside the other, and not on the same lines. -/
def Separated (es : List Extracted) : Prop :=
  ∀ e ∈ es, ∀ f ∈ es, e.definition.id ≠ f.definition.id →
    e.definition.span.Meets f.definition.span →
      (e.anchor ∈ f.anchor.ancestors ∨ f.anchor ∈ e.anchor.ancestors) ∧
        e.definition.span ≠ f.definition.span

theorem separated_of_addresses
    (within : ∀ e ∈ es, (Place.root root).Within e.anchor)
    (apart : ∀ e ∈ es, ∀ f ∈ es, e.definition.id ≠ f.definition.id →
      e.definition.span.Meets f.definition.span →
        (e.anchor.address ∈ f.anchor.ancestors.map Place.address ∨
          f.anchor.address ∈ e.anchor.ancestors.map Place.address) ∧
        e.definition.span ≠ f.definition.span) : Separated es := by
  intro e left f right differ meets
  rw [(within e left).mem_ancestors_iff (within f right),
    (within f right).mem_ancestors_iff (within e left)]
  exact apart e left f right differ meets

theorem Anchored.span_ne (anchored : Anchored src root es) (separated : Separated es) (left : p ∈ es)
    (right : e ∈ es) (apart : p.definition.id ≠ e.definition.id)
    (spans : p.definition.span.contains e.definition.span = true) :
    p.definition.span ≠ e.definition.span :=
  (separated p left e right apart (LineSpan.meets_of_contains spans (anchored.first_le_last right))).2

/-- `p` is a container at the nearest place above `e` at which there is one. -/
structure NearestContainer (es : List Extracted) (p e : Extracted) : Prop where
  member : p ∈ es
  container : p.definition.kind.container = true
  above : p.anchor ∈ e.anchor.ancestors
  nearest : ∀ c ∈ es, c.definition.kind.container = true → c.anchor ∈ e.anchor.ancestors →
    c.anchor ∈ p.anchor.outward

theorem Anchored.encloses_of_above (anchored : Anchored src root es) (separated : Separated es)
    (left : p ∈ es) (right : e ∈ es) (container : p.definition.kind.container = true)
    (above : p.anchor ∈ e.anchor.ancestors) : Encloses p.definition e.definition := by
  have spans := anchored.contains right (Place.mem_outward_of_above above)
  rw [← anchored.span p left] at spans
  have apart : p.definition.id ≠ e.definition.id := by
    intro same
    obtain rfl := anchored.eq_of_id left right same
    exact p.anchor.not_mem_ancestors above
  have differ := anchored.span_ne separated left right apart spans
  refine ⟨container, spans, ?_⟩
  rw [NestingKey.lt_iff]
  simp only [Definition.span, LineSpan.contains_iff, ne_eq, LineSpan.mk.injEq, Definition.nestingKey,
    Definition.keyWith] at spans differ ⊢
  omega

/-- The search never ends at a container below: its lines would be those of the definition. -/
theorem Chosen.above (anchored : Anchored src root es) (separated : Separated es) (member : e ∈ es)
    (chosen : Chosen src es e p) : p.anchor ∈ e.anchor.ancestors := by
  obtain ⟨apart, meets⟩ := anchored.apart_of_encloses chosen.member member chosen.encloses
  obtain ⟨up | down, differ⟩ := separated p chosen.member e member apart meets
  · exact up
  · have inside := anchored.contains chosen.member (Place.mem_outward_of_above down)
    rw [← anchored.span e member] at inside
    exact absurd (LineSpan.contains_antisymm chosen.encloses.spans inside) differ

theorem Chosen.within (anchored : Anchored src root es) (member : e ∈ es) (chosen : Chosen src es e p)
    {q : Extracted} (inside : q ∈ es) (encloses : Encloses q.definition e.definition)
    (onWay : q.anchor ∈ e.anchor.outward) : q.definition.span.contains p.definition.span = true := by
  -- What encloses a definition from above has at least the lines at which the search ends.
  obtain ⟨inner, a, outer, way, lines, passed⟩ := chosen.found
  have later : q.anchor ∈ a.outward := by
    have upward := e.anchor.outward_pairwise
    rw [way] at onWay upward
    rcases List.mem_append.mp onWay with before | after
    · exact absurd (anchored.span q inside) (passed q.anchor before q inside encloses)
    · rcases List.mem_cons.mp after with here | beyond
      · exact here ▸ List.mem_cons_self
      · exact (List.pairwise_cons.mp (List.pairwise_append.mp upward).2.1).1 _ beyond
  rw [anchored.span q inside, lines]
  exact anchored.span_contains member (way ▸ List.mem_append_right _ List.mem_cons_self) later

/-- Where the search ends there is the nearest container. -/
theorem Chosen.nearest (anchored : Anchored src root es) (separated : Separated es) (member : e ∈ es)
    (chosen : Chosen src es e p) : NearestContainer es p e := by
  have above := chosen.above anchored separated member
  refine ⟨chosen.member, chosen.encloses.container, above, ?_⟩
  intro c inside container aboveToo
  have onWay : c.anchor ∈ e.anchor.outward := Place.mem_outward_of_above aboveToo
  rcases Place.outward_total onWay (Place.mem_outward_of_above above) with up | down
  · exact up
  · -- The search has not passed `c`, so `c` has the lines at which it ends, which are those of `p`.
    have encloses := anchored.encloses_of_above separated inside member container aboveToo
    have wider := chosen.within anchored member inside encloses onWay
    have narrower : p.definition.span.contains c.definition.span = true := by
      rw [anchored.span p chosen.member]
      exact anchored.contains inside down
    have same : c.definition.id = p.definition.id := by
      by_contra apart
      exact anchored.span_ne separated inside chosen.member apart wider
        (LineSpan.contains_antisymm wider narrower)
    rw [anchored.eq_of_id inside chosen.member same]
    exact List.mem_cons_self

theorem NearestContainer.unique (anchored : Anchored src root es) (separated : Separated es)
    {q : Extracted} (first : NearestContainer es p e) (second : NearestContainer es q e) : p = q := by
  have up := second.nearest p first.member first.container first.above
  have down := first.nearest q second.member second.container second.above
  have same : p.anchor = q.anchor := by
    by_contra apart
    have above := Place.depth_lt (Place.mem_ancestors_of_ne up apart)
    have below := Place.depth_lt (Place.mem_ancestors_of_ne down (Ne.symm apart))
    exact Nat.lt_asymm above below
  refine anchored.eq_of_id first.member second.member ?_
  by_contra apart
  have spans : p.definition.span = q.definition.span := by
    rw [anchored.span p first.member, anchored.span q second.member, same]
  exact anchored.span_ne separated first.member second.member apart
    (spans ▸ LineSpan.contains_refl _) spans

theorem not_above_of_passes (anchored : Anchored src root es) (separated : Separated es)
    (member : e ∈ es) (passes : ∀ b ∈ e.anchor.outward, Passes src es e b) (inside : p ∈ es)
    (container : p.definition.kind.container = true) : p.anchor ∉ e.anchor.ancestors := by
  intro above
  exact passes p.anchor (Place.mem_outward_of_above above) p inside
    (anchored.encloses_of_above separated inside member container above) (anchored.span p inside)

end Extracted

namespace Index

open Extracted

/-- Where definitions that share a line lie one inside the other, on different lines, the parent of each
is the container at the nearest node above its own that has one. That no anchor is empty holds of all
known languages. -/
theorem ofSource_parent_nearest (language : Language)
    (extractable : ∀ kind ∈ language.kinds, kind ∈ Kind.extractable) (path text : String) (root : Node)
    (enclosing : root.Enclosing)
    (filled : ∀ e ∈ definitions language (Source.ofText text) (.root root), e.anchor.node.range.Filled)
    (separated : Separated (definitions language (Source.ofText text) (.root root))) :
    let es := definitions language (Source.ofText text) (.root root)
    let defs := ofSource (some language) path text (some root)
    (defs.filter fun d => !d.kind.passthrough).map Definition.unlink =
      es.map (complete language (Source.ofText text)) ∧
    (∀ e ∈ es, ∀ d ∈ defs, d.id = e.definition.id →
      (∀ p ∈ es, d.parent = some p.definition.id ↔ NearestContainer es p e) ∧
      (d.parent = none ↔
        ∀ c ∈ es, c.definition.kind.container = true → c.anchor ∉ e.anchor.ancestors)) ∧
    ∀ known ∈ Language.builtin, ∀ e ∈ definitions known (Source.ofText text) (.root root),
      e.anchor.node.range.Filled := by
  intro es defs
  have anchored := definitions_anchored language text enclosing filled
  refine ⟨ofSource_unlink extractable path text root, ?_, fun _ known _ => anchor_filled known enclosing⟩
  intro e member d listed same
  rw [show defs = _ from ofSource_eq_ofTree path text root (queries_of_mem_definitions member)] at listed
  rcases ofTree_parent_cases extractable member listed same with ⟨none, passes⟩ | ⟨q, chosen, parent⟩
  · have free : ∀ c ∈ es, c.definition.kind.container = true → c.anchor ∉ e.anchor.ancestors :=
      fun c inside => not_above_of_passes anchored separated member passes inside
    refine ⟨fun p _ => ?_, iff_of_true none free⟩
    rw [none]
    exact ⟨nofun, fun near => absurd near.above (free p near.member near.container)⟩
  · have nearest := chosen.nearest anchored separated member
    refine ⟨fun p inside => ?_, ?_⟩
    · rw [parent, Option.some.injEq]
      constructor
      · intro named
        rwa [← anchored.eq_of_id nearest.member inside named]
      · intro near
        rw [nearest.unique anchored separated near]
    · rw [parent]
      exact ⟨nofun, fun free => absurd nearest.above (free q nearest.member nearest.container)⟩

/-- A method on its own line, in a class around it: the class is its parent. -/
theorem ofSource_parent_nearest_method :
    let leaf (kind : String) (field : Option String) (start stop : Nat) : Node :=
      ⟨kind, field, ⟨start, stop⟩, true, false, false, false, []⟩
    let method : Node := ⟨"method_definition", none, ⟨12, 18⟩, true, false, false, false,
      [leaf "property_identifier" (some "name") 12 13,
        leaf "formal_parameters" (some "parameters") 13 15, leaf "statement_block" (some "body") 16 18]⟩
    let body : Node := ⟨"class_body", some "body", ⟨8, 20⟩, true, false, false, false, [method]⟩
    let declaration : Node := ⟨"class_declaration", none, ⟨0, 20⟩, true, false, false, false,
      [leaf "identifier" (some "name") 6 7, body]⟩
    let root : Node := ⟨"program", none, ⟨0, 20⟩, true, false, false, false, [declaration]⟩
    let text := "class A \x7b\n  m() \x7b\x7d\n\x7d"
    let es := definitions Language.javascript (Source.ofText text) (.root root)
    root.Enclosing ∧ (∀ e ∈ es, e.anchor.node.range.Filled) ∧ Separated es ∧
    ∃ d ∈ ofSource (some Language.javascript) "a.js" text (some root), d.id = 2 ∧ d.parent = some 1 := by
  intro leaf method body declaration root text es
  have enclosing : root.Enclosing := by
    unfold Node.Enclosing
    decide
  have extractable : ∀ kind ∈ Language.javascript.kinds, kind ∈ Kind.extractable :=
    Language.builtin_extractable _ List.mem_cons_self
  have filled : ∀ e ∈ es, e.anchor.node.range.Filled :=
    fun e => anchor_filled List.mem_cons_self enclosing
  have found : es = numberFrom 1 _ := definitions_of_sorted (by decide +kernel) rfl (by decide +kernel)
  have separated : Separated es := by
    refine separated_of_addresses (fun e member => (mem_definitions member).2.1) ?_
    rw [found]
    decide +kernel
  refine ⟨enclosing, filled, separated, ?_⟩
  have place (e : Extracted) (member : e ∈ es) := (mem_definitions member).2.1
  obtain ⟨p, inside, e, member, first, second, container, above, single⟩ : ∃ p ∈ es, ∃ e ∈ es,
      p.definition.id = 1 ∧ e.definition.id = 2 ∧ p.definition.kind.container = true ∧
      p.anchor.address ∈ e.anchor.ancestors.map Place.address ∧
      ∀ c ∈ es, c.anchor.address ∈ e.anchor.ancestors.map Place.address →
        c.anchor.address = p.anchor.address := by
    rw [found]
    decide +kernel
  rw [← (place p inside).mem_ancestors_iff (place e member)] at above
  have nearest : NearestContainer es p e := by
    refine ⟨inside, container, above, ?_⟩
    intro c among _ aboveToo
    rw [(place c among).mem_ancestors_iff (place e member)] at aboveToo
    rw [(place c among).eq_of_address (place p inside) (single c among aboveToo)]
    exact List.mem_cons_self
  obtain ⟨all_, parents, _⟩ := ofSource_parent_nearest Language.javascript extractable "a.js" text root
    enclosing filled separated
  obtain ⟨d, listed, id⟩ := exists_mem_of_unlink all_ member
  refine ⟨d, listed, id.trans second, ?_⟩
  rw [← first]
  exact ((parents e member d listed id).1 p inside).mpr nearest

end Index

end SourceOutline

import SourceOutline.Proofs.Parents

/-! Parents that are no ancestors. A definition may come to stand under one beside it, but only on shared
lines: on just the same ones, or on a single line, where the other one starts or ends. -/
namespace SourceOutline

namespace Extracted

/-- `e` has the lines of `p`, or is on one line, the first or the last of `p`. -/
def OnEdge (p e : Extracted) : Prop :=
  e.definition.span = p.definition.span ∨
  (e.definition.startLine = e.definition.endLine ∧
    (e.definition.startLine = p.definition.startLine ∨ e.definition.endLine = p.definition.endLine))

variable {src : Source} {root : Node} {es : List Extracted} {e p : Extracted}

theorem Chosen.above_or_onEdge (anchored : Anchored src root es) (sequential : root.Sequential)
    (member : e ∈ es) (chosen : Chosen src es e p) :
    p.anchor ∈ e.anchor.ancestors ∨ OnEdge p e := by
  have inside := chosen.member
  have spans := chosen.encloses.spans
  have ordered := anchored.first_le_last member
  rcases (anchored.within p inside).cases_pair anchored.enclosing sequential (anchored.within e member)
    with up | down | before | after
  · rcases Place.mem_outward.mp up with here | above
    · refine .inr (.inl ?_)
      rw [anchored.span e member, anchored.span p inside, here]
    · exact .inl above
  · have inner := anchored.contains inside down
    rw [← anchored.span e member] at inner
    exact .inr (.inl (LineSpan.contains_antisymm inner spans))
  · have edge := Source.last_le_first anchored.breaks (anchored.filled p inside)
      (anchored.filled e member) before
    rw [← Source.span, ← Source.span, ← anchored.span p inside, ← anchored.span e member] at edge
    simp only [Definition.containsSpan, LineSpan.contains_iff, Definition.span] at spans ordered edge
    exact .inr (.inr (by omega))
  · have edge := Source.last_le_first anchored.breaks (anchored.filled e member)
      (anchored.filled p inside) after
    rw [← Source.span, ← Source.span, ← anchored.span p inside, ← anchored.span e member] at edge
    simp only [Definition.containsSpan, LineSpan.contains_iff, Definition.span] at spans ordered edge
    exact .inr (.inr (by omega))

end Extracted

namespace Index

open Extracted

/-- A definition is put under the only container that encloses it, if that one has the lines of a node
around the definition. -/
theorem parent_of_single {language : Language}
    (extractable : ∀ kind ∈ language.kinds, kind ∈ Kind.extractable) (path : String) {text : String}
    {root : Node} {e p : Extracted} (member : e ∈ definitions language (Source.ofText text) (.root root))
    (inside : p ∈ definitions language (Source.ofText text) (.root root))
    (encloses : Encloses p.definition e.definition)
    (single : ∀ q ∈ definitions language (Source.ofText text) (.root root),
      Encloses q.definition e.definition → q.definition.id = p.definition.id)
    {b : Place} (above : b ∈ e.anchor.outward) (lines : p.definition.span = (Source.ofText text).span b) :
    ∃ d ∈ ofSource (some language) path text (some root),
      d.id = e.definition.id ∧ d.parent = some p.definition.id := by
  obtain ⟨d, listed, same⟩ :=
    exists_mem_of_unlink (ofSource_unlink extractable path text root) member
  refine ⟨d, listed, same, ?_⟩
  rw [ofSource_eq_ofTree _ _ _ (queries_of_mem_definitions member)] at listed
  rcases ofTree_parent_cases extractable member listed same with ⟨_, passes⟩ | ⟨q, chosen, parent⟩
  · exact absurd lines (passes b above p inside encloses)
  · rw [parent, single q chosen.member chosen.encloses]

/-- In the known languages a parent is anchored above its child, or has the child on its edge. -/
theorem ofSource_parent_above_or_onEdge (language : Language) (known : language ∈ Language.builtin)
    (path text : String) (root : Node) (enclosing : root.Enclosing) (sequential : root.Sequential) :
    let es := definitions language (Source.ofText text) (.root root)
    ∀ d ∈ ofSource (some language) path text (some root), ∀ id, d.parent = some id →
      ∃ e ∈ es, ∃ p ∈ es, d.id = e.definition.id ∧ id = p.definition.id ∧
        (p.anchor ∈ e.anchor.ancestors ∨ OnEdge p e) := by
  intro es d listed id parent
  have extractable := Language.builtin_extractable language known
  have anchored := definitions_anchored language text enclosing fun _ => anchor_filled known enclosing
  have plain : d.kind.passthrough = false := by
    by_contra report
    have free := (ofSource_nested _ path text _).reports d listed (by simpa using report)
    simp [free.1] at parent
  obtain ⟨e, member, same⟩ :=
    exists_find_of_unlink (ofSource_unlink extractable path text root) listed plain
  rw [ofSource_eq_ofTree path text root (queries_of_mem_definitions member)] at listed
  rcases ofTree_parent_cases extractable member listed same with ⟨none, _⟩ | ⟨p, chosen, named⟩
  · simp [none] at parent
  · refine ⟨e, member, p, chosen.member, same, ?_, chosen.above_or_onEdge anchored sequential member⟩
    exact Option.some.inj (parent.symm.trans named)

/-- A function that starts on the closing line of a class is put under the class, which has the lines of
the whole file. -/
theorem ofSource_parent_above_or_onEdge_closing :
    let part (kind field : String) (start stop : Nat) : Node :=
      ⟨kind, some field, ⟨start, stop⟩, true, false, false, false, []⟩
    let declaration : Node := ⟨"class_declaration", none, ⟨0, 11⟩, true, false, false, false,
      [part "identifier" "name" 6 7, part "class_body" "body" 8 11]⟩
    let function : Node := ⟨"function_declaration", none, ⟨12, 27⟩, true, false, false, false,
      [part "identifier" "name" 21 22, part "formal_parameters" "parameters" 22 24,
        part "statement_block" "body" 25 27]⟩
    let root : Node :=
      ⟨"program", none, ⟨0, 27⟩, true, false, false, false, [declaration, function]⟩
    let text := "class A \x7b\n\x7d function g() \x7b\x7d"
    let es := definitions Language.javascript (Source.ofText text) (.root root)
    root.Enclosing ∧ root.Sequential ∧
    ∃ d ∈ ofSource (some Language.javascript) "a.js" text (some root), ∃ id, d.parent = some id ∧
      ∃ e ∈ es, ∃ p ∈ es, d.id = e.definition.id ∧ id = p.definition.id ∧
        (p.anchor ∈ e.anchor.ancestors ∨ OnEdge p e) := by
  intro part declaration function root text es
  have enclosing : root.Enclosing := by
    unfold Node.Enclosing
    decide
  have sequential : root.Sequential := by
    unfold Node.Sequential
    decide
  have extractable := Language.builtin_extractable Language.javascript List.mem_cons_self
  have found : es = numberFrom 1 _ := definitions_of_sorted (by decide +kernel) rfl (by decide +kernel)
  obtain ⟨p, inside, e, member, encloses, single, b, above, lines⟩ : ∃ p ∈ es, ∃ e ∈ es,
      Encloses p.definition e.definition ∧
      (∀ q ∈ es, Encloses q.definition e.definition → q.definition.id = p.definition.id) ∧
      ∃ b ∈ e.anchor.outward, p.definition.span = (Source.ofText text).span b := by
    rw [found]
    decide +kernel
  obtain ⟨d, listed, _, parent⟩ :=
    parent_of_single extractable "a.js" member inside encloses single above lines
  exact ⟨enclosing, sequential, d, listed, _, parent, ofSource_parent_above_or_onEdge
    Language.javascript List.mem_cons_self "a.js" text root enclosing sequential d listed _ parent⟩

/-- Of two functions side by side on one line, the second is put under the first. -/
theorem ofSource_parent_not_above :
    let token (kind : String) (start stop : Nat) : Node :=
      ⟨kind, none, ⟨start, stop⟩, false, false, false, false, []⟩
    let part (kind field : String) (start stop : Nat) (children : List Node) : Node :=
      ⟨kind, some field, ⟨start, stop⟩, true, false, false, false, children⟩
    let function (start : Nat) : Node :=
      ⟨"function_declaration", none, ⟨start, start + 15⟩, true, false, false, false,
        [token "function" start (start + 8), part "identifier" "name" (start + 9) (start + 10) [],
          part "formal_parameters" "parameters" (start + 10) (start + 12)
            [token "(" (start + 10) (start + 11), token ")" (start + 11) (start + 12)],
          part "statement_block" "body" (start + 13) (start + 15)
            [token "\x7b" (start + 13) (start + 14), token "\x7d" (start + 14) (start + 15)]]⟩
    let root : Node :=
      ⟨"program", none, ⟨0, 31⟩, true, false, false, false, [function 0, function 16]⟩
    let text := "function f() \x7b\x7d function g() \x7b\x7d"
    let es := definitions Language.javascript (Source.ofText text) (.root root)
    root.Enclosing ∧ root.Sequential ∧
    ∃ d ∈ ofSource (some Language.javascript) "a.js" text (some root), ∃ e ∈ es, ∃ p ∈ es,
      d.id = e.definition.id ∧ d.parent = some p.definition.id ∧ p.anchor ∉ e.anchor.ancestors := by
  intro token part function root text es
  have enclosing : root.Enclosing := by
    unfold Node.Enclosing
    decide
  have sequential : root.Sequential := by
    unfold Node.Sequential
    decide
  have extractable := Language.builtin_extractable Language.javascript List.mem_cons_self
  have found : es = numberFrom 1 _ := definitions_of_sorted (by decide +kernel) rfl (by decide +kernel)
  obtain ⟨p, inside, e, member, encloses, single, beside, b, above, lines⟩ : ∃ p ∈ es, ∃ e ∈ es,
      Encloses p.definition e.definition ∧
      (∀ q ∈ es, Encloses q.definition e.definition → q.definition.id = p.definition.id) ∧
      p.anchor.address ∉ e.anchor.ancestors.map Place.address ∧
      ∃ b ∈ e.anchor.outward, p.definition.span = (Source.ofText text).span b := by
    rw [found]
    decide +kernel
  obtain ⟨d, listed, same, parent⟩ :=
    parent_of_single extractable "a.js" member inside encloses single above lines
  refine ⟨enclosing, sequential, d, listed, e, member, p, inside, same, parent, ?_⟩
  rwa [(mem_definitions inside).2.1.mem_ancestors_iff (mem_definitions member).2.1]

end Index

end SourceOutline

import SourceOutline.Index
import SourceOutline.Proofs.Distinct
import SourceOutline.Proofs.Nesting
import SourceOutline.Proofs.Places
import SourceOutline.Proofs.Text
import SourceOutline.Proofs.Walk

/-! What each definition of a tree has, from its match and from its subtree: its lines, its name and its
texts, and the parameters, calls and complexity of a callable. -/
namespace SourceOutline

namespace Source

theorem row_mono (src : Source) {a b : Nat} (le : a ≤ b) : src.row a ≤ src.row b := by
  apply List.countP_mono_left
  intro offset _ before
  simp only [decide_eq_true_eq] at before ⊢
  omega

theorem one_le_first (src : Source) (r : ByteRange) : 1 ≤ (src.lineSpan r).first := by
  simp [lineSpan]

theorem first_le_last (src : Source) {r : ByteRange} (ordered : r.start ≤ r.stop) :
    (src.lineSpan r).first ≤ (src.lineSpan r).last := by
  have rows := src.row_mono ordered
  simp only [lineSpan, Bool.and_eq_true, decide_eq_true_eq]
  split <;> omega

end Source

/-- No node of the tree ends before it starts, as in every tree that a parser makes. -/
def Node.Ordered (root : Node) : Prop :=
  ∀ p ∈ (Place.root root).subtree, p.node.range.start ≤ p.node.range.stop

namespace Extracted

/-- What a find has from its match alone: nothing yet of what its subtree adds. -/
structure Described (src : Source) (e : Extracted) : Prop where
  span : e.definition.span = src.span e.anchor
  loc : e.definition.loc = e.definition.endLine - e.definition.startLine + 1
  name_filled : e.definition.name ≠ ""
  name_trimmed : Text.trim e.definition.name = e.definition.name
  modifier : e.definition.modifier ≠ some ""
  dataType : e.definition.dataType ≠ some ""
  value : e.definition.value ≠ some ""
  returnType : e.definition.returnType ≠ some ""
  unlinked : e.definition.parent = none ∧ e.definition.children = []
  unmeasured : e.definition.complexity = 1 ∧ e.definition.parameterCount = 0 ∧
    e.definition.parameters = [] ∧ e.definition.calls = []

theorem last?_mem {m : Match} {name : String} {p : Place} (found : m.last? name = some p) :
    ∃ c ∈ m, c.name = name ∧ c.place = p := by
  obtain ⟨c, here, rfl⟩ := Option.map_eq_some_iff.mp found
  rw [List.findRev?_eq_findRev?TR] at here
  have named := List.find?_some here
  exact ⟨c, List.mem_reverse.mp (List.mem_of_find?_eq_some here), by simpa using named, rfl⟩

theorem ofMatch?_eq_some_iff {src : Source} {kind : Kind} {m : Match} {e : Extracted} :
    ofMatch? src kind m = some e ↔ ∃ anchor name, m.last? kind.name = some anchor ∧
      m.last? "name" = some name ∧ Text.trim (src.text name) ≠ "" ∧
      ofPlaces src kind m anchor name = e := by
  have body : ofMatch? src kind m = (m.last? kind.name).bind fun anchor =>
      (m.last? "name").bind fun name =>
        if (Text.trim (src.text name)).isEmpty then none
        else some (ofPlaces src kind m anchor name) := rfl
  simp [body, Option.bind_eq_some_iff]

theorem ofMatch?_some {src : Source} {kind : Kind} {m : Match} {e : Extracted}
    (found : ofMatch? src kind m = some e) :
    e.definition.kind = kind ∧ m.last? kind.name = some e.anchor ∧ Described src e := by
  obtain ⟨anchor, name, anchored, _, filled, rfl⟩ := ofMatch?_eq_some_iff.mp found
  refine ⟨rfl, anchored, ?_⟩
  constructor
  · rfl
  · rfl
  · exact filled
  · exact Text.trim_trim _
  · apply Text.joined_ne
    intro w member
    obtain ⟨_, _, word⟩ := List.mem_flatMap.mp member
    exact Text.ne_empty_of_mem_wordsOf word
  · exact Text.bind_nonempty?_ne _ _
  · exact Text.bind_nonempty?_ne _ _
  · exact Text.bind_nonempty?_ne _ _
  · exact ⟨rfl, rfl⟩
  · exact ⟨rfl, rfl, rfl, rfl⟩

theorem exists_match {language : Language} {src : Source} {root : Place} {e : Extracted}
    (found : e ∈ all language src root) :
    ∃ kind q m, (kind, q) ∈ language.definitions ∧ m ∈ q.run root ∧
      ofMatch? src kind m = some e := by
  obtain ⟨⟨kind, q⟩, listed, found⟩ := List.mem_flatMap.mp found
  simp only [ofQuery] at found
  split at found
  · obtain ⟨m, matched, here⟩ := List.mem_filterMap.mp found
    exact ⟨kind, q, m, listed, matched, here⟩
  · cases found

/-- Every find of a language is described by one of its queries and stands below the root. -/
theorem mem_all {language : Language} {src : Source} {root : Place} {e : Extracted}
    (found : e ∈ all language src root) :
    e.definition.kind ∈ language.kinds ∧ root.Within e.anchor ∧ Described src e := by
  obtain ⟨kind, q, m, listed, matched, here⟩ := exists_match found
  obtain ⟨rfl, anchored, described⟩ := ofMatch?_some here
  obtain ⟨c, captured, _, place⟩ := last?_mem anchored
  refine ⟨List.mem_map.mpr ⟨_, listed, rfl⟩, ?_, described⟩
  rw [← place]
  exact Query.run_within matched c captured

def unnumbered (e : Extracted) : Extracted :=
  { e with definition := { e.definition with id := 0 } }

theorem numberFrom_ids (id : Nat) (es : List Extracted) :
    (numberFrom id es).map (·.definition.id) = List.range' id es.length := by
  induction es generalizing id with
  | nil => rfl
  | cons e es ih => rw [numberFrom, List.map_cons, ih, List.length_cons, List.range'_succ]

theorem numberFrom_unnumbered (id : Nat) (es : List Extracted) :
    (numberFrom id es).map unnumbered = es.map unnumbered := by
  induction es generalizing id with
  | nil => rfl
  | cons e es ih =>
    rw [numberFrom, List.map_cons, List.map_cons, ih]
    rfl

theorem numberFrom_length (id : Nat) (es : List Extracted) :
    (numberFrom id es).length = es.length := by
  simpa using congrArg List.length (numberFrom_unnumbered id es)

theorem described_unnumbered {src : Source} {e : Extracted} :
    Described src e.unnumbered ↔ Described src e := by
  constructor <;> intro d
  all_goals
    exact ⟨d.span, d.loc, d.name_filled, d.name_trimmed, d.modifier, d.dataType, d.value,
      d.returnType, d.unlinked, d.unmeasured⟩

theorem definitions_ids (language : Language) (src : Source) (root : Place) :
    (definitions language src root).map (·.definition.id) =
      List.range' 1 (definitions language src root).length := by
  simp only [definitions]
  rw [numberFrom_ids, numberFrom_length]

theorem definitions_sorted (language : Language) (src : Source) (root : Place) :
    (definitions language src root).Pairwise fun a b => a.order.le b.order = true := by
  have transfer (es : List Extracted) :
      es.Pairwise (fun a b => a.order.le b.order = true) ↔
        (es.map unnumbered).Pairwise (fun a b => a.order.le b.order = true) := by
    rw [List.pairwise_map]
    rfl
  rw [transfer, definitions, numberFrom_unnumbered, ← transfer]
  apply List.pairwise_mergeSort
  · exact fun _ _ _ => NestingKey.le_trans
  · exact fun _ _ => NestingKey.le_total _ _

/-- Where all is found in order, the definitions are counted as they are found. -/
theorem definitions_of_sorted {language : Language} {src : Source} {root : Place}
    (runs : ∀ q ∈ language.definitions, (root.subtree.flatMap q.2.matchesAt).Pairwise fun a b =>
      Place.addressLe (Query.lastAddress a) (Query.lastAddress b) = true)
    {found : List Extracted}
    (all_ : found = reconcile (firstPerKey key (language.definitions.flatMap fun (kind, q) =>
      if q.captures kind.name && q.captures "name" then
        (root.subtree.flatMap q.matchesAt).filterMap (ofMatch? src kind)
      else [])))
    (sorted : found.Pairwise fun a b => a.order.le b.order = true) :
    definitions language src root = numberFrom 1 found := by
  have same : all language src root = language.definitions.flatMap fun (kind, q) =>
      if q.captures kind.name && q.captures "name" then
        (root.subtree.flatMap q.matchesAt).filterMap (ofMatch? src kind)
      else [] := by
    refine List.flatMap_congr ?_
    intro q listed
    simp only [ofQuery, Query.run_of_sorted (runs q listed)]
  simp only [definitions, chosen, same, ← all_]
  rw [List.mergeSort_of_pairwise sorted]

/-- Numbers apart, the definitions of a tree are among the finds. -/
theorem definitions_origin {language : Language} {src : Source} {root : Place} {e : Extracted}
    (member : e ∈ definitions language src root) :
    ∃ f ∈ all language src root, e.unnumbered = f.unnumbered := by
  have inside : e.unnumbered ∈ (definitions language src root).map unnumbered :=
    List.mem_map_of_mem member
  rw [definitions, numberFrom_unnumbered] at inside
  obtain ⟨f, found, same⟩ := List.mem_map.mp inside
  rw [List.mem_mergeSort] at found
  exact ⟨f, (firstPerKey_sublist key _).subset (List.mem_of_mem_filter found), same.symm⟩

theorem mem_definitions {language : Language} {src : Source} {root : Place} {e : Extracted}
    (member : e ∈ definitions language src root) :
    e.definition.kind ∈ language.kinds ∧ root.Within e.anchor ∧ Described src e := by
  obtain ⟨f, found, same⟩ := definitions_origin member
  obtain ⟨listed, within, described⟩ := mem_all found
  have kind : e.definition.kind = f.definition.kind :=
    congrArg (fun x => x.definition.kind) same
  have anchor : e.anchor = f.anchor := congrArg (fun x => x.anchor) same
  rw [← described_unnumbered, same, described_unnumbered]
  exact ⟨kind ▸ listed, anchor ▸ within, described⟩

end Extracted

theorem Calls.below_nodup (language : Language) (src : Source) (p : Place) :
    (Calls.below language src p).Nodup := by
  unfold below
  split
  · exact .nil
  · simpa using firstPerKey_nodup (id : String → String) _

theorem Calls.below_filled (language : Language) (src : Source) (p : Place) :
    "" ∉ Calls.below language src p := by
  unfold below
  split
  · exact List.not_mem_nil
  · intro member
    have filled := (List.mem_filter.mp ((firstPerKey_sublist id _).subset member)).2
    simp at filled

namespace Parameter

theorem ofMatch?_type {src : Source} {block : Place} {m : Match} {found : Nat × Parameter}
    (described : ofMatch? src block m = some found) : found.2.type ≠ some "" := by
  unfold ofMatch? at described
  obtain ⟨place, _, described⟩ := Option.bind_eq_some_iff.mp described
  change (if _ then some _ else none) = some found at described
  split at described
  · obtain rfl := Option.some.inj described
    exact Text.bind_nonempty?_ne _ _
  · contradiction

theorem ofTyped?_type {piece : List Char} {p : Parameter} (read : ofTyped? piece = some p) :
    p.type ≠ some "" := by
  simp only [ofTyped?] at read
  split at read
  · split at read
    · contradiction
    · rename_i filled
      obtain rfl := Option.some.inj read
      simp_all
  · contradiction

theorem ofWords?_type {piece : List Char} {p : Parameter} (read : ofWords? piece = some p) :
    p.type ≠ some "" := by
  simp only [ofWords?] at read
  split at read
  · contradiction
  · obtain rfl := Option.some.inj read
    apply Text.joined_ne
    intro w member
    exact Text.ne_empty_of_mem_wordsOf (List.dropLast_subset _ member)

theorem ofPiece?_type {piece : List Char} {p : Parameter} (read : ofPiece? piece = some p) :
    p.type ≠ some "" := by
  simp only [ofPiece?] at read
  split at read
  · contradiction
  · rw [Option.orElse_eq_orElse, Option.orElse_eq_or, Option.or_eq_some_iff] at read
    rcases read with typed | ⟨_, words⟩
    · exact ofTyped?_type typed
    · exact ofWords?_type words

theorem split_types {raw : String} {p : Parameter} (member : p ∈ split raw) : p.type ≠ some "" := by
  simp only [split] at member
  split at member
  · cases member
  · obtain ⟨piece, _, read⟩ := List.mem_filterMap.mp member
    exact ofPiece?_type read

theorem ofQuery_types {q : Query} {src : Source} {block : Place} {p : Parameter}
    (member : p ∈ ofQuery q src block) : p.type ≠ some "" := by
  obtain ⟨found, kept, rfl⟩ := List.mem_map.mp member
  have sorted := (firstPerKey_sublist _ _).subset kept
  obtain ⟨m, _, described⟩ := List.mem_filterMap.mp (List.mem_mergeSort.mp sorted)
  exact ofMatch?_type described

theorem mem_ofBlock {language : Language} {src : Source} {block : Place} {p : Parameter}
    (member : p ∈ ofBlock language src block) :
    p ∈ split (src.text block) ∨ ∃ q, language.parameters = some q ∧ p ∈ ofQuery q src block := by
  cases query : language.parameters with
  | none =>
    simp only [ofBlock, query, List.isEmpty_nil, if_true] at member
    exact .inl member
  | some q =>
    by_cases captures : q.captures "param_name" = true
    · simp only [ofBlock, query, if_pos captures] at member
      split at member
      · exact .inl member
      · exact .inr ⟨q, rfl, member⟩
    · simp only [ofBlock, query, if_neg captures, List.isEmpty_nil, if_true] at member
      exact .inl member

theorem ofBlock_types {language : Language} {src : Source} {block : Place} {p : Parameter}
    (member : p ∈ ofBlock language src block) : p.type ≠ some "" := by
  rcases mem_ofBlock member with piece | ⟨q, _, found⟩
  · exact split_types piece
  · exact ofQuery_types found

end Parameter

namespace Definition

/-- What a definition has that stands for lines of the file. -/
structure Placed (d : Definition) : Prop where
  starts : 1 ≤ d.startLine
  ends : d.startLine ≤ d.endLine
  loc : d.loc = d.endLine - d.startLine + 1
  name_filled : d.name ≠ ""
  name_trimmed : Text.trim d.name = d.name
  modifier : d.modifier ≠ some ""
  dataType : d.dataType ≠ some ""
  value : d.value ≠ some ""
  returnType : d.returnType ≠ some ""
  types : ∀ p ∈ d.parameters, p.type ≠ some ""

/-- Only callables have parameters, calls and a complexity of their own. -/
structure Measured (d : Definition) : Prop where
  callable : d.kind.callable = true →
    d.parameterCount = d.parameters.length ∧ 1 ≤ d.complexity ∧ d.calls.Nodup ∧ "" ∉ d.calls
  plain : d.kind.callable = false →
    d.complexity = 1 ∧ d.parameterCount = 0 ∧ d.parameters = [] ∧ d.calls = []

end Definition

namespace Extracted

theorem complete_eq (language : Language) (src : Source) (e : Extracted) :
    ∃ parameters calls complexity parameterCount, complete language src e =
      { e.definition with parameters, calls, complexity, parameterCount } := by
  unfold complete
  split
  · exact ⟨_, _, _, _, rfl⟩
  · exact ⟨_, _, _, _, rfl⟩

theorem complete_types {language : Language} {src : Source} {e : Extracted}
    (described : Described src e) : ∀ p ∈ (complete language src e).parameters, p.type ≠ some "" := by
  intro p member
  unfold complete at member
  split at member
  · cases block : e.block with
    | none => simp [block] at member
    | some place =>
      simp only [block] at member
      exact Parameter.ofBlock_types member
  · simp [described.unmeasured.2.2.1] at member

theorem complete_placed {language : Language} {src : Source} {e : Extracted}
    (described : Described src e) (ordered : e.anchor.node.range.start ≤ e.anchor.node.range.stop) :
    (complete language src e).Placed := by
  have first : e.definition.startLine = (src.span e.anchor).first := congrArg LineSpan.first described.span
  have last : e.definition.endLine = (src.span e.anchor).last := congrArg LineSpan.last described.span
  have types := @complete_types language src e described
  obtain ⟨_, _, _, _, same⟩ := complete_eq language src e
  rw [same] at types ⊢
  constructor
  · exact first ▸ src.one_le_first _
  · exact first ▸ last ▸ src.first_le_last ordered
  · exact described.loc
  · exact described.name_filled
  · exact described.name_trimmed
  · exact described.modifier
  · exact described.dataType
  · exact described.value
  · exact described.returnType
  · exact types

theorem complete_measured {language : Language} {src : Source} {e : Extracted}
    (described : Described src e) : (complete language src e).Measured := by
  unfold complete
  split
  · rename_i callable
    refine ⟨fun _ => ⟨rfl, Complexity.one_le_ofPlace src e.anchor, ?_, ?_⟩,
      fun plain => absurd callable (by simp [plain])⟩
    · cases e.block with
      | none => exact .nil
      | some _ => exact Calls.below_nodup language src e.anchor
    · cases e.block with
      | none => exact List.not_mem_nil
      | some _ => exact Calls.below_filled language src e.anchor
  · rename_i plain
    exact ⟨fun callable => absurd callable plain, fun _ => described.unmeasured⟩

end Extracted

end SourceOutline

import SourceOutline.Proofs.Sites

/-! A parameter belongs to the nearest block around its name that is of the block's kind. A query finds names
at every depth below a block, some of them more than once; those of the block itself are kept, the first
find at each offset. -/
namespace SourceOutline

open Place (Within)

namespace Place

/-- Of the places above, `block` is the nearest one of its kind. -/
def Nearest (block p : Place) : Prop :=
  ∃ nearer above, p.ancestors = nearer ++ block :: above ∧ ∀ a ∈ nearer, a.node.kind ≠ block.node.kind

theorem Nearest.cases {block p : Place} (nearest : Nearest block p) :
    ∃ nearer, (∀ a ∈ nearer, a.node.kind ≠ block.node.kind) ∧ p.ancestors = nearer ++ block.outward := by
  obtain ⟨nearer, above, split, apart⟩ := nearest
  exact ⟨nearer, apart, by rw [split, outward_of_ancestors split]⟩

end Place

namespace Match

theorem first?_mem {m : Match} {name : String} {p : Place} (found : m.first? name = some p) :
    ∃ c ∈ m, c.name = name ∧ c.place = p := by
  obtain ⟨c, here, rfl⟩ := Option.map_eq_some_iff.mp found
  have named := List.find?_some here
  exact ⟨c, List.mem_of_find?_eq_some here, by simpa using named, rfl⟩

end Match

theorem Query.first?_eq_none {q : Query} {name : String} (silent : q.captures name = false) {top : Place}
    {m : Match} (found : m ∈ q.run top) : m.first? name = none := by
  rw [Option.eq_none_iff_forall_ne_some]
  intro p here
  obtain ⟨c, captured, rfl, _⟩ := Match.first?_mem here
  obtain ⟨p, _, pattern, among, way⟩ := exists_of_mem_run found
  have named : c.name ∈ pattern.captureNames := by
    simpa using pattern.matchAt_names [] p m way c captured
  have silent := List.any_eq_false.mp silent pattern among
  simp [named] at silent

namespace Parameter

variable {src : Source} {block : Place}

theorem belongsTo_iff {name : Place} (within : Within block name) :
    belongsTo block name = true ↔ block.Nearest name := by
  have nearest (a : Place) :
      name.ancestors.find? (·.node.kind == block.node.kind) = some a ↔
        a.node.kind = block.node.kind ∧ ∃ nearer above, name.ancestors = nearer ++ a :: above ∧
          ∀ b ∈ nearer, b.node.kind ≠ block.node.kind := by
    simp [List.find?_eq_some_iff_append]
  constructor
  · intro belongs
    unfold belongsTo at belongs
    split at belongs
    · rename_i a found
      obtain ⟨_, nearer, above, split, apart⟩ := (nearest a).mp found
      have listed : a ∈ name.ancestors := by simp [split]
      obtain rfl := Place.eq_of_same (Place.mem_outward_of_above listed) within.mem_outward belongs
      exact ⟨nearer, above, split, apart⟩
    · contradiction
  · intro split
    rw [belongsTo, (nearest block).mpr ⟨rfl, split⟩]
    exact beq_self_eq_true _

/-- The match finds a parameter of the block itself, whose name is at the place. -/
structure Owned (src : Source) (block : Place) (m : Match) (name : Place) : Prop where
  captured : m.first? "param_name" = some name
  nearest : block.Nearest name
  filled : Text.trim (src.text name) ≠ ""

def found (language : Language) (block : Place) : List Match :=
  match language.parameters with
  | some q => q.run block
  | none => []

def described (src : Source) (x : Match × Place) : Parameter :=
  ⟨Text.trim (src.text x.2),
    (x.1.first? "param_type").bind fun p => Text.nonempty? (normalizeType (src.text p))⟩

def offset (x : Match × Place) : Nat := x.2.node.range.start

/-- One owned match for each offset of an owned name, the first in match order, by offset. -/
structure Picks (src : Source) (block : Place) (ms : List Match) (picks : List (Match × Place)) : Prop where
  increasing : picks.Pairwise fun a b => offset a < offset b
  owned : ∀ x ∈ picks, Owned src block x.1 x.2
  first : ∀ x ∈ picks, ∃ before after, ms = before ++ x.1 :: after ∧
    ∀ m ∈ before, ∀ name, Owned src block m name → name.node.range.start ≠ offset x
  complete : ∀ m ∈ ms, ∀ name, Owned src block m name → ∃ x ∈ picks, offset x = name.node.range.start

def own? (src : Source) (block : Place) (m : Match) : Option (Match × Place) :=
  (m.first? "param_name").bind fun name =>
    if belongsTo block name && !(Text.trim (src.text name)).isEmpty then some (m, name) else none

theorem ofMatch?_eq (m : Match) :
    ofMatch? src block m = (own? src block m).map fun x => (offset x, described src x) := by
  unfold ofMatch? own?
  cases m.first? "param_name" with
  | none => rfl
  | some name =>
    simp only [Option.bind_some, Option.bind_eq_bind]
    split <;> rfl

theorem own?_eq_some_iff {m : Match} (within : ∀ c ∈ m, Within block c.place) {x : Match × Place} :
    own? src block m = some x ↔ m = x.1 ∧ Owned src block m x.2 := by
  have belongs {name : Place} (named : m.first? "param_name" = some name) :
      belongsTo block name = true ↔ block.Nearest name := by
    obtain ⟨c, captured, _, rfl⟩ := Match.first?_mem named
    exact belongsTo_iff (within c captured)
  simp only [own?, Option.bind_eq_some_iff, Option.ite_none_right_eq_some, Bool.and_eq_true,
    Bool.not_eq_true', Option.some.injEq]
  constructor
  · rintro ⟨name, named, ⟨own, filled⟩, rfl⟩
    refine ⟨rfl, named, (belongs named).mp own, ?_⟩
    rintro empty
    simp [empty] at filled
  · rintro ⟨rfl, named, nearest, filled⟩
    refine ⟨x.2, named, ⟨(belongs named).mpr nearest, ?_⟩, rfl⟩
    simpa using filled

/-- The first of the block's own matches at each offset, by offset. -/
def picked (src : Source) (block : Place) (ms : List Match) : List (Match × Place) :=
  firstPerKey offset ((ms.filterMap (own? src block)).mergeSort (keyLe offset))

theorem ofQuery_eq (q : Query) :
    ofQuery q src block = (picked src block (q.run block)).map (described src) := by
  have finds : (q.run block).filterMap (ofMatch? src block) =
      ((q.run block).filterMap (own? src block)).map fun x => (offset x, described src x) := by
    rw [List.map_filterMap]
    exact List.filterMap_congr fun m _ => ofMatch?_eq m
  have sorted (xs : List (Match × Place)) :
      (xs.map fun x => (offset x, described src x)).mergeSort (fun a b => decide (a.1 ≤ b.1)) =
        (xs.mergeSort (keyLe offset)).map fun x => (offset x, described src x) := by
    symm
    apply List.map_mergeSort
    intros
    rfl
  rw [ofQuery, finds, sorted, firstPerKey_map, List.map_map]
  rfl

theorem picked_of_filterMap {ms : List Match} (none : ms.filterMap (own? src block) = []) :
    picked src block ms = [] := by
  rw [picked, none, List.mergeSort_nil]
  rfl

theorem picked_picks {ms : List Match} (within : ∀ m ∈ ms, ∀ c ∈ m, Within block c.place) :
    Picks src block ms (picked src block ms) := by
  have owned {m : Match} (listed : m ∈ ms) {name : Place} :
      own? src block m = some (m, name) ↔ Owned src block m name := by
    simp [own?_eq_some_iff (within m listed)]
  refine ⟨firstPerKey_mergeSort_increasing offset _, ?_, ?_, ?_⟩
  · intro x member
    obtain ⟨before, after, split, _⟩ := (mem_firstPerKey_mergeSort offset).mp member
    have kept : x ∈ ms.filterMap (own? src block) := by simp [split]
    obtain ⟨m, listed, own⟩ := List.mem_filterMap.mp kept
    obtain ⟨rfl, holds⟩ := (own?_eq_some_iff (within m listed)).mp own
    exact holds
  · intro x member
    obtain ⟨before, after, split, first⟩ := (mem_firstPerKey_mergeSort offset).mp member
    -- Before the match of `x` are those that gave `before`, and then some that gave nothing.
    obtain ⟨front, back, rfl, left, right⟩ := List.filterMap_eq_append_iff.mp split
    obtain ⟨skipped, m, rest, rfl, dropped, own, _⟩ := List.filterMap_eq_cons_iff.mp right
    obtain ⟨rfl, _⟩ := (own?_eq_some_iff (within m (by simp))).mp own
    refine ⟨front ++ skipped, rest, by simp, ?_⟩
    intro m earlier name holds
    have here : own? src block m = some (m, name) := by
      refine (owned ?_).mpr holds
      rcases List.mem_append.mp earlier with listed | listed <;> simp [listed]
    rcases List.mem_append.mp earlier with listed | listed
    · exact first (m, name) (left ▸ List.mem_filterMap.mpr ⟨m, listed, here⟩)
    · rw [dropped m listed] at here
      contradiction
  · intro m listed name holds
    have kept : (m, name) ∈ (ms.filterMap (own? src block)).mergeSort (keyLe offset) :=
      List.mem_mergeSort.mpr (List.mem_filterMap.mpr ⟨m, listed, (owned listed).mpr holds⟩)
    exact exists_mem_firstPerKey offset kept

theorem found_within {language : Language} {m : Match} (listed : m ∈ found language block) :
    ∀ c ∈ m, Within block c.place := by
  unfold found at listed
  split at listed
  · exact Query.run_within listed
  · cases listed

theorem picked_eq_nil_iff {ms : List Match} (within : ∀ m ∈ ms, ∀ c ∈ m, Within block c.place) :
    picked src block ms = [] ↔ ¬ ∃ m ∈ ms, ∃ name, Owned src block m name := by
  have picks : Picks src block ms (picked src block ms) := picked_picks within
  constructor
  · rintro none ⟨m, listed, name, owned⟩
    obtain ⟨x, member, _⟩ := picks.complete m listed name owned
    rw [none] at member
    cases member
  · intro unowned
    rw [List.eq_nil_iff_forall_not_mem]
    intro x member
    obtain ⟨before, after, split, _⟩ := picks.first x member
    exact unowned ⟨x.1, by simp [split], x.2, picks.owned x member⟩

theorem ofBlock_eq (language : Language) (src : Source) (block : Place) :
    ofBlock language src block =
      if picked src block (found language block) = [] then split (src.text block)
      else (picked src block (found language block)).map (described src) := by
  unfold ofBlock found
  cases language.parameters with
  | none =>
    have nothing : picked src block [] = [] := picked_of_filterMap rfl
    simp [nothing]
  | some q =>
    cases names : q.captures "param_name" with
    | true => simp [names, ofQuery_eq, List.isEmpty_iff]
    | false =>
      have unnamed : (q.run block).filterMap (own? src block) = [] := by
        rw [List.filterMap_eq_nil_iff]
        intro m listed
        rw [own?, Query.first?_eq_none names listed]
        rfl
      simp [names, picked_of_filterMap unnamed]

/-- Kinds of nodes that stand between a block and the name of one of its parameters: the parameter itself,
a default or a pattern that collects the rest. No callable and no type is among them. -/
def wrappers : List String :=
  ["assignment_pattern", "rest_pattern", "required_parameter", "optional_parameter", "typed_parameter",
    "default_parameter", "typed_default_parameter", "list_splat_pattern", "dictionary_splat_pattern",
    "parameter", "parameter_declaration", "variadic_parameter_declaration", "formal_parameter",
    "spread_parameter", "variable_declarator"]

end Parameter

theorem NodeTest.kind_of_accepts {k : String} {n : Node} (accepts : (kind k).accepts n = true) :
    n.kind = k := by
  simp only [NodeTest.accepts, Bool.and_eq_true, beq_iff_eq] at accepts
  exact accepts.2

namespace Site

/-- The tests go through nodes of these kinds up to one of this kind. -/
def leadsTo (kind : String) (kinds : List String) : List NodeTest → Bool
  | .kind k :: tests => k == kind || (kinds.contains k && leadsTo kind kinds tests)
  | _ => false

/-- What `t` asks for is below what `s` asks for, with only nodes of these kinds between. -/
def leadsFrom (kinds : List String) (s t : Site) : Bool :=
  match s.upward with
  | .kind kind :: _ => leadsTo kind kinds t.upward.tail
  | _ => false

theorem Passed.kind_mem {kind : String} {kinds : List String} {tests : List NodeTest}
    (leads : leadsTo kind kinds tests = true) {nearer further : List Place}
    (passed : Passed tests (nearer ++ further)) (apart : ∀ a ∈ nearer, a.node.kind ≠ kind) :
    ∀ a ∈ nearer, a.node.kind ∈ kinds := by
  induction nearer generalizing tests with
  | nil => simp
  | cons a nearer ih =>
    cases tests with
    | nil => cases leads
    | cons test tests =>
      cases test with
      | named => cases leads
      | any => cases leads
      | kind k =>
        obtain ⟨here, rest⟩ := passed
        have same : a.node.kind = k := NodeTest.kind_of_accepts here
        have other : k ≠ kind := same ▸ apart a List.mem_cons_self
        simp only [leadsTo, Bool.or_eq_true, beq_iff_eq, Bool.and_eq_true, List.contains_eq_mem,
          decide_eq_true_eq] at leads
        obtain ⟨listed, leads⟩ := leads.resolve_left other
        intro b member
        rcases List.mem_cons.mp member with rfl | later
        · rwa [same]
        · exact ih leads rest (fun c among => apart c (List.mem_cons_of_mem _ among)) b later

theorem Holds.kind_mem {kinds : List String} {s t : Site} {block name : Place}
    (leads : s.leadsFrom kinds t = true) (outer : s.Holds block) (inner : t.Holds name)
    (nearest : block.Nearest name) :
    ∀ a ∈ name.ancestors, a ∈ block.outward ∨ a.node.kind ∈ kinds := by
  obtain ⟨nearer, apart, way⟩ := nearest.cases
  obtain ⟨around, _⟩ := outer
  obtain ⟨passed, _⟩ := inner
  unfold leadsFrom at leads
  split at leads
  · rename_i kind tests asked
    rw [asked] at around
    have same : block.node.kind = kind := NodeTest.kind_of_accepts around.1
    cases above : t.upward with
    | nil =>
      rw [above] at leads
      cases leads
    | cons own tests =>
      rw [above] at leads passed
      have inside := (way ▸ passed.2 : Passed tests (nearer ++ block.outward)).kind_mem leads (same ▸ apart)
      intro a listed
      rw [way] at listed
      rcases List.mem_append.mp listed with near | far
      · exact .inr (inside a near)
      · exact .inl far
  · contradiction

end Site

/-- In the known languages the query for parameters looks for names in blocks of the kind that the queries
for definitions capture, with nothing but the parameter between. -/
theorem Language.builtin_leads : ∀ language ∈ builtin, ∀ d ∈ language.definitions,
    ∀ q ∈ language.parameters, ∀ s ∈ d.2.sites "parameters", ∀ t ∈ q.sites "param_name",
      s.leadsFrom Parameter.wrappers t = true := by
  decide +kernel

namespace Extracted

variable {language : Language} {src : Source} {e : Extracted} {block : Place}

theorem exists_block_capture {root : Place} (member : e ∈ definitions language src root)
    (given : e.block = some block) :
    ∃ d ∈ language.definitions, ∃ m ∈ d.2.run root, ∃ c ∈ m, c.name = "parameters" ∧ c.place = block := by
  obtain ⟨f, found, same⟩ := definitions_origin member
  have same : e.block = f.block := congrArg (fun x => x.block) same
  obtain ⟨kind, q, m, listed, matched, here⟩ := exists_match found
  rw [same, (ofMatch?_captures here).2, Option.ite_none_right_eq_some] at given
  exact ⟨(kind, q), listed, m, matched, last?_mem given.2⟩

theorem block_within {root : Place} (member : e ∈ definitions language src root)
    (given : e.block = some block) : Within root block := by
  obtain ⟨d, _, m, matched, c, captured, _, rfl⟩ := exists_block_capture member given
  exact Query.run_within matched c captured

end Extracted

namespace Parameter

theorem Owned.above {language : Language} (known : language ∈ Language.builtin) {src : Source} {root : Place}
    {e : Extracted} (member : e ∈ Extracted.definitions language src root) {block : Place}
    (given : e.block = some block) {m : Match} (listed : m ∈ found language block) {name : Place}
    (owned : Owned src block m name) :
    ∀ a ∈ name.ancestors, a ∈ block.outward ∨ a.node.kind ∈ wrappers := by
  obtain ⟨d, query, _, matched, b, capturedToo, namedToo, rfl⟩ := Extracted.exists_block_capture member given
  obtain ⟨c, captured, named, rfl⟩ := Match.first?_mem owned.captured
  unfold found at listed
  split at listed
  · rename_i q asked
    obtain ⟨s, site, outer⟩ := Query.run_sites matched capturedToo
    obtain ⟨t, siteToo, inner⟩ := Query.run_sites listed captured
    rw [namedToo] at site
    rw [named] at siteToo
    exact outer.kind_mem (Language.builtin_leads language known d query q asked s site t siteToo) inner
      owned.nearest
  · cases listed

/-- If a match of the query finds a parameter of the block itself, then the parameters are those of the block
itself: one for each offset of a name, by offset, and each from the first match there. None of them belongs
to a block inside, and in the known languages nothing but the parameter is around its name. Otherwise they
are the pieces of the block's text. -/
theorem ofBlock_finds_owned (language : Language) (src : Source) (block : Place) :
    ((∃ m ∈ found language block, ∃ name, Owned src block m name) →
      ∃ picks, Picks src block (found language block) picks ∧
        ofBlock language src block = picks.map (described src) ∧
        (∀ x ∈ picks, ∀ inner ∈ x.2.ancestors, inner.node.kind = block.node.kind →
          inner ∈ block.outward) ∧
        (language ∈ Language.builtin → ∀ root, ∀ e ∈ Extracted.definitions language src root,
          e.block = some block → ∀ x ∈ picks, ∀ a ∈ x.2.ancestors,
            a ∈ block.outward ∨ a.node.kind ∈ wrappers)) ∧
    ((¬ ∃ m ∈ found language block, ∃ name, Owned src block m name) →
      ofBlock language src block = split (src.text block)) := by
  have within : ∀ m ∈ found language block, ∀ c ∈ m, Within block c.place := fun m => found_within
  have picks : Picks src block (found language block) (picked src block (found language block)) :=
    picked_picks within
  rw [ofBlock_eq]
  refine ⟨?_, fun unowned => if_pos ((picked_eq_nil_iff within).mpr unowned)⟩
  intro owned
  refine ⟨_, picks, if_neg fun none => (picked_eq_nil_iff within).mp none owned, ?_, ?_⟩
  · intro x member inner above kind
    obtain ⟨nearer, apart, way⟩ := (picks.owned x member).nearest.cases
    rw [way] at above
    rcases List.mem_append.mp above with near | far
    · exact absurd kind (apart inner near)
    · exact far
  · intro known root e defined given x member
    obtain ⟨before, after, split, _⟩ := picks.first x member
    exact (picks.owned x member).above known defined given (by simp [split])

/-- The parameter of a function in a default value is not a parameter of the function around it. -/
theorem ofBlock_finds_owned_arrow :
    let part (kind field : String) (start stop : Nat) (children : List Node) : Node :=
      ⟨kind, some field, ⟨start, stop⟩, true, false, false, false, children⟩
    let plain (kind : String) (start stop : Nat) (children : List Node) : Node :=
      ⟨kind, none, ⟨start, stop⟩, true, false, false, false, children⟩
    let list := part "formal_parameters" "parameters" 10 27 [plain "identifier" 11 12 [],
      plain "assignment_pattern" 14 26 [part "identifier" "left" 14 15 [],
        part "arrow_function" "right" 18 26 [
          part "formal_parameters" "parameters" 18 21 [plain "identifier" 19 20 []],
          part "identifier" "body" 25 26 []]]]
    let declaration := plain "function_declaration" 0 30 [part "identifier" "name" 9 10 [], list,
      part "statement_block" "body" 28 30 []]
    let root := plain "program" 0 30 [declaration]
    let block : Place := .child (.child (.root root) 0 declaration) 1 list
    let src := Source.ofText "function f(a, b = (c) => c) \x7b\x7d"
    (found .javascript block).length = 3 ∧
    ∃ picks, Picks src block (found .javascript block) picks ∧
      picks.map (described src) = [⟨"a", none⟩, ⟨"b", none⟩] ∧
      ∀ x ∈ picks, ∀ a ∈ x.2.ancestors, a ∈ block.outward ∨ a.node.kind ∈ wrappers := by
  intro part plain list declaration root block src
  have run : found .javascript block = block.subtree.flatMap Language.JavaScript.parameters.matchesAt :=
    Query.run_of_sorted (by decide +kernel)
  have owned : ∃ m ∈ found .javascript block, ∃ name, Owned src block m name := by
    have own : (found .javascript block).any (fun m => (own? src block m).isSome) = true := by
      rw [run]
      decide +kernel
    obtain ⟨m, listed, own⟩ := List.any_eq_true.mp own
    obtain ⟨x, own⟩ := Option.isSome_iff_exists.mp own
    exact ⟨m, listed, x.2, ((own?_eq_some_iff (found_within listed)).mp own).2⟩
  have parsed : ofBlock .javascript src block = [⟨"a", none⟩, ⟨"b", none⟩] := by
    have kept : ofQuery Language.JavaScript.parameters src block = [⟨"a", none⟩, ⟨"b", none⟩] := by
      rw [ofQuery, show Language.JavaScript.parameters.run block = _ from run,
        List.mergeSort_of_pairwise (by decide +kernel)]
      decide +kernel
    have names : Language.JavaScript.parameters.captures "param_name" = true := by decide +kernel
    simp [ofBlock, Language.javascript, names, kept]
  have inside : Within (.root root) block := (Within.here.child rfl).child rfl
  obtain ⟨picks, each, all, _, above⟩ := (ofBlock_finds_owned .javascript src block).1 owned
  refine ⟨by rw [run]; decide +kernel, picks, each, all ▸ parsed, ?_⟩
  have defined : (Extracted.definitions .javascript src (.root root)).any
      (fun e => e.block.any (·.same block)) = true := by
    have found : Extracted.definitions .javascript src (.root root) = Extracted.numberFrom 1 _ :=
      Extracted.definitions_of_sorted (by decide +kernel) rfl (by decide +kernel)
    rw [found]
    decide +kernel
  obtain ⟨e, member, same⟩ := List.any_eq_true.mp defined
  obtain ⟨b, given, same⟩ := (Option.any_eq_true _ _).mp same
  obtain rfl : b = block := (Extracted.block_within member given).eq_of_address inside (eq_of_beq same)
  exact above (by simp [Language.builtin]) (.root root) e member given

end Parameter

end SourceOutline

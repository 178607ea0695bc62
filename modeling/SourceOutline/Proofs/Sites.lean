import SourceOutline.Proofs.Anchors
import SourceOutline.Proofs.Finds

/-! Where the patterns of a language can find an anchor. A pattern asks for the kind of the anchor, for the
kinds of the nodes above it, and for children in some of its fields. Two patterns that ask for different
ones have no anchor in common. -/
namespace SourceOutline

open Place (Within)

namespace NodeTest

/-- The tests are for two different kinds. -/
def excludes : NodeTest → NodeTest → Bool
  | kind a, kind b => a != b
  | _, _ => false

theorem not_both {t u : NodeTest} (apart : t.excludes u = true) {n : Node} (left : t.accepts n = true) :
    ¬ u.accepts n = true := by
  cases t <;> cases u <;> simp_all [excludes, accepts]

end NodeTest

/-- No node of the kind has two children in the field. -/
def Node.Single (kind field : String) (root : Node) : Prop :=
  ∀ p ∈ (Place.root root).subtree, (NodeTest.kind kind).accepts p.node = true →
    (p.node.children.filter (·.field == some field)).length ≤ 1

/-- What a pattern asks of a node that it captures: the tests for the node and for those above it, and the
tests for children in fields of it. -/
structure Site where
  upward : List NodeTest
  parts : List (String × NodeTest)
deriving DecidableEq

namespace Site

/-- The first places pass the tests, each its own. -/
def Passed : List NodeTest → List Place → Prop
  | [], _ => True
  | _ :: _, [] => False
  | t :: ts, p :: ps => t.accepts p.node = true ∧ Passed ts ps

/-- The place has what is asked for. -/
structure Holds (s : Site) (p : Place) : Prop where
  upward : Passed s.upward p.outward
  parts : ∀ part ∈ s.parts, ∃ n ∈ p.node.children, n.field = some part.1 ∧ part.2.accepts n = true

/-- The node itself is of a kind that has one child in this field at most. -/
def onlyOne (single : List (String × String)) (s : Site) (field : String) : Bool :=
  match s.upward with
  | .kind kind :: _ => single.contains (kind, field)
  | _ => false

/-- The two ask for different kinds, of a node at the same distance or of the one child in a field. -/
def apart (single : List (String × String)) (s t : Site) : Bool :=
  (s.upward.zip t.upward).any (fun (a, b) => a.excludes b) ||
    s.parts.any fun a => t.parts.any fun b =>
      s.onlyOne single a.1 && a.1 == b.1 && a.2.excludes b.2

theorem Passed.not_both {ts us : List NodeTest} {ps : List Place} (left : Passed ts ps)
    (right : Passed us ps) : (ts.zip us).any (fun (a, b) => a.excludes b) = false := by
  induction ps generalizing ts us with
  | nil =>
    cases ts with
    | nil => rfl
    | cons t ts => cases left
  | cons p ps ih =>
    cases ts with
    | nil => rfl
    | cons t ts =>
      cases us with
      | nil => rfl
      | cons u us =>
        rw [List.zip_cons_cons, List.any_cons, ih left.2 right.2, Bool.or_false]
        by_contra apart
        exact NodeTest.not_both (by simpa using apart) left.1 right.1

theorem eq_of_single {xs : List Node} (short : xs.length ≤ 1) {a b : Node} (left : a ∈ xs)
    (right : b ∈ xs) : a = b := by
  match xs, short with
  | [x], _ => rw [List.mem_singleton.mp left, List.mem_singleton.mp right]

theorem Holds.not_both {single : List (String × String)} {root : Node}
    (unique : ∀ kind field, (kind, field) ∈ single → root.Single kind field) {s t : Site} {p : Place}
    (within : Within (.root root) p) (left : s.Holds p) (right : t.Holds p) :
    s.apart single t = false := by
  rw [apart, left.upward.not_both right.upward, Bool.false_or, List.any_eq_false]
  intro a asked found
  obtain ⟨b, askedToo, found⟩ := List.any_eq_true.mp found
  simp only [Bool.and_eq_true, beq_iff_eq] at found
  obtain ⟨⟨only, field⟩, excludes⟩ := found
  obtain ⟨n, child, fills, accepts⟩ := left.parts a asked
  obtain ⟨m, childToo, fillsToo, acceptsToo⟩ := right.parts b askedToo
  have same : n = m := by
    cases tests : s.upward with
    | nil => simp [onlyOne, tests] at only
    | cons test above =>
      cases test with
      | named => simp [onlyOne, tests] at only
      | any => simp [onlyOne, tests] at only
      | kind kind =>
        have passed := left.upward
        rw [tests] at passed
        have short := unique kind a.1 (by simpa [onlyOne, tests] using only) p
          (Place.mem_subtree.mpr within) passed.1
        refine eq_of_single short (List.mem_filter.mpr ⟨child, by simp [fills]⟩) ?_
        exact List.mem_filter.mpr ⟨childToo, by simp [fillsToo, field]⟩
  exact NodeTest.not_both excludes accepts (same ▸ acceptsToo)

end Site

namespace Pattern

def required? : ChildPattern → Option (String × NodeTest)
  | .part (some field) false (.node test _ _) => some (field, test)
  | _ => none

mutual

/-- What a pattern asks of a node captured as `anchor`, where nodes that pass `above` are around. -/
def sites (anchor : String) (outer : List String) (above : List NodeTest) : Pattern → List Site
  | node test captures parts =>
    (if (captures ++ outer).contains anchor then [⟨test :: above, parts.filterMap required?⟩] else []) ++
      partSites anchor (test :: above) parts
  | oneOf captures alternatives => anySites anchor (captures ++ outer) above alternatives

def anySites (anchor : String) (outer : List String) (above : List NodeTest) : List Pattern → List Site
  | [] => []
  | a :: as => sites anchor outer above a ++ anySites anchor outer above as

def partSites (anchor : String) (above : List NodeTest) : List ChildPattern → List Site
  | [] => []
  | .part _ _ pattern :: parts => sites anchor [] above pattern ++ partSites anchor above parts

end

theorem required?_some {part : ChildPattern} {asked : String × NodeTest}
    (required : required? part = some asked) :
    ∃ captures parts, part = .part (some asked.1) false (.node asked.2 captures parts) := by
  unfold required? at required
  split at required
  · obtain rfl := Option.some.inj required
    exact ⟨_, _, rfl⟩
  · contradiction

theorem accepts_of_mem_matchAt {test : NodeTest} {captures outer : List String}
    {parts : List ChildPattern} {p : Place} {m : Match} (found : m ∈ matchAt outer (.node test captures parts) p) :
    test.accepts p.node = true := by
  simp only [matchAt] at found
  split at found
  · assumption
  · cases found

theorem matchParts_required {parts : List ChildPattern} {places : List Place} {m : Match}
    (found : m ∈ matchParts parts places) : ∀ asked ∈ parts.filterMap required?,
      ∃ p ∈ places, p.node.field = some asked.1 ∧ asked.2.accepts p.node = true := by
  induction parts generalizing places m with
  | nil => simp
  | cons first parts ih =>
    intro asked listed
    obtain ⟨part, among, required⟩ := List.mem_filterMap.mp listed
    obtain ⟨field, optional, pattern⟩ := first
    rcases List.mem_cons.mp among with rfl | later
    · obtain ⟨captures, inner, same⟩ := required?_some required
      rw [ChildPattern.part.injEq] at same
      obtain ⟨rfl, rfl, rfl⟩ := same
      rcases matchParts_cases found with ⟨optional, _⟩ | ⟨p, rest, suffix, fills, a, tried, _⟩
      · contradiction
      · exact ⟨p, suffix.subset List.mem_cons_self, by simpa using fills, accepts_of_mem_matchAt tried⟩
    · have others := List.mem_filterMap.mpr ⟨part, later, required⟩
      rcases matchParts_cases found with ⟨_, alone⟩ | ⟨p, rest, suffix, _, _, _, b, followed, _⟩
      · exact ih alone asked others
      · obtain ⟨q, member, fits⟩ := ih followed asked others
        exact ⟨q, suffix.subset (List.mem_cons_of_mem _ member), fits⟩

mutual

/-- What is captured as `anchor` has what the pattern asks of it. -/
theorem matchAt_sites {anchor : String} : ∀ (pattern : Pattern) (outer : List String)
    (above : List NodeTest) (p : Place), Site.Passed above p.ancestors →
      ∀ m ∈ matchAt outer pattern p, ∀ c ∈ m, c.name = anchor →
        ∃ s ∈ sites anchor outer above pattern, s.Holds c.place
  | node test captures parts, outer, above, p, passed, m, found, c, captured, named => by
    have accepts := accepts_of_mem_matchAt found
    simp only [matchAt, if_pos accepts] at found
    obtain ⟨below, bound, rfl⟩ := List.mem_map.mp found
    rw [sites]
    rcases List.mem_append.mp captured with own | part
    · obtain ⟨name, listed, rfl⟩ := List.mem_map.mp own
      refine ⟨⟨test :: above, parts.filterMap required?⟩, List.mem_append_left _ ?_, ⟨accepts, passed⟩, ?_⟩
      · rw [if_pos (by simpa [← named] using listed)]
        exact List.mem_singleton_self _
      · intro asked listed
        obtain ⟨q, child, fits⟩ := matchParts_required bound asked listed
        obtain ⟨i, n, at_, rfl⟩ := Place.mem_children.mp child
        exact ⟨n, List.mem_of_getElem? at_, fits⟩
    · have around : ∀ q ∈ p.children, Site.Passed (test :: above) q.ancestors := by
        intro q child
        obtain ⟨i, n, _, rfl⟩ := Place.mem_children.mp child
        exact ⟨accepts, passed⟩
      obtain ⟨s, listed, holds⟩ := matchParts_sites parts (test :: above) p.children around below bound c
        part named
      exact ⟨s, List.mem_append_right _ listed, holds⟩
  | oneOf captures alternatives, outer, above, p, passed, m, found, c, captured, named =>
    matchAny_sites alternatives (captures ++ outer) above p passed m found c captured named

theorem matchAny_sites {anchor : String} : ∀ (alternatives : List Pattern) (outer : List String)
    (above : List NodeTest) (p : Place), Site.Passed above p.ancestors →
      ∀ m ∈ matchAny outer alternatives p, ∀ c ∈ m, c.name = anchor →
        ∃ s ∈ anySites anchor outer above alternatives, s.Holds c.place
  | [], _, _, _, _, _, found, _, _, _ => by cases found
  | a :: as, outer, above, p, passed, m, found, c, captured, named => by
    rw [anySites]
    rcases List.mem_append.mp found with first | other
    · obtain ⟨s, listed, holds⟩ := matchAt_sites a outer above p passed m first c captured named
      exact ⟨s, List.mem_append_left _ listed, holds⟩
    · obtain ⟨s, listed, holds⟩ := matchAny_sites as outer above p passed m other c captured named
      exact ⟨s, List.mem_append_right _ listed, holds⟩

theorem matchParts_sites {anchor : String} : ∀ (parts : List ChildPattern) (above : List NodeTest)
    (places : List Place), (∀ q ∈ places, Site.Passed above q.ancestors) →
      ∀ m ∈ matchParts parts places, ∀ c ∈ m, c.name = anchor →
        ∃ s ∈ partSites anchor above parts, s.Holds c.place
  | [], _, _, _, m, found, c, captured, _ => by
    rw [matchParts, List.mem_singleton] at found
    subst found
    cases captured
  | .part field optional pattern :: parts, above, places, around, m, found, c, captured, named => by
    have others (later : List Place) (inside : later ⊆ places) (b : Match)
        (bound : b ∈ matchParts parts later) (among : c ∈ b) :
        ∃ s ∈ partSites anchor above (.part field optional pattern :: parts), s.Holds c.place := by
      obtain ⟨s, listed, holds⟩ := matchParts_sites parts above later
        (fun q member => around q (inside member)) b bound c among named
      exact ⟨s, List.mem_append_right _ listed, holds⟩
    rcases matchParts_cases found with ⟨_, alone⟩ | ⟨p, later, suffix, _, a, tried, b, followed, rfl⟩
    · exact others places (List.Subset.refl _) m alone captured
    · rcases List.mem_append.mp captured with here | after
      · obtain ⟨s, listed, holds⟩ := matchAt_sites pattern [] above p
          (around p (suffix.subset List.mem_cons_self)) a tried c here named
        exact ⟨s, List.mem_append_left _ listed, holds⟩
      · exact others later (fun q member => suffix.subset (List.mem_cons_of_mem _ member)) b followed after

end

end Pattern

namespace Query

/-- What the patterns of a query ask of a node that they capture as `anchor`. -/
def sites (q : Query) (anchor : String) : List Site := q.patterns.flatMap (Pattern.sites anchor [] [])

theorem run_sites {q : Query} {top : Place} {m : Match} (found : m ∈ q.run top) {c : Capture}
    (captured : c ∈ m) : ∃ s ∈ q.sites c.name, s.Holds c.place := by
  obtain ⟨p, _, pattern, among, way⟩ := exists_of_mem_run found
  obtain ⟨s, site, holds⟩ := pattern.matchAt_sites [] [] p trivial m way c captured rfl
  exact ⟨s, List.mem_flatMap.mpr ⟨pattern, among, site⟩, holds⟩

end Query

namespace Language

/-- What the queries of a language for this kind of definition ask of its anchors. -/
def sites (language : Language) (kind : Kind) : List Site :=
  language.definitions.flatMap fun q =>
    if q.1 = kind then q.2.patterns.flatMap (Pattern.sites kind.name [] []) else []

/-- Fields with one child at most, by the kind of their node, on which a language relies to tell
definitions apart. -/
def single (language : Language) : List (String × String) :=
  if language.name = "go" then [("type_spec", "type")] else []

/-- The known languages ask for different anchors for different kinds, unless one of the two is callable
and the other not. -/
theorem builtin_apart : ∀ language ∈ builtin, ∀ a ∈ language.kinds, ∀ b ∈ language.kinds, a ≠ b →
    a.callable = b.callable → ∀ s ∈ language.sites a, ∀ t ∈ language.sites b,
      s.apart language.single t = true := by
  decide +kernel

/-- A function and a variable are found at one kind of node, a declaration of names with values. -/
structure Declares (language : Language) (a b : Kind) (s : Site) : Prop where
  language : language.name = "javascript" ∨ language.name = "typescript" ∨ language.name = "tsx"
  callable : a = .function
  other : b = .variableDef
  node : s.upward.head? = some (.kind "lexical_declaration")

instance (language : Language) (a b : Kind) (s : Site) : Decidable (Declares language a b s) :=
  decidable_of_iff (_ ∧ _ ∧ _ ∧ _)
    ⟨fun ⟨l, c, o, n⟩ => ⟨l, c, o, n⟩, fun ⟨l, c, o, n⟩ => ⟨l, c, o, n⟩⟩

/-- The known languages ask for a callable and for something else at one node only in a declaration. -/
theorem builtin_declares : ∀ language ∈ builtin, ∀ a ∈ language.kinds, ∀ b ∈ language.kinds,
    a.callable = true → b.callable = false → ∀ s ∈ language.sites a, ∀ t ∈ language.sites b,
      s.apart language.single t = true ∨ Declares language a b s := by
  decide +kernel

end Language

namespace Extracted

variable {language : Language} {src : Source} {root : Node} {a b : Extracted}

theorem exists_site (member : a ∈ definitions language src (.root root)) :
    ∃ s ∈ language.sites a.definition.kind, s.Holds a.anchor := by
  obtain ⟨f, found, same⟩ := definitions_origin member
  have kind : a.definition.kind = f.definition.kind := congrArg (fun x => x.definition.kind) same
  have anchor : a.anchor = f.anchor := congrArg (fun x => x.anchor) same
  obtain ⟨kind_, q, m, listed, matched, here⟩ := exists_match found
  obtain ⟨rfl, anchored, _⟩ := ofMatch?_some here
  obtain ⟨c, captured, named, place⟩ := last?_mem anchored
  obtain ⟨s, site, holds⟩ := Query.run_sites matched captured
  rw [named] at site
  rw [kind, anchor, ← place]
  refine ⟨s, List.mem_flatMap.mpr ⟨_, listed, ?_⟩, holds⟩
  rw [if_pos rfl]
  exact site

/-- One node is not the anchor of two kinds, unless one of the two is callable and the other not. -/
theorem kind_eq_of_anchor (known : language ∈ Language.builtin)
    (single : ∀ kind field, (kind, field) ∈ language.single → root.Single kind field)
    (left : a ∈ definitions language src (.root root)) (right : b ∈ definitions language src (.root root))
    (same : a.anchor = b.anchor) (callable : a.definition.kind.callable = b.definition.kind.callable) :
    a.definition.kind = b.definition.kind := by
  by_contra differ
  obtain ⟨kind, within, _⟩ := mem_definitions left
  obtain ⟨s, site, holds⟩ := exists_site left
  obtain ⟨t, siteToo, holdsToo⟩ := exists_site right
  rw [← same] at holdsToo
  have apart := Language.builtin_apart language known _ kind _ (mem_definitions right).1 differ callable
    s site t siteToo
  rw [holds.not_both single within holdsToo] at apart
  contradiction

theorem callable_eq_of_anchor (left : a ∈ definitions language src (.root root))
    (right : b ∈ definitions language src (.root root)) (same : a.anchor = b.anchor)
    (name : a.definition.name = b.definition.name) :
    a.definition.kind.callable = b.definition.kind.callable := by
  -- Of two definitions with one anchor and one name both are callable or neither: they have the same
  -- lines.
  have lines : a.nameAndSpan = b.nameAndSpan := by
    rw [nameAndSpan, nameAndSpan, name, (mem_definitions left).2.2.span, (mem_definitions right).2.2.span,
      same]
  cases first : a.definition.kind.callable <;> cases second : b.definition.kind.callable
  · rfl
  · exact absurd lines.symm (nameAndSpan_ne_callable left first right second)
  · exact absurd lines (nameAndSpan_ne_callable right second left first)
  · rfl

/-- Only a declaration of names with their values is the anchor of a callable and of something else: of a
function and of a variable. -/
theorem declaration_of_anchor (known : language ∈ Language.builtin)
    (single : ∀ kind field, (kind, field) ∈ language.single → root.Single kind field)
    (left : a ∈ definitions language src (.root root)) (right : b ∈ definitions language src (.root root))
    (same : a.anchor = b.anchor) (callable : a.definition.kind.callable = true)
    (other : b.definition.kind.callable = false) :
    a.definition.kind = .function ∧ b.definition.kind = .variableDef ∧
      a.anchor.node.kind = "lexical_declaration" ∧
      (language.name = "javascript" ∨ language.name = "typescript" ∨ language.name = "tsx") := by
  obtain ⟨kind, within, _⟩ := mem_definitions left
  obtain ⟨s, site, holds⟩ := exists_site left
  obtain ⟨t, siteToo, holdsToo⟩ := exists_site right
  rw [← same] at holdsToo
  rcases Language.builtin_declares language known _ kind _ (mem_definitions right).1 callable other
    s site t siteToo with apart | declares
  · rw [holds.not_both single within holdsToo] at apart
    contradiction
  · refine ⟨declares.callable, declares.other, ?_, declares.language⟩
    obtain ⟨rest, tests⟩ := List.head?_eq_some_iff.mp declares.node
    have passed := holds.upward
    rw [tests] at passed
    have named : a.anchor.node.named = true ∧ a.anchor.node.kind = "lexical_declaration" := by
      simpa [NodeTest.accepts] using passed.1
    exact named.2

/-- In the known languages no two definitions have one anchor and one name, and a node is never a function
and a method. A node that is a callable and something else declares a function and a variable of two
names. -/
theorem definitions_classify_once (language : Language) (known : language ∈ Language.builtin)
    (src : Source) (root : Node) (single : language.name = "go" → root.Single "type_spec" "type") :
    let es := definitions language src (.root root)
    (es.Pairwise fun a b => a.definition.name = b.definition.name →
      a.anchor.address ≠ b.anchor.address) ∧
    (∀ a ∈ es, ∀ b ∈ es, a.definition.kind = .function → b.definition.kind = .method →
      a.anchor.address ≠ b.anchor.address) ∧
    ∀ a ∈ es, ∀ b ∈ es, a.definition.kind.callable = true → b.definition.kind.callable = false →
      a.anchor.address = b.anchor.address →
      a.definition.kind = .function ∧ b.definition.kind = .variableDef ∧
      a.definition.name ≠ b.definition.name ∧ a.anchor.node.kind = "lexical_declaration" ∧
      (language.name = "javascript" ∨ language.name = "typescript" ∨ language.name = "tsx") := by
  intro es
  have fields : ∀ kind field, (kind, field) ∈ language.single → root.Single kind field := by
    intro kind field listed
    rw [Language.single] at listed
    split at listed
    · obtain ⟨rfl, rfl⟩ := Prod.mk.inj (List.mem_singleton.mp listed)
      exact single ‹_›
    · cases listed
  have place {a b : Extracted} (left : a ∈ es) (right : b ∈ es)
      (same : a.anchor.address = b.anchor.address) : a.anchor = b.anchor :=
    (mem_definitions left).2.1.eq_of_address (mem_definitions right).2.1 same
  refine ⟨?_, ?_, ?_⟩
  · have keys := definitions_keys_nodup language src (.root root)
    rw [List.Nodup, List.pairwise_map] at keys
    refine keys.imp_of_mem ?_
    intro a b left right differ name address
    have same := place left right address
    have kind := kind_eq_of_anchor known fields left right same (callable_eq_of_anchor left right same name)
    exact differ (by rw [key, key, kind, name, same])
  · intro a left b right function method address
    have kind := kind_eq_of_anchor known fields left right (place left right address)
      (by rw [function, method]; rfl)
    rw [function, method] at kind
    contradiction
  · intro a left b right callable other address
    have same := place left right address
    obtain ⟨function, variable_, kind, names⟩ :=
      declaration_of_anchor known fields left right same callable other
    refine ⟨function, variable_, ?_, kind, names⟩
    intro name
    have both := callable_eq_of_anchor left right same name
    rw [callable, other] at both
    contradiction

/-- A structure and an interface in one declaration, each with one type. -/
theorem definitions_classify_once_types :
    let part (kind field : String) (start stop : Nat) : Node :=
      ⟨kind, some field, ⟨start, stop⟩, true, false, false, false, []⟩
    let whole (kind : String) (start stop : Nat) (children : List Node) : Node :=
      ⟨kind, none, ⟨start, stop⟩, true, false, false, false, children⟩
    let root := whole "source_file" 0 34 [whole "type_declaration" 0 34
      [whole "type_spec" 6 17 [part "type_identifier" "name" 6 7, part "struct_type" "type" 8 17],
        whole "type_spec" 19 33 [part "type_identifier" "name" 19 20, part "interface_type" "type" 21 33]]]
    let src := Source.ofText "type (T struct \x7b\x7d; U interface \x7b\x7d)"
    let es := definitions Language.go src (.root root)
    root.Single "type_spec" "type" ∧
    es.map (fun e => (e.definition.kind, e.definition.name)) = [(.classDef, "T"), (.interface, "U")] ∧
    es.Pairwise fun a b => a.definition.name = b.definition.name →
      a.anchor.address ≠ b.anchor.address := by
  intro part whole root src es
  have single : root.Single "type_spec" "type" := by
    unfold Node.Single
    decide
  have found : es = numberFrom 1 _ := definitions_of_sorted (by decide +kernel) rfl (by decide +kernel)
  refine ⟨single, ?_, ?_⟩
  · rw [found]
    decide +kernel
  · exact (definitions_classify_once Language.go (by simp [Language.builtin]) src root fun _ => single).1

/-- One declaration gives the function `f` and the variable `x`. -/
theorem definitions_share_declaration :
    let token (kind : String) (start stop : Nat) : Node :=
      ⟨kind, none, ⟨start, stop⟩, false, false, false, false, []⟩
    let part (kind field : String) (start stop : Nat) (children : List Node) : Node :=
      ⟨kind, some field, ⟨start, stop⟩, true, false, false, false, children⟩
    let whole (kind : String) (start stop : Nat) (children : List Node) : Node :=
      ⟨kind, none, ⟨start, stop⟩, true, false, false, false, children⟩
    let function := part "arrow_function" "value" 10 17
      [part "formal_parameters" "parameters" 10 12 [token "(" 10 11, token ")" 11 12],
        token "=>" 13 15, part "number" "body" 16 17 []]
    let root := whole "program" 0 25 [whole "lexical_declaration" 0 25
      [⟨"const", some "kind", ⟨0, 5⟩, false, false, false, false, []⟩,
        whole "variable_declarator" 6 17
          [part "identifier" "name" 6 7 [], token "=" 8 9, function],
        token "," 17 18,
        whole "variable_declarator" 19 24
          [part "identifier" "name" 19 20 [], token "=" 21 22, part "number" "value" 23 24 []],
        token ";" 24 25]]
    let es := definitions Language.javascript (Source.ofText "const f = () => 1, x = 2;") (.root root)
    ∃ a ∈ es, ∃ b ∈ es, a.definition.kind = .function ∧ a.definition.name = "f" ∧
      b.definition.kind = .variableDef ∧ b.definition.name = "x" ∧
      a.anchor.address = b.anchor.address := by
  intro token part whole function root es
  have found : es = numberFrom 1 _ := definitions_of_sorted (by decide +kernel) rfl (by decide +kernel)
  rw [found]
  decide +kernel

end Extracted

end SourceOutline

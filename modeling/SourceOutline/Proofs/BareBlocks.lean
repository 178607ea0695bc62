import SourceOutline.Proofs.OwnParameters
import SourceOutline.Proofs.ParameterText
import SourceOutline.Proofs.Search

/-! Parameter blocks with nothing in them but brackets, commas and comments. No query finds a parameter there,
so the text decides. Of the text, blanks and commas do not count, but whatever else stands between the
brackets does: a callable has no parameters if and only if there is no comment in its block and the
brackets are a pair. -/
namespace SourceOutline

open Place (Within)

namespace Site

/-- What `t` asks for is of one of these kinds, where it is right below what `s` asks for. -/
def entersBy (kinds : List String) (s t : Site) : Bool :=
  match s.upward, t.upward with
  | .kind kind :: _, own :: .kind above :: _ => above != kind || kinds.any fun k => own == .kind k
  | _, _ => false

theorem Holds.enters {kinds : List String} {s t : Site} (enters : s.entersBy kinds t = true)
    {block : Place} {i : Nat} {n : Node} (outer : s.Holds block) (inner : t.Holds (.child block i n)) :
    n.kind ∈ kinds := by
  have around := outer.upward
  have passed := inner.upward
  unfold entersBy at enters
  split at enters
  · rename_i kind _ own above _ asked askedToo
    rw [asked] at around
    rw [askedToo] at passed
    have same : above = kind :=
      (NodeTest.kind_of_accepts passed.2.1).symm.trans (NodeTest.kind_of_accepts around.1)
    obtain ⟨k, listed, rfl⟩ : ∃ k ∈ kinds, own = .kind k := by simpa [same] using enters
    have own : n.kind = k := NodeTest.kind_of_accepts passed.1
    rwa [own]
  · contradiction

end Site

/-- Kinds of nodes that are names of parameters when they stand in a block on their own. -/
def Parameter.nameKinds : List String := ["identifier", "object_pattern", "array_pattern", "self_parameter"]

theorem Language.builtin_enters : ∀ language ∈ builtin, ∀ d ∈ language.definitions,
    ∀ q ∈ language.parameters, ∀ s ∈ d.2.sites "parameters", ∀ t ∈ q.sites "param_name",
      s.entersBy Parameter.nameKinds t = true := by
  decide +kernel

namespace Parameter

section

variable {language : Language} {src : Source} {root block : Place} {e : Extracted}

/-- A parameter of the block itself is, or is in, a child of the block that has one of these kinds. -/
theorem Owned.exists_child (known : language ∈ Language.builtin)
    (member : e ∈ Extracted.definitions language src root) (given : e.block = some block) {m : Match}
    (listed : m ∈ found language block) {name : Place} (owned : Owned src block m name) :
    ∃ n ∈ block.node.children, n.kind ∈ nameKinds ∨ n.kind ∈ wrappers := by
  obtain ⟨c, captured, named, rfl⟩ := Match.first?_mem owned.captured
  have within : Within block c.place := found_within listed c captured
  rcases within.cases_head with same | ⟨i, n, at_, below⟩
  · obtain ⟨nearer, above, split, _⟩ := owned.nearest
    rw [same] at split
    exact absurd (split ▸ by simp) (Place.not_mem_ancestors block)
  -- The way down to the name starts with this child, and may end there.
  refine ⟨n, List.mem_of_getElem? at_, ?_⟩
  by_cases own : .child block i n = c.place
  · left
    obtain ⟨d, query, _, matched, b, capturedToo, namedToo, rfl⟩ :=
      Extracted.exists_block_capture member given
    unfold found at listed
    split at listed
    · rename_i q asked
      obtain ⟨s, site, outer⟩ := Query.run_sites matched capturedToo
      obtain ⟨t, siteToo, inner⟩ := Query.run_sites listed captured
      rw [namedToo] at site
      rw [named] at siteToo
      rw [← own] at inner
      exact outer.enters (Language.builtin_enters language known d query q asked s site t siteToo) inner
    · cases listed
  · right
    have above : .child block i n ∈ c.place.ancestors :=
      Place.mem_ancestors_of_ne below.mem_outward own
    rcases owned.above known member given listed _ above with outside | inside
    · exact absurd outside (Place.not_mem_ancestors (.child block i n))
    · exact inside

theorem ofBlock_eq_split (known : language ∈ Language.builtin)
    (member : e ∈ Extracted.definitions language src root) (given : e.block = some block)
    (bare : ∀ n ∈ block.node.children, n.kind ∉ nameKinds ∧ n.kind ∉ wrappers) :
    ofBlock language src block = split (src.text block) := by
  have within : ∀ m ∈ found language block, ∀ c ∈ m, Within block c.place := fun m => found_within
  rw [ofBlock_eq, if_pos ((picked_eq_nil_iff within).mpr ?_)]
  rintro ⟨m, listed, name, owned⟩
  obtain ⟨n, child, leads⟩ := owned.exists_child known member given listed
  exact leads.elim (bare n child).1 (bare n child).2

end

def Void (cs : List Char) : Prop := ∀ c ∈ cs, Text.isBlank c = true ∨ c = ','

theorem void_nil : Void [] := nofun

/-- A parameter can start with this character. -/
structure Solid (c : Char) : Prop where
  blank : Text.isBlank c = false
  comma : c ≠ ','
  equals : c ≠ '='

theorem pieces_void_append {front : List Char} (void : Void front) (cs : List Char) :
    pieces (front ++ cs) = pieces cs := by
  induction front with
  | nil => rfl
  | cons c front ih =>
    rw [Void, List.forall_mem_cons] at void
    rw [List.cons_append]
    rcases void.1 with blank | rfl
    · rw [pieces_cons_blank blank, ih void.2]
    · have first := pieces_append_comma [] (front ++ cs)
      rw [List.nil_append] at first
      rw [first, ih void.2]
      rfl

theorem pieces_void {cs : List Char} (void : Void cs) : pieces cs = [] := by
  rw [← List.append_nil cs, pieces_void_append void]
  rfl

theorem ofWords?_isSome {c : Char} (solid : Text.isBlank c = false) (cs : List Char) :
    (ofWords? (c :: cs)).isSome := by
  have filled : Text.wordsOf (c :: cs) ≠ [] := by
    rw [Text.wordsOf, List.splitOnP_cons_eq_if_modifyHead, if_neg (by simp [solid])]
    cases runs : cs.splitOnP Text.isBlank with
    | nil => exact absurd runs (List.splitOnP_ne_nil _ _)
    | cons run runs => simp
  unfold ofWords?
  simp only
  split
  · rename_i none
    simp [filled] at none
  · rfl

theorem ofPiece?_eq_none_iff {piece : List Char} :
    ofPiece? piece = none ↔ Text.trimChars (Text.before '=' piece) = [] := by
  have trimmed := Text.trimmed_trimChars (Text.before '=' piece)
  cases bare : Text.trimChars (Text.before '=' piece) with
  | nil => simp [ofPiece?, bare]
  | cons c cs =>
    rw [bare] at trimmed
    obtain ⟨p, read⟩ := Option.isSome_iff_exists.mp (ofWords?_isSome (trimmed.1 c rfl) cs)
    rw [ofPiece?_eq bare (List.cons_ne_nil c cs), read]
    cases ofTyped? (c :: cs) <;> simp

theorem ofPiece?_solid {c : Char} (solid : Solid c) (cs : List Char) : ofPiece? (c :: cs) ≠ none := by
  rw [Ne, ofPiece?_eq_none_iff, Text.before, List.takeWhile_cons_of_pos (by simpa using solid.equals),
    Text.trimChars, Text.trimLeft, List.dropWhile_cons_of_neg (by simp [solid.blank])]
  intro blank
  have first := List.rdropWhile_eq_nil_iff.mp blank c List.mem_cons_self
  simp [solid.blank] at first

theorem pieces_solid {front : List Char} (void : Void front) {c : Char} (solid : Solid c)
    (cs : List Char) : pieces (front ++ c :: cs) ≠ [] := by
  rw [pieces_void_append void]
  have first (rest : List Char) (apart : ',' ∉ rest) : pieces (c :: rest) ≠ [] := by
    have whole : ',' ∉ c :: rest := by simp [apart, solid.comma.symm]
    simpa [pieces_of_not_mem whole] using ofPiece?_solid solid rest
  by_cases member : ',' ∈ cs
  · obtain ⟨rest, later, rfl, apart⟩ := List.eq_append_cons_of_mem member
    rw [← List.cons_append, pieces_append_comma]
    exact List.append_ne_nil_of_left_ne_nil (first rest apart) _
  · exact first cs member

/-- Such a character that is no bracket. -/
structure Mark (c : Char) : Prop extends Solid c where
  opening : c ≠ '('
  closing : c ≠ ')'

/-- After blanks and commas comes something else that is no bracket. -/
def Led (cs : List Char) : Prop := ∃ front c rest, cs = front ++ c :: rest ∧ Void front ∧ Mark c

theorem Led.cons {c : Char} {cs : List Char} (void : Text.isBlank c = true ∨ c = ',') (led : Led cs) :
    Led (c :: cs) := by
  obtain ⟨front, d, rest, rfl, others, mark⟩ := led
  exact ⟨c :: front, d, rest, rfl, List.forall_mem_cons.mpr ⟨void, others⟩, mark⟩

theorem Led.pieces {cs : List Char} (led : Led cs) (tail : List Char) : pieces (cs ++ tail) ≠ [] := by
  obtain ⟨front, c, rest, rfl, void, mark⟩ := led
  rw [List.append_assoc, List.cons_append]
  exact pieces_solid void mark.toSolid _

theorem solid_opening : Solid '(' := ⟨by decide, by decide, by decide⟩

theorem solid_closing : Solid ')' := ⟨by decide, by decide, by decide⟩

theorem Solid.not_mem {c : Char} (solid : Solid c) {cs : List Char} (void : Void cs) : c ∉ cs := by
  intro member
  rcases void c member with blank | comma
  · simp [solid.blank] at blank
  · exact solid.comma comma

theorem split_unopened {raw : String} (first : raw.toList.find? (fun c => !Text.isBlank c) ≠ some '(') :
    split raw = pieces raw.toList := by
  -- Without an opening bracket all of a text counts.
  have whole : stripParentheses (Text.trimChars raw.toList) = Text.trimChars raw.toList := by
    unfold stripParentheses
    split
    · rename_i rest opened
      refine absurd ?_ first
      obtain ⟨tail, same⟩ := Text.trimRight_prefix (Text.trimLeft raw.toList)
      rw [show Text.trimRight (Text.trimLeft raw.toList) = '(' :: rest from opened] at same
      rw [List.find?_not_eq_head?_dropWhile, show raw.toList.dropWhile Text.isBlank = _ from same.symm]
      rfl
    · rfl
  rw [split_eq, whole, pieces_trimChars]

theorem find?_void_append {front : List Char} (void : Void front) {cs : List Char}
    (first : cs.find? (fun c => !Text.isBlank c) ≠ some '(') :
    (front ++ cs).find? (fun c => !Text.isBlank c) ≠ some '(' := by
  rw [List.find?_append]
  cases found : front.find? fun c => !Text.isBlank c with
  | none => exact first
  | some c =>
    rintro ⟨⟩
    exact solid_opening.not_mem void (List.mem_of_find?_eq_some found)

/-- An opening bracket alone counts, unless something else ends with one that closes it, and then that
counts. -/
theorem split_unclosed {raw : String} {inner : List Char} (text : raw.toList = '(' :: inner)
    (laid : Void inner ∨ Led inner) : split raw ≠ [] := by
  obtain ⟨kept, tail, whole, trimmed⟩ :
      ∃ kept tail, inner = kept ++ tail ∧ Text.trimChars raw.toList = '(' :: kept := by
    obtain ⟨tail, whole⟩ := Text.trimRight_prefix inner
    refine ⟨_, tail, whole.symm, ?_⟩
    rw [text, Text.trimChars, Text.trimLeft, List.dropWhile_cons_of_neg (by decide),
      Text.trimRight_cons_solid solid_opening.blank]
  rw [split_eq, trimmed]
  simp only [stripParentheses, Text.beforeLast?]
  split
  · rename_i last
    have closing : ')' ∈ kept := List.mem_of_getLast? last
    rcases laid with void | ⟨front, c, rest, start, void, mark⟩
    · exact absurd (whole ▸ List.mem_append_left tail closing) (solid_closing.not_mem void)
    -- The bracket is behind the first mark, so that mark is still there without it.
    rcases List.append_eq_append_iff.mp (whole.symm.trans start) with
      ⟨others, cut, _⟩ | ⟨others, rfl, cut⟩
    · exact absurd (cut ▸ List.mem_append_left others closing) (solid_closing.not_mem void)
    cases others with
    | nil => exact absurd (by simpa using closing) (solid_closing.not_mem void)
    | cons d others =>
      obtain rfl : c = d := (List.cons.inj cut).1
      cases others with
      | nil => exact absurd (by simpa using last) mark.closing
      | cons d others =>
        simpa [List.dropLast_append_of_ne_nil] using pieces_solid void mark.toSolid _
  · exact pieces_solid void_nil solid_opening kept

/-- A text of blanks, commas and more in brackets is without parameters if there is no more, and both
brackets or none. -/
theorem split_eq_nil_iff {raw : String} {inner : List Char} {opened closed : Bool}
    (text : raw.toList = (if opened then ['('] else []) ++ inner ++ (if closed then [')'] else []))
    (laid : Void inner ∨ Led inner) : split raw = [] ↔ Void inner ∧ opened = closed := by
  have alone : pieces inner = [] ↔ Void inner := by
    refine ⟨fun none => laid.resolve_right fun led => ?_, pieces_void⟩
    exact led.pieces [] (by rwa [List.append_nil])
  have unopened {tail : List Char} (first : tail.find? (fun c => !Text.isBlank c) ≠ some '(') :
      (inner ++ tail).find? (fun c => !Text.isBlank c) ≠ some '(' := by
    rcases laid with void | ⟨front, c, rest, rfl, void, mark⟩
    · exact find?_void_append void first
    · rw [List.append_assoc]
      refine find?_void_append void ?_
      simp [mark.blank, mark.opening]
  -- Brackets are taken off in pairs only; one alone is text like any other.
  cases opened with
  | false =>
    rw [if_neg (by decide), List.nil_append] at text
    cases closed with
    | false =>
      have first := @unopened [] (by simp)
      rw [split_unopened (by rwa [text]), text]
      simpa using alone
    | true =>
      have first := @unopened [')'] (by decide)
      have counts : pieces (inner ++ [')']) ≠ [] :=
        laid.elim (fun void => pieces_solid void solid_closing []) fun led => led.pieces [')']
      rw [split_unopened (by rwa [text]), text]
      simpa using counts
  | true =>
    cases closed with
    | false => simpa using split_unclosed (by simpa using text) laid
    | true =>
      have whole : raw = "(" ++ String.ofList inner ++ ")" := by
        rw [← String.toList_inj]
        simpa using text
      rw [whole, split_parenthesized, String.toList_ofList]
      simpa using alone

/-- Kinds of nodes that may stand anywhere: comments, and the ends of lines that go on. -/
def extraKinds : List String :=
  ["comment", "html_comment", "line_comment", "block_comment", "line_continuation"]

/-- The nodes make this text, with blanks anywhere between them. A comma is written as one; the text of an
extra starts with a mark of its own, such as a slash or a hash, and may go on in any way. -/
inductive Laid (src : Source) : List Node → List Char → Prop
  | nil : Laid src [] []
  | blank {ns : List Node} {cs : List Char} {c : Char} (blank : Text.isBlank c = true)
      (rest : Laid src ns cs) : Laid src ns (c :: cs)
  | comma {n : Node} {ns : List Node} {cs : List Char} (kind : n.kind = ",") (rest : Laid src ns cs) :
      Laid src (n :: ns) (',' :: cs)
  | extra {n : Node} {ns : List Node} {text cs : List Char} {c : Char} (kind : n.kind ∈ extraKinds)
      (written : (src.slice n.range).toList = c :: text) (mark : Mark c) (rest : Laid src ns cs) :
      Laid src (n :: ns) (c :: text ++ cs)

section

variable {src : Source} {ns : List Node} {cs : List Char}

theorem Laid.kinds (laid : Laid src ns cs) : ∀ n ∈ ns, n.kind = "," ∨ n.kind ∈ extraKinds := by
  induction laid with
  | nil => nofun
  | blank _ _ ih => exact ih
  | comma kind _ ih => exact List.forall_mem_cons.mpr ⟨.inl kind, ih⟩
  | extra kind _ _ _ ih => exact List.forall_mem_cons.mpr ⟨.inr kind, ih⟩

theorem Laid.cases (laid : Laid src ns cs) :
    ((∀ n ∈ ns, n.kind = ",") ∧ Void cs) ∨ ((¬ ∀ n ∈ ns, n.kind = ",") ∧ Led cs) := by
  induction laid with
  | nil => exact .inl ⟨nofun, void_nil⟩
  | blank blank _ ih =>
    rcases ih with ⟨commas, void⟩ | ⟨more, led⟩
    · exact .inl ⟨commas, List.forall_mem_cons.mpr ⟨.inl blank, void⟩⟩
    · exact .inr ⟨more, led.cons (.inl blank)⟩
  | comma kind _ ih =>
    rcases ih with ⟨commas, void⟩ | ⟨more, led⟩
    · exact .inl ⟨List.forall_mem_cons.mpr ⟨kind, commas⟩, List.forall_mem_cons.mpr ⟨.inr rfl, void⟩⟩
    · exact .inr ⟨fun all => more (List.forall_mem_cons.mp all).2, led.cons (.inr rfl)⟩
  | @extra n ns text cs c kind _ mark _ _ =>
    refine .inr ⟨?_, [], c, text ++ cs, rfl, void_nil, mark⟩
    intro all
    rw [all n List.mem_cons_self] at kind
    revert kind
    decide

theorem Laid.void_iff (laid : Laid src ns cs) : Void cs ↔ ∀ n ∈ ns, n.kind = "," := by
  rcases laid.cases with ⟨commas, void⟩ | ⟨more, front, c, rest, rfl, _, mark⟩
  · exact ⟨fun _ => commas, fun _ => void⟩
  · refine ⟨fun void => absurd ?_ (mark.not_mem void), fun commas => absurd commas more⟩
    simp

end

/-- The block has nothing in it but brackets, commas and extras, and they make up its text; a bracket that
is missing from the source is not in the text. -/
structure Bare (src : Source) (block : Place) (opening : Node) (fillers : List Node) (closing : Node) :
    Prop where
  children : block.node.children = opening :: (fillers ++ [closing])
  opens : opening.kind = "("
  closes : closing.kind = ")"
  text : ∃ inner, Laid src fillers inner ∧ (src.text block).toList =
    (if !opening.missing then ['('] else []) ++ inner ++ (if !closing.missing then [')'] else [])

section

variable {language : Language} {src : Source} {root block : Place} {e : Extracted}
  {opening closing : Node} {fillers : List Node}

theorem Bare.ofBlock (bare : Bare src block opening fillers closing) (known : language ∈ Language.builtin)
    (member : e ∈ Extracted.definitions language src root) (given : e.block = some block) :
    ofBlock language src block = split (src.text block) := by
  obtain ⟨inner, laid, _⟩ := bare.text
  have apart : ∀ kind ∈ "(" :: ")" :: "," :: extraKinds, kind ∉ nameKinds ∧ kind ∉ wrappers := by
    decide
  refine ofBlock_eq_split known member given ?_
  intro n child
  refine apart n.kind ?_
  rw [bare.children] at child
  simp only [List.mem_cons, List.mem_append, List.not_mem_nil, or_false] at child
  rcases child with rfl | filler | rfl
  · simp [bare.opens]
  · rcases laid.kinds n filler with comma | extra
    · simp [comma]
    · simp [extra]
  · simp [bare.closes]

theorem Bare.split_eq_nil_iff (bare : Bare src block opening fillers closing) :
    split (src.text block) = [] ↔ (∀ n ∈ fillers, n.kind = ",") ∧ opening.missing = closing.missing := by
  obtain ⟨inner, laid, text⟩ := bare.text
  rw [Parameter.split_eq_nil_iff text (laid.cases.imp And.right And.right), laid.void_iff,
    Bool.not_inj_iff]

end

end Parameter

namespace Extracted

variable {language : Language} {src : Source} {e : Extracted} {block : Place}

theorem callable_of_block {root : Place} (member : e ∈ definitions language src root)
    (given : e.block = some block) : e.definition.kind.callable = true := by
  obtain ⟨f, found, same⟩ := definitions_origin member
  have kind : e.definition.kind = f.definition.kind := congrArg (fun x => x.definition.kind) same
  have blocks : e.block = f.block := congrArg (fun x => x.block) same
  obtain ⟨kind_, q, m, _, _, here⟩ := exists_match found
  rw [blocks, (ofMatch?_captures here).2, Option.ite_none_right_eq_some] at given
  obtain ⟨rfl, _⟩ := ofMatch?_some here
  rw [kind]
  exact given.1

theorem complete_parameters {root : Place} (member : e ∈ definitions language src root)
    (given : e.block = some block) :
    (complete language src e).parameters = Parameter.ofBlock language src block ∧
    (complete language src e).parameterCount = (Parameter.ofBlock language src block).length := by
  rw [complete, if_pos (callable_of_block member given), given]
  exact ⟨rfl, rfl⟩

end Extracted

namespace Index

open Extracted (definitions complete numberFrom definitions_of_sorted)

theorem exists_listed {language : Language} (known : language ∈ Language.builtin) (path : String)
    {text : String} {root : Node} {e : Extracted}
    (member : e ∈ definitions language (Source.ofText text) (.root root)) :
    ∃ d ∈ ofSource (some language) path text (some root),
      d.unlink = complete language (Source.ofText text) e := by
  have inside : complete language (Source.ofText text) e ∈
      (definitions language (Source.ofText text) (.root root)).map
        (complete language (Source.ofText text)) := List.mem_map_of_mem member
  rw [← ofSource_unlink (Language.builtin_extractable language known) path] at inside
  obtain ⟨d, kept, unlinked⟩ := List.mem_map.mp inside
  exact ⟨d, List.mem_of_mem_filter kept, unlinked⟩

/-- In the known languages a callable whose block has nothing in it but brackets, commas and extras has the
parameters that the text of the block splits into; it has none if and only if there is no extra, and both
brackets are written or neither. -/
theorem ofSource_bare_block (language : Language) (known : language ∈ Language.builtin) (path text : String)
    (root : Node) (e : Extracted) (member : e ∈ definitions language (Source.ofText text) (.root root))
    (block : Place) (given : e.block = some block) (opening closing : Node) (fillers : List Node)
    (bare : Parameter.Bare (Source.ofText text) block opening fillers closing) :
    let parameters := Parameter.ofBlock language (Source.ofText text) block
    parameters = Parameter.split ((Source.ofText text).text block) ∧
    (parameters = [] ↔ (∀ n ∈ fillers, n.kind = ",") ∧ opening.missing = closing.missing) ∧
    ∃ d ∈ ofSource (some language) path text (some root), d.id = e.definition.id ∧
      d.parameters = parameters ∧ d.parameterCount = parameters.length := by
  intro parameters
  have pieces : parameters = Parameter.split ((Source.ofText text).text block) :=
    bare.ofBlock known member given
  refine ⟨pieces, pieces ▸ bare.split_eq_nil_iff, ?_⟩
  obtain ⟨d, listed, unlinked⟩ := exists_listed known path member
  obtain ⟨own, count⟩ := Extracted.complete_parameters member given
  refine ⟨d, listed, ?_, (congrArg (·.parameters) unlinked).trans own,
    (congrArg (·.parameterCount) unlinked).trans count⟩
  exact (congrArg (·.id) unlinked).trans (Extracted.complete_id language (Source.ofText text) e)

/-- A comment with a comma in it gives two parameters. -/
theorem ofSource_bare_block_comma :
    let part (kind field : String) (start stop : Nat) (children : List Node) : Node :=
      ⟨kind, some field, ⟨start, stop⟩, true, false, false, false, children⟩
    let mark (kind : String) (start stop : Nat) : Node :=
      ⟨kind, none, ⟨start, stop⟩, false, false, false, false, []⟩
    let comment : Node := ⟨"comment", none, ⟨7, 13⟩, true, false, true, false, []⟩
    let list := part "parameters" "parameters" 5 15 [mark "(" 5 6, comment, mark ")" 14 15]
    let definition : Node := ⟨"function_definition", none, ⟨0, 21⟩, true, false, false, false,
      [mark "def" 0 3, part "identifier" "name" 4 5 [], list, mark ":" 15 16,
        part "block" "body" 17 21 []]⟩
    let root : Node := ⟨"module", none, ⟨0, 21⟩, true, false, false, false, [definition]⟩
    let text := "def f( # a, b\n): pass"
    let block : Place := .child (.child (.root root) 0 definition) 2 list
    (∃ e ∈ definitions .python (Source.ofText text) (.root root), e.block = some block) ∧
    Parameter.Bare (Source.ofText text) block (mark "(" 5 6) [comment] (mark ")" 14 15) ∧
    ∃ d ∈ ofSource (some .python) "f.py" text (some root), d.parameters ≠ [] ∧ d.parameterCount = 2 := by
  intro part mark comment list definition root text block
  have found : definitions .python (Source.ofText text) (.root root) = numberFrom 1 _ :=
    definitions_of_sorted (by decide +kernel) rfl (by decide +kernel)
  obtain ⟨e, member, given⟩ :
      ∃ e ∈ definitions .python (Source.ofText text) (.root root), e.block = some block := by
    have addressed : (definitions .python (Source.ofText text) (.root root)).any
        (fun e => e.block.any (·.address == [0, 2])) = true := by
      rw [found]
      decide +kernel
    obtain ⟨e, member, there⟩ := List.any_eq_true.mp addressed
    have within : Within (.root root) block := (Within.here.child rfl).child rfl
    cases given : e.block with
    | none => simp [given] at there
    | some b =>
      have address : b.address = [0, 2] := by simpa [given] using there
      have same := (Extracted.block_within member given).eq_of_address within address
      exact ⟨e, member, given.trans (congrArg some same)⟩
  have hash : Parameter.Mark '#' := ⟨⟨by decide, by decide, by decide⟩, by decide, by decide⟩
  have bare : Parameter.Bare (Source.ofText text) block (mark "(" 5 6) [comment] (mark ")" 14 15) :=
    ⟨rfl, rfl, rfl, " # a, b\n".toList, .blank (by decide)
      (@Parameter.Laid.extra _ comment [] " a, b".toList ['\n'] '#' (by decide) (by decide +kernel) hash
        (.blank (by decide) .nil)), by decide +kernel⟩
  obtain ⟨pieces, none, d, listed, _, own, count⟩ := ofSource_bare_block .python
    (by simp [Language.builtin]) "f.py" text root e member block given _ _ _ bare
  refine ⟨⟨e, member, given⟩, bare, d, listed, ?_, ?_⟩
  · rw [own, Ne, none]
    simp [comment]
  · rw [count, pieces]
    decide +kernel

/-- A comment between the brackets is taken for a parameter. -/
theorem ofSource_counts_comment :
    let part (kind field : String) (start stop : Nat) (children : List Node) : Node :=
      ⟨kind, some field, ⟨start, stop⟩, true, false, false, false, children⟩
    let mark (kind : String) (start stop : Nat) : Node :=
      ⟨kind, none, ⟨start, stop⟩, false, false, false, false, []⟩
    let comment : Node := ⟨"comment", none, ⟨11, 24⟩, true, false, true, false, []⟩
    let list := part "formal_parameters" "parameters" 10 25 [mark "(" 10 11, comment, mark ")" 24 25]
    let declaration : Node := ⟨"function_declaration", none, ⟨0, 28⟩, true, false, false, false,
      [mark "function" 0 8, part "identifier" "name" 9 10 [], list,
        part "statement_block" "body" 26 28 [mark "\x7b" 26 27, mark "\x7d" 27 28]]⟩
    let root : Node := ⟨"program", none, ⟨0, 28⟩, true, false, false, false, [declaration]⟩
    let text := "function f(/* nothing */) \x7b\x7d"
    let block : Place := .child (.child (.root root) 0 declaration) 2 list
    block.node.children.map (·.kind) = ["(", "comment", ")"] ∧
    Parameter.ofBlock .javascript (Source.ofText text) block = [⟨"*/", some "/* nothing"⟩] ∧
    (ofSource (some .javascript) "a.js" text (some root)).map (fun d => (d.name, d.parameterCount)) =
      [("f", 1)] := by
  decide +kernel

end Index

end SourceOutline

import SourceOutline.Language.Builtin
import SourceOutline.Proofs.Ancestors

/-! Anchors of definitions. The queries of the known languages capture a name inside the anchor, so there
is text in every anchor. -/
namespace SourceOutline

open Place (Within)

/-- What is captured as `name` lies within the one place that is captured as `anchor`. -/
def Match.Nests (anchor name : String) (m : Match) : Prop :=
  ∃ p, ∀ c ∈ m, (c.name = anchor → c.place = p) ∧ (c.name = name → Within p c.place)

/-- Neither name is captured. -/
def Match.Lacks (anchor name : String) (m : Match) : Prop := ∀ c ∈ m, c.name ≠ anchor ∧ c.name ≠ name

namespace Match

variable {anchor name : String} {a b : Match}

theorem Lacks.anywhere (lacks : Lacks anchor name a) (p : Place) :
    ∀ c ∈ a, (c.name = anchor → c.place = p) ∧ (c.name = name → Within p c.place) :=
  fun c captured => ⟨fun h => absurd h (lacks c captured).1, fun h => absurd h (lacks c captured).2⟩

theorem Lacks.nests (lacks : Lacks anchor name a) : Nests anchor name a :=
  ⟨default, lacks.anywhere default⟩

theorem Nests.append_right (nests : Nests anchor name a) (lacks : Lacks anchor name b) :
    Nests anchor name (a ++ b) := by
  obtain ⟨p, each⟩ := nests
  exact ⟨p, List.forall_mem_append.mpr ⟨each, lacks.anywhere p⟩⟩

theorem Nests.append_left (lacks : Lacks anchor name a) (nests : Nests anchor name b) :
    Nests anchor name (a ++ b) := by
  obtain ⟨p, each⟩ := nests
  exact ⟨p, List.forall_mem_append.mpr ⟨lacks.anywhere p, each⟩⟩

theorem Nests.within {m : Match} (nests : Nests anchor name m) {p q : Place}
    (outer : m.last? anchor = some p) (inner : m.last? name = some q) : Within p q := by
  obtain ⟨top, each⟩ := nests
  obtain ⟨c, captured, named, rfl⟩ := Extracted.last?_mem outer
  obtain ⟨d, capturedToo, namedToo, rfl⟩ := Extracted.last?_mem inner
  rw [(each c captured).1 named]
  exact (each d capturedToo).2 namedToo

end Match

namespace Pattern

theorem mem_matchParts_cons {field : Option String} {optional : Bool} {pattern : Pattern}
    {parts : List ChildPattern} {places : List Place} {m : Match}
    (found : m ∈ matchParts (.part field optional pattern :: parts) places) :
    m ∈ matchParts parts places ∨ ∃ p later, ∃ a ∈ matchAt [] pattern p,
      ∃ b ∈ matchParts parts later, a ++ b = m := by
  rcases matchParts_cases found with ⟨_, others⟩ | ⟨p, later, _, _, way⟩
  · exact .inl others
  · exact .inr ⟨p, later, way⟩

mutual

theorem matchAt_names : ∀ (pattern : Pattern) (outer : List String) (p : Place),
    ∀ m ∈ matchAt outer pattern p, ∀ c ∈ m,
      (c.name ∈ outer ∧ c.place = p) ∨ c.name ∈ captureNames pattern
  | node test captures parts, outer, p, m, found, c, captured => by
    simp only [matchAt] at found
    split at found
    · obtain ⟨below, inside, rfl⟩ := List.mem_map.mp found
      rw [captureNames]
      rcases List.mem_append.mp captured with own | part
      · obtain ⟨n, listed, rfl⟩ := List.mem_map.mp own
        rcases List.mem_append.mp listed with here | given
        · exact .inr (List.mem_append_left _ here)
        · exact .inl ⟨given, rfl⟩
      · exact .inr (List.mem_append_right _ (matchParts_names parts p.children below inside c part))
    · cases found
  | oneOf captures alternatives, outer, p, m, found, c, captured => by
    rw [captureNames]
    rcases matchAny_names alternatives (captures ++ outer) p m found c captured with ⟨own, place⟩ | inner
    · rcases List.mem_append.mp own with here | given
      · exact .inr (List.mem_append_left _ here)
      · exact .inl ⟨given, place⟩
    · exact .inr (List.mem_append_right _ inner)

theorem matchAny_names : ∀ (alternatives : List Pattern) (outer : List String) (p : Place),
    ∀ m ∈ matchAny outer alternatives p, ∀ c ∈ m,
      (c.name ∈ outer ∧ c.place = p) ∨ c.name ∈ alternativeNames alternatives
  | [], _, _, _, found, _, _ => by cases found
  | a :: as, outer, p, m, found, c, captured => by
    rw [alternativeNames]
    rcases List.mem_append.mp found with first | other
    · exact (matchAt_names a outer p m first c captured).imp_right (List.mem_append_left _)
    · exact (matchAny_names as outer p m other c captured).imp_right (List.mem_append_right _)

theorem matchParts_names : ∀ (parts : List ChildPattern) (places : List Place),
    ∀ m ∈ matchParts parts places, ∀ c ∈ m, c.name ∈ partNames parts
  | [], _, m, found, c, captured => by
    rw [matchParts, List.mem_singleton] at found
    subst found
    cases captured
  | .part field optional pattern :: parts, places, m, found, c, captured => by
    rw [partNames]
    rcases mem_matchParts_cons found with others | ⟨p, later, a, first, b, others, rfl⟩
    · exact List.mem_append_right _ (matchParts_names parts places m others c captured)
    · rcases List.mem_append.mp captured with here | after
      · rcases matchAt_names pattern [] p a first c here with ⟨given, _⟩ | named
        · cases given
        · exact List.mem_append_left _ named
      · exact List.mem_append_right _ (matchParts_names parts later b others c after)

end

def mentions (anchor name : String) (names : List String) : Bool :=
  names.contains anchor || names.contains name

theorem lacks_of_names {anchor name : String} {names : List String} {m : Match}
    (silent : mentions anchor name names = false) (named : ∀ c ∈ m, c.name ∈ names) :
    m.Lacks anchor name := by
  simp only [mentions, Bool.or_eq_false_iff, List.contains_eq_mem, decide_eq_false_iff_not] at silent
  intro c captured
  exact ⟨fun h => silent.1 (h ▸ named c captured), fun h => silent.2 (h ▸ named c captured)⟩

mutual

/-- A check of the pattern alone: it captures one node as `anchor`, and `name` nowhere but there and
below. -/
def nests (anchor name : String) : Pattern → Bool
  | node _ captures parts =>
    if captures.contains anchor then !(partNames parts).contains anchor
    else !captures.contains name && nestsParts anchor name parts
  | oneOf captures alternatives =>
    if captures.contains anchor then !(alternativeNames alternatives).contains anchor
    else !captures.contains name && nestsAny anchor name alternatives

def nestsAny (anchor name : String) : List Pattern → Bool
  | [] => true
  | a :: as => nests anchor name a && nestsAny anchor name as

def nestsParts (anchor name : String) : List ChildPattern → Bool
  | [] => true
  | .part _ _ pattern :: parts =>
    if mentions anchor name (captureNames pattern) then
      nests anchor name pattern && !mentions anchor name (partNames parts)
    else nestsParts anchor name parts

end

mutual

theorem matchAt_nests {anchor name : String} : ∀ (pattern : Pattern) (outer : List String) (p : Place),
    nests anchor name pattern = true → mentions anchor name outer = false →
      ∀ m ∈ matchAt outer pattern p, m.Nests anchor name
  | node test captures parts, outer, p, checked, silent, m, found => by
    have inside := matchAt_within _ outer p m found
    simp only [nests] at checked
    simp only [matchAt] at found
    split at found
    · obtain ⟨below, rest, rfl⟩ := List.mem_map.mp found
      split at checked
      · refine ⟨p, fun c captured => ⟨fun named => ?_, fun _ => inside c captured⟩⟩
        rcases List.mem_append.mp captured with own | part
        · obtain ⟨_, _, rfl⟩ := List.mem_map.mp own
          rfl
        · have := matchParts_names parts p.children below rest c part
          simp_all
      · rename_i other
        simp only [Bool.and_eq_true, Bool.not_eq_true'] at checked
        have given : mentions anchor name (captures ++ outer) = false := by simp_all [mentions]
        refine .append_left (lacks_of_names given ?_)
          (matchParts_nests parts p.children checked.2 below rest)
        intro c own
        obtain ⟨n, listed, rfl⟩ := List.mem_map.mp own
        exact listed
    · cases found
  | oneOf captures alternatives, outer, p, checked, silent, m, found => by
    have inside := matchAt_within _ outer p m found
    simp only [nests] at checked
    split at checked
    · refine ⟨p, fun c captured => ⟨fun named => ?_, fun _ => inside c captured⟩⟩
      rcases matchAny_names alternatives (captures ++ outer) p m found c captured with ⟨_, place⟩ | inner
      · exact place
      · simp_all
    · rename_i other
      simp only [Bool.and_eq_true, Bool.not_eq_true'] at checked
      have given : mentions anchor name (captures ++ outer) = false := by simp_all [mentions]
      exact matchAny_nests alternatives (captures ++ outer) p checked.2 given m found

theorem matchAny_nests {anchor name : String} : ∀ (alternatives : List Pattern) (outer : List String)
    (p : Place), nestsAny anchor name alternatives = true → mentions anchor name outer = false →
      ∀ m ∈ matchAny outer alternatives p, m.Nests anchor name
  | [], _, _, _, _, _, found => by cases found
  | a :: as, outer, p, checked, silent, m, found => by
    rw [nestsAny, Bool.and_eq_true] at checked
    rcases List.mem_append.mp found with first | other
    · exact matchAt_nests a outer p checked.1 silent m first
    · exact matchAny_nests as outer p checked.2 silent m other

theorem matchParts_nests {anchor name : String} : ∀ (parts : List ChildPattern) (places : List Place),
    nestsParts anchor name parts = true → ∀ m ∈ matchParts parts places, m.Nests anchor name
  | [], _, _, m, found => by
    rw [matchParts, List.mem_singleton] at found
    subst found
    exact Match.Lacks.nests (by simp [Match.Lacks])
  | .part field optional pattern :: parts, places, checked, m, found => by
    rw [nestsParts] at checked
    split at checked
    · simp only [Bool.and_eq_true, Bool.not_eq_true'] at checked
      have others (later : List Place) (b : Match) (bound : b ∈ matchParts parts later) :
          b.Lacks anchor name :=
        lacks_of_names checked.2 (matchParts_names parts later b bound)
      rcases mem_matchParts_cons found with alone | ⟨p, later, a, first, b, rest, rfl⟩
      · exact (others places m alone).nests
      · exact (matchAt_nests pattern [] p checked.1 rfl a first).append_right (others later b rest)
    · rename_i silent
      rcases mem_matchParts_cons found with alone | ⟨p, later, a, first, b, rest, rfl⟩
      · exact matchParts_nests parts places checked m alone
      · refine .append_left (lacks_of_names (by simpa using silent) ?_)
          (matchParts_nests parts later checked b rest)
        intro c captured
        simpa using matchAt_names pattern [] p a first c captured

end

end Pattern

/-- In all queries of the known languages the name is captured inside the anchor. -/
theorem Language.builtin_nests : ∀ language ∈ Language.builtin, ∀ q ∈ language.definitions,
    ∀ pattern ∈ q.2.patterns, pattern.nests q.1.name "name" = true := by
  decide +kernel

namespace Extracted

theorem ofMatch?_captures {src : Source} {kind : Kind} {m : Match} {e : Extracted}
    (found : ofMatch? src kind m = some e) :
    (∃ p, m.last? "name" = some p ∧ e.definition.name = Text.trim (src.text p)) ∧
      e.block = if kind.callable then m.last? "parameters" else none := by
  obtain ⟨_, name, _, named, _, rfl⟩ := ofMatch?_eq_some_iff.mp found
  exact ⟨⟨name, named, rfl⟩, rfl⟩

/-- The anchor of a definition that the queries of a known language find is not empty. -/
theorem anchor_filled {language : Language} (known : language ∈ Language.builtin) {src : Source}
    {root : Node} (enclosing : root.Enclosing) {e : Extracted}
    (member : e ∈ definitions language src (.root root)) : e.anchor.node.range.Filled := by
  obtain ⟨f, found, same⟩ := definitions_origin member
  have anchor : e.anchor = f.anchor := congrArg (fun x => x.anchor) same
  obtain ⟨kind, q, m, listed, matched, here⟩ := exists_match found
  obtain ⟨_, anchored, described⟩ := ofMatch?_some here
  obtain ⟨⟨place, named, text⟩, _⟩ := ofMatch?_captures here
  have nests : m.Nests kind.name "name" := by
    obtain ⟨p, _, pattern, among, way⟩ := Query.exists_of_mem_run matched
    exact pattern.matchAt_nests [] p (Language.builtin_nests language known _ listed pattern among) rfl m way
  have filled : place.node.range.Filled := by
    by_contra empty
    refine described.name_filled (text.trans ?_)
    rw [Source.text, src.slice_eq_empty empty]
    rfl
  rw [anchor]
  exact ((mem_all found).2.1.covers enclosing (nests.within anchored named)).filled filled

end Extracted

end SourceOutline

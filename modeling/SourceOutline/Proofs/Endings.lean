import Mathlib.Data.List.Infix
import Mathlib.Data.List.TakeWhile
import SourceOutline.Proofs.Discovery

/-! Endings of names. A star before characters that stand for themselves matches the texts that end in
them; the extension of a path is what its last name ends in after the last dot, if something stands before
that dot. -/
namespace SourceOutline

namespace Glob

/-- The characters that stand for themselves wherever they are in a glob. -/
def isLiteral (c : Char) : Bool := c != '*' && c != '[' && c != '?'

theorem tokensFrom_literal {cs : List Char} (literal : ∀ c ∈ cs, isLiteral c = true) {fuel : Nat}
    (enough : cs.length ≤ fuel) (position : Nat) (previous : Option Char) :
    tokensFrom fuel position previous cs = .ok (cs.map .char) := by
  induction cs generalizing fuel position previous with
  | nil => cases fuel <;> rfl
  | cons c cs ih =>
    obtain ⟨fuel, rfl⟩ : ∃ less, fuel = less + 1 := ⟨fuel - 1, by simp at enough; omega⟩
    have first := literal c List.mem_cons_self
    simp only [isLiteral, Bool.and_eq_true, bne_iff_ne] at first
    have rest := ih (fun d member => literal d (List.mem_cons_of_mem c member))
      (Nat.le_of_succ_le_succ enough) (position + 1) (some c)
    rw [tokensFrom, rest]
    · rfl
    all_goals simp_all

theorem ofText_star {ending : String} (literal : ∀ c ∈ ending.toList, isLiteral c = true) :
    ofText ("*" ++ ending) = .ok ⟨"*" ++ ending, .anyText :: ending.toList.map .char⟩ := by
  have rest := tokensFrom_literal literal (Nat.le_refl _) 1 (some '*')
  have chars : ("*" ++ ending).toList = '*' :: ending.toList := by simp
  have single (after : List Char) : ending.toList ≠ '*' :: after := by
    intro starts
    have star := literal '*' (starts ▸ List.mem_cons_self)
    simp [isLiteral] at star
  rw [ofText, chars, List.length_cons, tokensFrom, rest]
  · rfl
  · exact fun after => single ('*' :: after)
  · exact single

theorem mem_after_char {c : Char} {before : List (List Char)} {rest : List Char} :
    rest ∈ (Token.char c).after before ↔ c :: rest ∈ before := by
  cases before with
  | nil => simp [Token.after]
  | cons longest before =>
    simp only [Token.after, List.mem_filterMap]
    constructor
    · rintro ⟨text, member, left⟩
      cases text with
      | nil => simp at left
      | cons d text =>
        by_cases same : d = c
        · simp_all [Token.accepts]
        · simp_all [Token.accepts]
    · intro member
      exact ⟨_, member, by simp [Token.accepts]⟩

theorem mem_foldl_char {cs : List Char} {before : List (List Char)} {rest : List Char} :
    rest ∈ (cs.map Token.char).foldl (fun before t => t.after before) before ↔ cs ++ rest ∈ before := by
  induction cs generalizing before with
  | nil => rfl
  | cons c cs ih => rw [List.map_cons, List.foldl_cons, ih, mem_after_char, List.cons_append]

theorem mem_rests {cs text : List Char} : cs ∈ rests text ↔ cs <:+ text := by
  induction text with
  | nil => simp [rests]
  | cons c text ih => simp [rests, ih, List.suffix_cons_iff]

theorem matches_star {ending : String} (literal : ∀ c ∈ ending.toList, isLiteral c = true)
    (text : String) : Matches ("*" ++ ending) text ↔ ending.toList <:+ text.toList := by
  have all : Token.anyText.after [text.toList] = rests text.toList := rfl
  simp only [Matches, ofText_star literal, Except.ok.injEq, exists_eq_left', accepts, List.foldl_cons,
    all, List.any_eq_true, List.isEmpty_iff, exists_eq_right]
  rw [mem_foldl_char, List.append_nil, mem_rests]

end Glob

namespace FilePath

theorem fileName?_join {directory : String} (given : directory ≠ "") {names : List String}
    (proper : ∀ name ∈ names, IsName name) {last : String} (isLast : names.getLast? = some last) :
    fileName? (join directory (joined names)) = some last := by
  have name := proper last (List.mem_of_getLast? isLast)
  have some_ : names ≠ [] := by
    rintro rfl
    cases isLast
  rw [fileName?, components_join given some_ proper, List.getLast?_append, isLast]
  simp [name.2.2.1]

/-- The extension is what follows a dot that is neither the first character nor followed by a dot. -/
theorem extension?_eq_some_iff {path last ext : String} (named : fileName? path = some last) :
    extension? path = some ext ↔ '.' ∉ ext.toList ∧
      ∃ stem, stem ≠ [] ∧ last.toList = stem ++ '.' :: ext.toList := by
  simp only [extension?, named, Option.bind_eq_bind, Option.bind_some]
  constructor
  · intro found
    split_ifs at found with inner
    obtain rfl := Option.some.inj found
    have whole := List.takeWhile_append_dropWhile (p := (· != '.')) (l := last.toList.reverse)
    have first := List.head?_dropWhile_not (· != '.') last.toList.reverse
    have sizes := congrArg List.length whole
    refine ⟨fun member => ?_, ?_⟩
    · have dot := List.mem_takeWhile_imp (List.mem_reverse.mp (by simpa using member))
      simp at dot
    -- Read from the end, the name is the extension, a dot, and what stands before that dot.
    cases rest : last.toList.reverse.dropWhile (· != '.') with
    | nil =>
      simp only [rest, List.append_nil, List.length_reverse] at sizes
      omega
    | cons dot stem =>
      obtain rfl : dot = '.' := by simpa [rest] using first
      rw [rest] at whole
      refine ⟨stem.reverse, ?_, ?_⟩
      · rintro none
        simp only [rest, List.reverse_eq_nil_iff.mp none, List.length_append, List.length_reverse,
          List.length_singleton] at sizes
        omega
      · simpa using congrArg List.reverse whole.symm
  · rintro ⟨dotless, stem, some_, whole⟩
    have ending : last.toList.reverse.takeWhile (· != '.') = ext.toList.reverse := by
      have apart : ∀ c ∈ ext.toList.reverse, (c != '.') = true := by
        intro c member
        rw [bne_iff_ne]
        rintro rfl
        exact dotless (List.mem_reverse.mp member)
      simp [whole, List.takeWhile_append_of_pos apart]
    have size := List.length_pos_iff.mpr some_
    rw [ending, if_pos (by simp [whole]; omega)]
    simp

/-- A name ends in a dot and an extension if that is the extension, or if there is nothing else. -/
theorem suffix_iff {path last ext : String} (named : fileName? path = some last)
    (dotless : '.' ∉ ext.toList) :
    '.' :: ext.toList <:+ last.toList ↔ extension? path = some ext ∨ last = "." ++ ext := by
  rw [extension?_eq_some_iff named, ← String.toList_inj]
  constructor
  · rintro ⟨stem, whole⟩
    by_cases bare : stem = []
    · exact .inr (by simp [← whole, bare])
    · exact .inl ⟨dotless, stem, bare, whole.symm⟩
  · rintro (⟨_, stem, _, whole⟩ | whole)
    · exact ⟨stem, whole.symm⟩
    · simp [whole]

theorem suffix_joined {names : List String} {last : String} (isLast : names.getLast? = some last)
    {cs : List Char} (single : '/' ∉ cs) : cs <:+ (joined names).toList ↔ cs <:+ last.toList := by
  obtain ⟨above, rfl⟩ := List.getLast?_eq_some_iff.mp isLast
  by_cases top : above = []
  · simp [top, joined]
  have path : (joined (above ++ [last])).toList = (joined above).toList ++ '/' :: last.toList := by
    simp [joined_concat top]
  rw [path]
  constructor
  · intro ends
    rcases List.suffix_or_suffix_of_suffix ends (List.suffix_append _ _) with inside | across
    · rcases List.suffix_cons_iff.mp inside with whole | inside
      · exact absurd (whole ▸ List.mem_cons_self) single
      · exact inside
    · exact absurd (across.subset List.mem_cons_self) single
  · intro ends
    exact (ends.trans (List.suffix_cons _ _)).trans (List.suffix_append _ _)

end FilePath

end SourceOutline

import Mathlib.Data.List.Basic
import SourceOutline.Discover

/-! Chains of names as paths. A path takes its names apart again, so different chains have different
paths, and a relative path leads from the end of the directory's own names. -/
namespace SourceOutline.FilePath

/-- What a directory may call an entry. -/
def IsName (name : String) : Prop :=
  name ≠ "" ∧ name ≠ "." ∧ name ≠ ".." ∧ '/' ∉ name.toList

instance (name : String) : Decidable (IsName name) := inferInstanceAs (Decidable (_ ∧ _))

/-- The path that passes through these names. -/
def joined (names : List String) : String := "/".intercalate names

theorem joined_concat {names : List String} (some_ : names ≠ []) (name : String) :
    joined (names ++ [name]) = joined names ++ "/" ++ name := by
  rw [joined, String.intercalate_append_of_ne_nil some_ (List.cons_ne_nil _ _)]
  simp [joined]

theorem joined_eq_empty {names : List String} (filled : ∀ name ∈ names, name ≠ "") :
    joined names = "" ↔ names = [] := by
  constructor
  · intro empty
    cases names with
    | nil => rfl
    | cons first rest =>
      cases rest with
      | nil => exact absurd (by simpa [joined] using empty) (filled first List.mem_cons_self)
      | cons second rest =>
        rw [joined, String.intercalate_cons_cons] at empty
        simp_all
  · rintro rfl
    rfl

theorem below_joined {above : List String} (filled : ∀ name ∈ above, name ≠ "") (name : String) :
    Selection.below (joined above) name = joined (above ++ [name]) := by
  unfold Selection.below
  by_cases top : above = []
  · subst top
    simp [joined]
  · have more : joined above ≠ "" := fun empty => top ((joined_eq_empty filled).mp empty)
    rw [if_neg (by simpa using more), joined_concat top]

theorem pieces_append (directory relative : String) :
    pieces (directory ++ "/" ++ relative) = pieces directory ++ pieces relative := by
  simp only [pieces, String.toList_append, List.append_assoc]
  change List.map _ (List.splitOn '/' (directory.toList ++ '/' :: relative.toList)) = _
  rw [List.splitOn_append_cons_self, List.map_append]

theorem pieces_joined {names : List String} (some_ : names ≠ [])
    (proper : ∀ name ∈ names, IsName name) : pieces (joined names) = names := by
  have apart : (joined names).toList.splitOn '/' = names.map String.toList := by
    rw [joined, String.toList_intercalate]
    refine List.splitOn_intercalate '/' ?_ (by simpa using some_)
    intro cs member
    obtain ⟨name, listed, rfl⟩ := List.mem_map.mp member
    exact (proper name listed).2.2.2
  rw [pieces, apart, List.map_map]
  simp [Function.comp_def]

theorem components_joined {names : List String} (proper : ∀ name ∈ names, IsName name) :
    components (joined names) = names := by
  by_cases none : names = []
  · subst none
    rfl
  · rw [components, pieces_joined none proper, List.filter_eq_self]
    intro name listed
    simp [(proper name listed).1, (proper name listed).2.1]

theorem joined_injective {names others : List String} (proper : ∀ name ∈ names, IsName name)
    (properToo : ∀ name ∈ others, IsName name) (same : joined names = joined others) :
    names = others := by
  rw [← components_joined proper, same, components_joined properToo]

theorem joined_not_absolute {names : List String} (proper : ∀ name ∈ names, IsName name) :
    isAbsolute (joined names) = false := by
  cases names with
  | nil => rfl
  | cons first rest =>
    have name := proper first List.mem_cons_self
    obtain ⟨c, cs, chars⟩ : ∃ c cs, first.toList = c :: cs := by
      cases chars : first.toList with
      | nil => exact absurd (String.toList_eq_nil_iff.mp chars) name.1
      | cons c cs => exact ⟨c, cs, rfl⟩
    have start : (joined (first :: rest)).toList.head? = some c := by
      rw [joined, String.toList_intercalate]
      cases rest <;> simp [List.intercalate, chars]
    have other : c ≠ '/' := by
      rintro rfl
      exact name.2.2.2 (chars ▸ List.mem_cons_self)
    simp [isAbsolute, start, other]

/-- A directory's path goes on with the names, with or without the separator at its end. -/
theorem pieces_join {directory : String} (given : directory ≠ "") {names : List String}
    (some_ : names ≠ []) (proper : ∀ name ∈ names, IsName name) :
    pieces (join directory (joined names)) = pieces directory ++ names ∨
    ∃ front, pieces directory = front ++ [""] ∧
      pieces (join directory (joined names)) = front ++ names := by
  rw [join, joined_not_absolute proper, Bool.false_or, if_neg (by simpa using given)]
  split
  · rename_i ended
    right
    obtain ⟨front, split_⟩ : ∃ front, directory.toList = front ++ ['/'] :=
      List.getLast?_eq_some_iff.mp (by simpa using ended)
    have whole : directory = String.ofList front ++ "/" ++ "" := by
      rw [← String.toList_inj]
      simp [split_]
    have cut : directory ++ joined names = String.ofList front ++ "/" ++ joined names := by
      rw [whole]
      simp
    refine ⟨pieces (String.ofList front), ?_, ?_⟩
    · rw [whole, pieces_append]
      rfl
    · rw [cut, pieces_append, pieces_joined some_ proper]
  · left
    rw [pieces_append, pieces_joined some_ proper]

theorem components_join {directory : String} (given : directory ≠ "") {names : List String}
    (some_ : names ≠ []) (proper : ∀ name ∈ names, IsName name) :
    components (join directory (joined names)) = components directory ++ names := by
  have whole : components (joined names) = names := components_joined proper
  rw [components, pieces_joined some_ proper] at whole
  rcases pieces_join given some_ proper with joins | ⟨front, ended, joins⟩
  · rw [components, joins, List.filter_append, whole, components]
  -- The directory's last separator is followed by an empty piece, which counts for nothing.
  · rw [components, joins, List.filter_append, whole, components, ended, List.filter_append]
    simp

theorem join_starts {directory : String} (given : directory ≠ "") {names : List String}
    (proper : ∀ name ∈ names, IsName name) :
    join directory (joined names) ≠ "" ∧
      isAbsolute (join directory (joined names)) = isAbsolute directory := by
  -- Joining only adds to the directory's path, so that it starts where that starts.
  obtain ⟨more, longer⟩ : ∃ more, join directory (joined names) = directory ++ more := by
    rw [join, joined_not_absolute proper, Bool.false_or, if_neg (by simpa using given)]
    split
    · exact ⟨_, rfl⟩
    · exact ⟨"/" ++ joined names, String.append_assoc ..⟩
  rw [longer]
  cases chars : directory.toList with
  | nil => exact absurd (String.toList_eq_nil_iff.mp chars) given
  | cons c cs =>
    constructor
    · simp [given]
    · simp [isAbsolute, chars]

end SourceOutline.FilePath

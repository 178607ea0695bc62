import Mathlib.Algebra.BigOperators.Group.List.Basic
import Mathlib.Algebra.GroupWithZero.Nat
import SourceOutline.Proofs.Text

/-! Line feeds in texts, and the lines that a text has for them. A text that ends with a line feed has one
line for each of its line feeds; words have none, so words joined by spaces are one line. -/
namespace SourceOutline.Text

def breaks (s : String) : Nat := s.toList.count '\n'

/-- The lines of a text, each of which ends with a line feed. -/
def lines (s : String) : List String := (s.toList.splitOn '\n').dropLast.map String.ofList

@[simp] theorem breaks_append (s t : String) : breaks (s ++ t) = breaks s + breaks t := by
  simp [breaks]

theorem breaks_eq_zero_iff {s : String} : breaks s = 0 ↔ '\n' ∉ s.toList := List.count_eq_zero

@[simp] theorem breaks_repr (n : Nat) : breaks n.repr = 0 := by
  rw [breaks_eq_zero_iff, Nat.toList_repr]
  intro member
  have digit := Nat.isDigit_of_mem_toDigits (by omega) (by omega) member
  contradiction

theorem breaks_intercalate {separator : String} (unbroken : breaks separator = 0) (texts : List String) :
    breaks (separator.intercalate texts) = (texts.map breaks).sum := by
  induction texts with
  | nil => rfl
  | cons text texts ih =>
    cases texts with
    | nil => simp
    | cons next texts =>
      rw [String.intercalate_cons_cons, breaks_append, breaks_append, unbroken, ih]
      simp

theorem breaks_replicate {s : String} (unbroken : breaks s = 0) (count : Nat) :
    breaks (replicate count s) = 0 := by
  rw [breaks_eq_zero_iff] at unbroken ⊢
  simp [replicate, String.toList_join, unbroken]

theorem breaks_word {s word : String} (member : word ∈ words s) : breaks word = 0 := by
  obtain ⟨run, inside, rfl⟩ := List.mem_map.mp member
  rw [breaks_eq_zero_iff, String.toList_ofList]
  intro feed
  have visible := not_blank_of_mem_wordsOf inside _ feed
  contradiction

theorem breaks_joined {texts : List String} (words : ∀ t ∈ texts, breaks t = 0) :
    breaks (" ".intercalate texts) = 0 := by
  rw [breaks_intercalate (by decide), List.sum_eq_zero]
  simpa using words

theorem breaks_flatten (s : String) : breaks (flatten s) = 0 :=
  breaks_joined fun _ member => breaks_word member

theorem lines_append (s rest : String) : lines (s ++ "\n" ++ rest) = lines (s ++ "\n") ++ lines rest := by
  have feed : ("\n" : String).toList = ['\n'] := by decide
  have nonempty := List.splitOn_ne_nil '\n' rest.toList
  simp only [lines, String.toList_append, feed, List.append_assoc, List.singleton_append,
    List.splitOn_append_cons_self, List.splitOn_nil, List.dropLast_append_of_ne_nil nonempty,
    List.dropLast_concat, List.map_append]

theorem lines_eq_splitOn (s : String) :
    lines (s ++ "\n") = (s.toList.splitOn '\n').map String.ofList := by
  have feed : ("\n" : String).toList = ['\n'] := by decide
  simp only [lines, String.toList_append, feed, List.splitOn_append_cons_self, List.splitOn_nil,
    List.dropLast_concat]

theorem lines_of_unbroken {s : String} (unbroken : breaks s = 0) : lines (s ++ "\n") = [s] := by
  rw [lines_eq_splitOn, List.splitOn_eq_singleton (breaks_eq_zero_iff.mp unbroken)]
  simp

theorem length_splitOn (cs : List Char) : (cs.splitOn '\n').length = cs.count '\n' + 1 := by
  induction cs with
  | nil => rfl
  | cons c cs ih =>
    rw [List.splitOn_cons_eq_if_modifyHead, List.count_cons]
    split
    · rw [List.length_cons, ih]
    · rw [List.length_modifyHead, ih, Nat.add_zero]

theorem length_lines (s : String) : (lines (s ++ "\n")).length = breaks s + 1 := by
  rw [lines_eq_splitOn, List.length_map, length_splitOn, breaks]

/-- The first line starts as the text does, up to the first line feed. -/
theorem lines_head {s : String} (unbroken : breaks s = 0) (rest : String) :
    ∃ t later, lines (s ++ rest ++ "\n") = (s ++ t) :: later := by
  rw [lines_eq_splitOn, String.toList_append, splitOn_append (breaks_eq_zero_iff.mp unbroken)]
  cases pieces : rest.toList.splitOn '\n' with
  | nil => exact absurd pieces (List.splitOn_ne_nil '\n' rest.toList)
  | cons head tail =>
    refine ⟨String.ofList head, tail.map String.ofList, ?_⟩
    rw [List.modifyHead_cons, List.map_cons, String.ofList_append, String.ofList_toList]

theorem lines_join (texts : List String) (rest : String) :
    lines (String.join (texts.map (· ++ "\n")) ++ rest) =
      texts.flatMap (fun t => lines (t ++ "\n")) ++ lines rest := by
  induction texts with
  | nil => simp
  | cons text texts ih =>
    rw [List.map_cons, String.join_cons, String.append_assoc, lines_append, ih, List.flatMap_cons,
      List.append_assoc]

theorem lines_join_all (texts : List String) :
    lines (String.join (texts.map (· ++ "\n"))) = texts.flatMap fun t => lines (t ++ "\n") := by
  have joined := lines_join texts ""
  rwa [String.append_empty, show lines "" = [] from rfl, List.append_nil] at joined

theorem length_flatMap_lines (texts : List String) :
    (texts.flatMap fun t => lines (t ++ "\n")).length = texts.length + (texts.map breaks).sum := by
  induction texts with
  | nil => rfl
  | cons text texts ih =>
    rw [List.flatMap_cons, List.length_append, ih, length_lines, List.length_cons, List.map_cons,
      List.sum_cons]
    omega

end SourceOutline.Text

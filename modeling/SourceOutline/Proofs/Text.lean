import Mathlib.Data.List.DropRight
import SourceOutline.Text

/-! Trimming leaves no blank at either end; words are never empty and have no blank in them. -/
namespace SourceOutline.Text

def Trimmed (cs : List Char) : Prop :=
  (∀ c, cs.head? = some c → isBlank c = false) ∧ (∀ c, cs.getLast? = some c → isBlank c = false)

theorem trimLeft_eq_self_iff {cs : List Char} :
    trimLeft cs = cs ↔ ∀ c, cs.head? = some c → isBlank c = false := by
  cases cs with
  | nil => simp [trimLeft]
  | cons c cs => simp [trimLeft, List.dropWhile_eq_self_iff]

theorem trimRight_eq_self_iff {cs : List Char} :
    trimRight cs = cs ↔ ∀ c, cs.getLast? = some c → isBlank c = false := by
  change cs.rdropWhile isBlank = cs ↔ _
  rw [List.rdropWhile_eq_self_iff]
  cases cs with
  | nil => simp
  | cons c cs => simp [List.getLast?_eq_some_getLast (List.cons_ne_nil c cs)]

theorem trimRight_prefix (cs : List Char) : trimRight cs <+: cs :=
  List.rdropWhile_prefix _ cs

theorem trimLeft_trimLeft (cs : List Char) : trimLeft (trimLeft cs) = trimLeft cs :=
  List.dropWhile_idempotent _ cs

theorem trimRight_trimRight (cs : List Char) : trimRight (trimRight cs) = trimRight cs :=
  List.rdropWhile_idempotent _ _

theorem trimmed_trimChars (cs : List Char) : Trimmed (trimChars cs) := by
  constructor
  · intro c first
    obtain ⟨tail, whole⟩ := trimRight_prefix (trimLeft cs)
    apply trimLeft_eq_self_iff.mp (trimLeft_trimLeft cs)
    rw [← whole]
    simp [List.head?_append, show (trimRight (trimLeft cs)).head? = some c from first]
  · exact trimRight_eq_self_iff.mp (trimRight_trimRight (trimLeft cs))

theorem trimChars_eq_self {cs : List Char} (trimmed : Trimmed cs) : trimChars cs = cs := by
  rw [trimChars, trimLeft_eq_self_iff.mpr trimmed.1, trimRight_eq_self_iff.mpr trimmed.2]

theorem trim_trim (s : String) : trim (trim s) = trim s := by
  simp only [trim, String.toList_ofList, trimChars_eq_self (trimmed_trimChars s.toList)]

/-- The test fails on everything between the cuts. -/
theorem forall_mem_splitOnP (test : Char → Bool) (cs : List Char) :
    ∀ run ∈ cs.splitOnP test, ∀ c ∈ run, test c = false := by
  induction cs with
  | nil => simp
  | cons c cs ih =>
    rw [List.splitOnP_cons_eq_if_modifyHead]
    cases cut : test c with
    | true => simpa using ih
    | false =>
      cases pieces : cs.splitOnP test with
      | nil => exact absurd pieces (List.splitOnP_ne_nil test cs)
      | cons head tail =>
        rw [pieces, List.forall_mem_cons] at ih
        simpa [cut] using ih

theorem splitOn_append {cut : Char} {cs : List Char} (apart : cut ∉ cs) (rest : List Char) :
    (cs ++ rest).splitOn cut = (rest.splitOn cut).modifyHead (cs ++ ·) := by
  induction cs with
  | nil => exact (congrFun List.modifyHead_id (rest.splitOn cut)).symm
  | cons c cs ih =>
    rw [List.mem_cons, not_or] at apart
    rw [List.cons_append, List.splitOn_cons_eq_if_modifyHead, ih apart.2, List.modifyHead_modifyHead]
    simp [Ne.symm apart.1, Function.comp_def]

theorem not_blank_of_mem_wordsOf {cs run : List Char} (word : run ∈ wordsOf cs) :
    ∀ c ∈ run, isBlank c = false :=
  forall_mem_splitOnP isBlank cs run (List.mem_of_mem_filter word)

theorem ne_nil_of_mem_wordsOf {cs run : List Char} (word : run ∈ wordsOf cs) : run ≠ [] := by
  simpa using (List.mem_filter.mp word).2

theorem ne_empty_of_mem_wordsOf {cs : List Char} {w : String}
    (member : w ∈ (wordsOf cs).map String.ofList) : w ≠ "" := by
  obtain ⟨run, inside, rfl⟩ := List.mem_map.mp member
  simpa using ne_nil_of_mem_wordsOf inside

theorem intercalate_ne_empty {separator w : String} {ws : List String} (filled : w ≠ "") :
    separator.intercalate (w :: ws) ≠ "" := by
  intro empty
  cases ws with
  | nil => exact filled (by simpa using empty)
  | cons v ws =>
    rw [String.intercalate_cons_cons] at empty
    simp_all

theorem joined_ne {ws : List String} (filled : ∀ w ∈ ws, w ≠ "") :
    (if ws.isEmpty then none else some (" ".intercalate ws)) ≠ some "" := by
  cases ws with
  | nil => simp
  | cons w ws => simpa using intercalate_ne_empty (filled w List.mem_cons_self)

theorem nonempty?_ne {s : String} : nonempty? s ≠ some "" := by
  unfold nonempty?
  split
  · simp
  · rename_i filled
    intro empty
    exact filled (by rw [Option.some.inj empty]; rfl)

theorem bind_nonempty?_ne {α : Type} (a : Option α) (text : α → String) :
    (a.bind fun p => nonempty? (text p)) ≠ some "" := by
  cases a with
  | none => simp
  | some p => exact nonempty?_ne

end SourceOutline.Text

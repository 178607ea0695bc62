import Mathlib.Data.List.Nodup
import SourceOutline.Distinct
import SourceOutline.Proofs.StableSort

/-! Keeping the first element of each key keeps the order, and leaves no key twice. If the list is sorted
by the key before, the keys increase, and the first elements are still those of the unsorted list. -/
namespace SourceOutline

variable {α κ : Type*} [BEq κ] (key : α → κ)

theorem firstPerKeyFrom_sublist (seen : List κ) (xs : List α) :
    (firstPerKeyFrom key seen xs).Sublist xs := by
  induction xs generalizing seen with
  | nil => exact .slnil
  | cons x xs ih =>
    rw [firstPerKeyFrom]
    split
    · exact (ih seen).cons x
    · exact (ih (key x :: seen)).cons_cons x

theorem firstPerKey_sublist (xs : List α) : (firstPerKey key xs).Sublist xs :=
  firstPerKeyFrom_sublist key [] xs

theorem firstPerKeyFrom_map {β : Type*} (f : β → α) (seen : List κ) (xs : List β) :
    firstPerKeyFrom key seen (xs.map f) = (firstPerKeyFrom (key ∘ f) seen xs).map f := by
  induction xs generalizing seen with
  | nil => rfl
  | cons x xs ih =>
    simp only [List.map_cons, firstPerKeyFrom, Function.comp_apply]
    split
    · exact ih seen
    · rw [List.map_cons, ih]

theorem firstPerKey_map {β : Type*} (f : β → α) (xs : List β) :
    firstPerKey key (xs.map f) = (firstPerKey (key ∘ f) xs).map f :=
  firstPerKeyFrom_map key f [] xs

variable [LawfulBEq κ]

theorem key_fresh_of_mem {seen : List κ} {xs : List α} {x : α}
    (member : x ∈ firstPerKeyFrom key seen xs) : key x ∉ seen := by
  induction xs generalizing seen with
  | nil => cases member
  | cons y xs ih =>
    rw [firstPerKeyFrom] at member
    split at member
    · exact ih member
    · rename_i fresh
      rcases List.mem_cons.mp member with rfl | later
      · simpa using fresh
      · exact fun old => ih later (List.mem_cons_of_mem _ old)

theorem firstPerKeyFrom_nodup (seen : List κ) (xs : List α) :
    ((firstPerKeyFrom key seen xs).map key).Nodup := by
  induction xs generalizing seen with
  | nil => exact .nil
  | cons x xs ih =>
    rw [firstPerKeyFrom]
    split
    · exact ih seen
    · rw [List.map_cons, List.nodup_cons]
      refine ⟨?_, ih _⟩
      intro again
      obtain ⟨y, later, same⟩ := List.mem_map.mp again
      exact key_fresh_of_mem key later (same ▸ List.mem_cons_self)

theorem firstPerKey_nodup (xs : List α) : ((firstPerKey key xs).map key).Nodup :=
  firstPerKeyFrom_nodup key [] xs

/-- There is a place in the list with this element, and no element before it has its key. -/
def IsFirst {α κ : Type*} (key : α → κ) (xs : List α) (x : α) : Prop :=
  ∃ before after, xs = before ++ x :: after ∧ ∀ b ∈ before, key b ≠ key x

theorem isFirst_of_mem {seen : List κ} {xs : List α} {x : α}
    (member : x ∈ firstPerKeyFrom key seen xs) : IsFirst key xs x := by
  induction xs generalizing seen with
  | nil => cases member
  | cons y xs ih =>
    -- What comes from the rest has a key of its own, so putting `y` before it changes nothing.
    have later {others : List κ} (rest : x ∈ firstPerKeyFrom key others xs)
        (apart : key y ≠ key x) : IsFirst key (y :: xs) x := by
      obtain ⟨before, after, split, none⟩ := ih rest
      refine ⟨y :: before, after, by rw [split]; rfl, ?_⟩
      intro b listed
      rcases List.mem_cons.mp listed with rfl | tail
      · exact apart
      · exact none b tail
    rw [firstPerKeyFrom] at member
    split at member
    · rename_i old
      refine later member ?_
      intro same
      rw [same] at old
      exact key_fresh_of_mem key member (by simpa using old)
    · rcases List.mem_cons.mp member with rfl | rest
      · exact ⟨[], xs, rfl, by simp⟩
      · refine later rest ?_
        intro same
        exact key_fresh_of_mem key rest (same ▸ List.mem_cons_self)

theorem mem_firstPerKeyFrom {seen : List κ} {before after : List α} {x : α} (fresh : key x ∉ seen)
    (first : ∀ b ∈ before, key b ≠ key x) : x ∈ firstPerKeyFrom key seen (before ++ x :: after) := by
  induction before generalizing seen with
  | nil =>
    rw [List.nil_append, firstPerKeyFrom, if_neg (by simpa using fresh)]
    exact List.mem_cons_self
  | cons b before ih =>
    have rest : ∀ c ∈ before, key c ≠ key x := fun c listed => first c (List.mem_cons_of_mem _ listed)
    rw [List.cons_append, firstPerKeyFrom]
    split
    · exact ih fresh rest
    · apply List.mem_cons_of_mem
      refine ih ?_ rest
      rw [List.mem_cons, not_or]
      exact ⟨(first b List.mem_cons_self).symm, fresh⟩

theorem mem_firstPerKey_iff {xs : List α} {x : α} : x ∈ firstPerKey key xs ↔ IsFirst key xs x := by
  refine ⟨isFirst_of_mem key, ?_⟩
  rintro ⟨before, after, rfl, first⟩
  exact mem_firstPerKeyFrom key List.not_mem_nil first

theorem isFirst_iff_head? {xs : List α} {x : α} :
    IsFirst key xs x ↔ (xs.filter fun y => key y == key x).head? = some x := by
  rw [List.head?_eq_some_iff]
  simp only [List.filter_eq_cons_iff, beq_iff_eq]
  constructor
  · rintro ⟨before, after, split, first⟩
    exact ⟨_, before, after, split, first, trivial, rfl⟩
  · rintro ⟨_, before, after, split, first, _⟩
    exact ⟨before, after, split, first⟩

theorem exists_mem_firstPerKey {xs : List α} {x : α} (member : x ∈ xs) :
    ∃ y ∈ firstPerKey key xs, key y = key x := by
  have listed : x ∈ xs.filter fun y => key y == key x := by simp [member]
  obtain ⟨y, first⟩ := Option.isSome_iff_exists.mp (List.isSome_head?.mpr (List.ne_nil_of_mem listed))
  have same : key y = key x := by simpa using (List.mem_filter.mp (List.mem_of_mem_head? first)).2
  refine ⟨y, (mem_firstPerKey_iff key).mpr ((isFirst_iff_head? key).mpr ?_), same⟩
  rw [same]
  exact first

theorem firstPerKeyFrom_idxOf (seen : List κ) (xs : List α) :
    (firstPerKeyFrom key seen xs).Pairwise fun a b =>
      (xs.map key).idxOf (key a) < (xs.map key).idxOf (key b) := by
  induction xs generalizing seen with
  | nil => exact .nil
  | cons y xs ih =>
    have shift {others : List κ} (apart : ∀ a ∈ firstPerKeyFrom key others xs, key y ≠ key a) :
        (firstPerKeyFrom key others xs).Pairwise fun a b =>
          ((y :: xs).map key).idxOf (key a) < ((y :: xs).map key).idxOf (key b) := by
      refine (ih others).imp_of_mem ?_
      intro a b left right less
      rw [List.map_cons, List.idxOf_cons_ne _ (apart a left), List.idxOf_cons_ne _ (apart b right)]
      exact Nat.succ_lt_succ less
    rw [firstPerKeyFrom]
    split
    · rename_i old
      refine shift ?_
      intro a member same
      exact key_fresh_of_mem key member (by simpa [← same] using old)
    · have apart : ∀ a ∈ firstPerKeyFrom key (key y :: seen) xs, key y ≠ key a := by
        intro a member same
        exact key_fresh_of_mem key member (same ▸ List.mem_cons_self)
      refine List.pairwise_cons.mpr ⟨?_, shift apart⟩
      intro a member
      rw [List.map_cons, List.idxOf_cons_self, List.idxOf_cons_ne _ (apart a member)]
      exact Nat.succ_pos _

theorem firstPerKey_idxOf (xs : List α) :
    (firstPerKey key xs).Pairwise fun a b =>
      (xs.map key).idxOf (key a) < (xs.map key).idxOf (key b) :=
  firstPerKeyFrom_idxOf key [] xs

section Sorted

variable {α : Type*} (key : α → Nat)

def keyLe (a b : α) : Bool := decide (key a ≤ key b)

theorem stablySorted_keyLe (xs : List α) : StablySorted (keyLe key) xs (xs.mergeSort (keyLe key)) := by
  apply stablySorted_mergeSort
  · intro a b c first second
    simp only [keyLe, decide_eq_true_eq] at *
    omega
  · intro a b
    simp only [keyLe, Bool.or_eq_true, decide_eq_true_eq]
    omega

theorem level_keyLe (a b : α) : level (keyLe key) a b = (key b == key a) := by
  rw [Bool.eq_iff_iff]
  simp only [level, keyLe, Bool.and_eq_true, decide_eq_true_eq, beq_iff_eq]
  omega

/-- Sorting by the key does not change which elements come first with theirs. -/
theorem mem_firstPerKey_mergeSort {xs : List α} {x : α} :
    x ∈ firstPerKey key (xs.mergeSort (keyLe key)) ↔ IsFirst key xs x := by
  have ties := (stablySorted_keyLe key xs).ties x
  simp only [funext (level_keyLe key x)] at ties
  rw [mem_firstPerKey_iff, isFirst_iff_head?, isFirst_iff_head?, ties]

theorem firstPerKey_mergeSort_increasing (xs : List α) :
    (firstPerKey key (xs.mergeSort (keyLe key))).Pairwise fun a b => key a < key b := by
  have sorted := (stablySorted_keyLe key xs).sorted.sublist (firstPerKey_sublist key _)
  have distinct := firstPerKey_nodup key (xs.mergeSort (keyLe key))
  rw [List.Nodup, List.pairwise_map] at distinct
  refine (sorted.and distinct).imp ?_
  rintro a b ⟨le, ne⟩
  exact Nat.lt_of_le_of_ne (of_decide_eq_true le) ne

end Sorted

end SourceOutline

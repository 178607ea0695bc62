import Mathlib.Data.List.Basic

/-! Sorting that leaves ties alone. A list is sorted stably if it is in order and if what is level in that
order stands as it stood before. -/
namespace SourceOutline

variable {α : Type*} {le : α → α → Bool} {xs ys : List α}

def level (le : α → α → Bool) (a b : α) : Bool := le a b && le b a

/-- `ys` is `xs` in order, each element among those level with it where it was. -/
structure StablySorted (le : α → α → Bool) (xs ys : List α) : Prop where
  sorted : ys.Pairwise fun a b => le a b = true
  ties : ∀ x, ys.filter (level le x) = xs.filter (level le x)

theorem stablySorted_mergeSort (trans : ∀ a b c : α, le a b = true → le b c = true → le a c = true)
    (total : ∀ a b : α, (le a b || le b a) = true) (xs : List α) :
    StablySorted le xs (xs.mergeSort le) where
  sorted := List.pairwise_mergeSort trans total xs
  ties x := by
    -- Elements that are level are in order already, and a sublist in order is not taken apart.
    have inOrder : (xs.filter (level le x)).Pairwise fun a b => le a b = true := by
      apply List.pairwise_of_forall_mem_list
      intro a left b right
      have atLeast := (List.mem_filter.mp left).2
      have atMost := (List.mem_filter.mp right).2
      simp only [level, Bool.and_eq_true] at atLeast atMost
      exact trans a x b atLeast.2 atMost.1
    have kept := (List.sublist_mergeSort trans total inOrder List.filter_sublist).filter (level le x)
    simp only [List.filter_filter, Bool.and_self] at kept
    have length := ((List.mergeSort_perm xs le).filter (level le x)).length_eq
    exact (kept.eq_of_length length.symm).symm

theorem StablySorted.pairwise (stable : StablySorted le xs ys) (refl : ∀ a, le a a = true)
    {R : α → α → Prop} (along : xs.Pairwise R) :
    ys.Pairwise fun a b => le b a = false ∨ (level le a b = true ∧ R a b) := by
  rw [List.pairwise_iff_forall_sublist] at along ⊢
  intro a b inside
  cases back : le b a with
  | false => exact .inl rfl
  | true =>
    have forth : le a b = true := List.pairwise_iff_forall_sublist.mp stable.sorted inside
    have same : ([a, b].filter (level le a)) = [a, b] := by simp [level, refl, forth, back]
    have tied := inside.filter (level le a)
    rw [same, stable.ties] at tied
    exact .inr ⟨by rw [level, forth, back]; rfl, along (tied.trans List.filter_sublist)⟩

theorem eq_of_sorted (total : ∀ a b : α, (le a b || le b a) = true)
    (left : xs.Pairwise fun a b => le a b = true) (right : ys.Pairwise fun a b => le a b = true)
    (same : ∀ x, xs.filter (level le x) = ys.filter (level le x)) : xs = ys := by
  have self (a : α) : level le a a = true := by simpa [level] using total a a
  induction xs generalizing ys with
  | nil =>
    cases ys with
    | nil => rfl
    | cons y ys => simpa [self] using same y
  | cons x xs ih =>
    cases ys with
    | nil => simpa [self] using same x
    | cons y ys =>
      -- Each head stands somewhere in the other list, so the two are level.
      have inLeft : y ∈ x :: xs := by
        have member : y ∈ (y :: ys).filter (level le y) := by simp [self]
        rw [← same y] at member
        exact List.mem_of_mem_filter member
      have inRight : x ∈ y :: ys := by
        have member : x ∈ (x :: xs).filter (level le x) := by simp [self]
        rw [same x] at member
        exact List.mem_of_mem_filter member
      have forth : le x y = true := by
        rcases List.mem_cons.mp inLeft with rfl | later
        · simpa [level] using self y
        · exact (List.pairwise_cons.mp left).1 y later
      have back : le y x = true := by
        rcases List.mem_cons.mp inRight with rfl | later
        · simpa [level] using self x
        · exact (List.pairwise_cons.mp right).1 x later
      have heads := same x
      rw [List.filter_cons_of_pos (self x),
        List.filter_cons_of_pos (by rw [level, forth, back]; rfl)] at heads
      obtain ⟨rfl, _⟩ := List.cons.inj heads
      congr 1
      refine ih left.of_cons right.of_cons ?_
      intro z
      have tails := same z
      simp only [List.filter_cons] at tails
      split at tails
      · exact (List.cons.inj tails).2
      · exact tails

theorem filter_mergeSort (trans : ∀ a b c : α, le a b = true → le b c = true → le a c = true)
    (total : ∀ a b : α, (le a b || le b a) = true) (test : α → Bool) (xs : List α) :
    (xs.mergeSort le).filter test = (xs.filter test).mergeSort le := by
  have whole := stablySorted_mergeSort trans total xs
  have part := stablySorted_mergeSort trans total (xs.filter test)
  refine eq_of_sorted total (whole.sorted.sublist List.filter_sublist) part.sorted ?_
  intro x
  rw [List.filter_comm, whole.ties, List.filter_comm, part.ties]

/-- A list that was sorted with one part before the other comes out the same if it is taken apart again
and sorted. -/
theorem StablySorted.mergeSort_parts {as bs : List α} (stable : StablySorted le (as ++ bs) ys)
    (trans : ∀ a b c : α, le a b = true → le b c = true → le a c = true)
    (total : ∀ a b : α, (le a b || le b a) = true) (part : α → Bool)
    (first : ∀ a ∈ as, part a = true) (second : ∀ b ∈ bs, part b = false) :
    (ys.filter part ++ ys.filter fun y => !part y).mergeSort le = ys := by
  have sorted := stablySorted_mergeSort trans total (ys.filter part ++ ys.filter fun y => !part y)
  refine eq_of_sorted total sorted.sorted stable.sorted ?_
  intro x
  have parts (test : α → Bool) : (ys.filter test).filter (level le x) =
      ((as ++ bs).filter test).filter (level le x) := by
    rw [List.filter_comm, stable.ties, List.filter_comm]
  have front : (as ++ bs).filter part = as := by
    rw [List.filter_append, List.filter_eq_self.mpr first,
      List.filter_eq_nil_iff.mpr (by simpa using second), List.append_nil]
  have back : ((as ++ bs).filter fun y => !part y) = bs := by
    rw [List.filter_append, List.filter_eq_nil_iff.mpr (by simpa using first),
      List.filter_eq_self.mpr (by simpa using second), List.nil_append]
  rw [sorted.ties, List.filter_append, parts, parts, front, back, ← List.filter_append, stable.ties]

end SourceOutline

import Mathlib.Data.List.Nodup
import SourceOutline.Definition

/-! Definitions by id. The last definition with an id stands for it; where ids are distinct it is the
only one. -/
namespace SourceOutline

variable {defs : List Definition} {d : Definition} {id : Nat}

theorem find?_eq_some_of_unique {α : Type*} {test : α → Bool} {xs : List α} {x : α} (member : x ∈ xs)
    (passes : test x = true) (unique : ∀ y ∈ xs, test y = true → y = x) :
    xs.find? test = some x := by
  cases found : xs.find? test with
  | none => exact absurd passes (List.find?_eq_none.mp found x member)
  | some y => rw [unique y (List.mem_of_find?_eq_some found) (List.find?_some found)]

theorem find?_earliest {α : Type*} {R : α → α → Prop} {test : α → Bool} {xs : List α} {x y : α}
    (along : xs.Pairwise R) (found : xs.find? test = some x) (member : y ∈ xs)
    (passes : test y = true) : y = x ∨ R x y := by
  obtain ⟨_, before, after, rfl, refused⟩ := List.find?_eq_some_iff_append.mp found
  rcases List.mem_append.mp member with earlier | rest
  · have refusal := refused y earlier
    simp [passes] at refusal
  · rcases List.mem_cons.mp rest with here | later
    · exact .inl here
    · exact .inr ((List.pairwise_cons.mp (List.pairwise_append.mp along).2.1).1 y later)

theorem mapM_map_eq_some {α β : Type} {read : β → Option α} {write : α → β} {xs : List α}
    (back : ∀ x ∈ xs, read (write x) = some x) : (xs.map write).mapM read = some xs := by
  induction xs with
  | nil => rfl
  | cons x xs ih =>
    rw [List.map_cons, List.mapM_cons, back x List.mem_cons_self,
      ih fun y member => back y (List.mem_cons_of_mem x member)]
    rfl

theorem lastWithId?_cons (d : Definition) (defs : List Definition) (id : Nat) :
    lastWithId? (d :: defs) id =
      (lastWithId? defs id).or (if d.id = id then some d else none) := by
  simp only [lastWithId?, List.findRev?, beq_iff_eq]
  cases defs.findRev? (·.id == id) with
  | none => rfl
  | some e => rfl

theorem lastWithId?_some (found : lastWithId? defs id = some d) : d ∈ defs ∧ d.id = id := by
  induction defs with
  | nil => simp [lastWithId?, List.findRev?] at found
  | cons e defs ih =>
    rw [lastWithId?_cons, Option.or_eq_some_iff] at found
    rcases found with later | ⟨_, here⟩
    · have := ih later
      exact ⟨List.mem_cons_of_mem _ this.1, this.2⟩
    · split at here
      · rename_i same
        cases here
        exact ⟨List.mem_cons_self, same⟩
      · contradiction

theorem lastWithId?_eq_none_iff : lastWithId? defs id = none ↔ ∀ d ∈ defs, d.id ≠ id := by
  induction defs with
  | nil => simp [lastWithId?, List.findRev?]
  | cons e defs ih => simp [lastWithId?_cons, ih, and_comm]

theorem lastWithId?_of_mem (member : d ∈ defs) : ∃ e, lastWithId? defs d.id = some e := by
  cases found : lastWithId? defs d.id with
  | none => exact absurd rfl (lastWithId?_eq_none_iff.mp found d member)
  | some e => exact ⟨e, rfl⟩

theorem lastWithId?_eq_some_iff (distinct : (defs.map (·.id)).Nodup) :
    lastWithId? defs id = some d ↔ d ∈ defs ∧ d.id = id := by
  constructor
  · exact lastWithId?_some
  · rintro ⟨member, rfl⟩
    obtain ⟨e, found⟩ := lastWithId?_of_mem member
    have named := lastWithId?_some found
    rw [found, List.inj_on_of_nodup_map distinct named.1 member named.2]

/-- The number of definitions whose id is not among `ids`: what a search through the list has left,
however often it comes back to an id that it has met. -/
def unseen (defs : List Definition) (ids : List Nat) : Nat :=
  defs.countP fun d => !ids.contains d.id

theorem unseen_le_length (defs : List Definition) (ids : List Nat) :
    unseen defs ids ≤ defs.length :=
  List.countP_le_length

theorem unseen_mono {ids more : List Nat} (larger : ids ⊆ more) :
    unseen defs more ≤ unseen defs ids := by
  apply List.countP_mono_left
  intro d _ fresh
  simp only [List.contains_eq_mem, Bool.not_eq_true', decide_eq_false_iff_not] at fresh ⊢
  exact fun seen => fresh (larger seen)

theorem unseen_cons (e : Definition) (defs : List Definition) (ids : List Nat) :
    unseen (e :: defs) ids = unseen defs ids + if e.id ∈ ids then 0 else 1 := by
  by_cases met : e.id ∈ ids <;> simp [unseen, met]

theorem unseen_cons_lt {ids : List Nat} (member : d ∈ defs) (fresh : d.id ∉ ids) :
    unseen defs (d.id :: ids) < unseen defs ids := by
  induction defs with
  | nil => cases member
  | cons e defs ih =>
    have tail : unseen defs (d.id :: ids) ≤ unseen defs ids := unseen_mono (List.subset_cons_self ..)
    rw [unseen_cons, unseen_cons]
    rcases List.mem_cons.mp member with rfl | later
    · rw [if_pos List.mem_cons_self, if_neg fresh]
      omega
    · have less := ih later
      by_cases met : e.id ∈ ids
      · rw [if_pos (List.mem_cons_of_mem _ met), if_pos met]
        exact less
      · rw [if_neg met]
        split <;> omega

end SourceOutline

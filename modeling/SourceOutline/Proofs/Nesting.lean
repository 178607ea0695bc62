import SourceOutline.Nesting

/-! The nesting order is a strict linear order on keys. A parent comes before its children in it, so
links along it cannot run in a circle. -/
namespace SourceOutline

namespace NestingKey

theorem lt_iff (a b : NestingKey) :
    a.lt b = true ↔ a.first < b.first ∨ (a.first = b.first ∧
      (b.last < a.last ∨ (a.last = b.last ∧
        (a.rank < b.rank ∨ (a.rank = b.rank ∧ a.tie < b.tie))))) := by
  simp [lt]

theorem le_iff (a b : NestingKey) : a.le b = true ↔ ¬ b.lt a = true := by
  simp [le]

theorem lt_irrefl (a : NestingKey) : ¬ a.lt a = true := by
  rw [lt_iff]
  omega

theorem le_refl (a : NestingKey) : a.le a = true := (le_iff a a).mpr (lt_irrefl a)

theorem lt_trans {a b c : NestingKey} (first : a.lt b = true) (second : b.lt c = true) :
    a.lt c = true := by
  rw [lt_iff] at first second ⊢
  omega

theorem le_trans {a b c : NestingKey} (first : a.le b = true) (second : b.le c = true) :
    a.le c = true := by
  rw [le_iff, lt_iff] at first second ⊢
  omega

theorem le_total (a b : NestingKey) : (a.le b || b.le a) = true := by
  rw [Bool.or_eq_true, le_iff, le_iff, lt_iff, lt_iff]
  omega

theorem le_antisymm {a b : NestingKey} (forth : a.le b = true) (back : b.le a = true) : a = b := by
  rw [le_iff, lt_iff] at forth back
  obtain ⟨first, last, rank, tie⟩ := a
  obtain ⟨start, stop, level, other⟩ := b
  simp only [NestingKey.mk.injEq] at forth back ⊢
  omega

/-- Keys with different ties are never equal, so the order between them is strict. -/
theorem lt_of_le_of_ne_tie {a b : NestingKey} (le : a.le b = true) (apart : a.tie ≠ b.tie) :
    a.lt b = true := by
  rw [le_iff, lt_iff] at le
  rw [lt_iff]
  omega

end NestingKey

end SourceOutline

import SourceOutline.Proofs.Extraction

/-! The lines of ranges. A range that is not empty has the lines from its first byte to its last one, so
a range around it has at least its lines. -/
namespace SourceOutline

namespace LineSpan

theorem contains_iff {a b : LineSpan} : a.contains b = true ↔ a.first ≤ b.first ∧ b.last ≤ a.last := by
  simp [contains]

theorem contains_refl (a : LineSpan) : a.contains a = true := contains_iff.mpr ⟨Nat.le_refl _, Nat.le_refl _⟩

theorem contains_antisymm {a b : LineSpan} (left : a.contains b = true) (right : b.contains a = true) :
    a = b := by
  obtain ⟨first, last⟩ := a
  obtain ⟨start, stop⟩ := b
  simp only [contains_iff] at left right
  rw [LineSpan.mk.injEq]
  omega

/-- The two have a line in common. -/
def Meets (a b : LineSpan) : Prop :=
  ∃ line, (a.first ≤ line ∧ line ≤ a.last) ∧ b.first ≤ line ∧ line ≤ b.last

theorem meets_iff {a b : LineSpan} : max a.first b.first ≤ min a.last b.last ↔ a.Meets b := by
  constructor
  · intro h
    exact ⟨max a.first b.first, by omega, by omega⟩
  · rintro ⟨line, _, _⟩
    omega

instance (a b : LineSpan) : Decidable (a.Meets b) := decidable_of_iff _ meets_iff

theorem meets_of_contains {a b : LineSpan} (contains : a.contains b = true) (some_ : b.first ≤ b.last) :
    a.Meets b := by
  rw [contains_iff] at contains
  exact ⟨b.first, by omega, by omega⟩

end LineSpan

namespace ByteRange

/-- The range reaches over all of the other. -/
def Covers (outer inner : ByteRange) : Prop := outer.start ≤ inner.start ∧ inner.stop ≤ outer.stop

instance (outer inner : ByteRange) : Decidable (outer.Covers inner) :=
  inferInstanceAs (Decidable (_ ∧ _))

/-- There is a byte in the range. -/
def Filled (r : ByteRange) : Prop := r.start < r.stop

instance (r : ByteRange) : Decidable r.Filled := inferInstanceAs (Decidable (_ < _))

theorem Covers.refl (r : ByteRange) : r.Covers r := ⟨Nat.le_refl _, Nat.le_refl _⟩

theorem Covers.trans {a b c : ByteRange} (left : a.Covers b) (right : b.Covers c) : a.Covers c :=
  ⟨left.1.trans right.1, right.2.trans left.2⟩

theorem Covers.filled {outer inner : ByteRange} (covers : outer.Covers inner) (filled : inner.Filled) :
    outer.Filled :=
  Nat.lt_of_le_of_lt covers.1 (Nat.lt_of_lt_of_le filled covers.2)

end ByteRange

namespace Source

theorem breaksFrom_increasing (offset : Nat) (bytes : List UInt8) :
    (breaksFrom offset bytes).Pairwise (· < ·) ∧ ∀ b ∈ breaksFrom offset bytes, offset ≤ b := by
  induction bytes generalizing offset with
  | nil => exact ⟨.nil, by simp [breaksFrom]⟩
  | cons byte bytes ih =>
    obtain ⟨increasing, later⟩ := ih (offset + 1)
    rw [breaksFrom]
    split
    · refine ⟨List.pairwise_cons.mpr ⟨later, increasing⟩, ?_⟩
      intro b member
      rcases List.mem_cons.mp member with rfl | after
      · exact Nat.le_refl _
      · exact Nat.le_of_succ_le (later b after)
    · exact ⟨increasing, fun b member => Nat.le_of_succ_le (later b member)⟩

theorem ofText_breaks_nodup (text : String) : (ofText text).breaks.Nodup :=
  (breaksFrom_increasing 0 text.toUTF8.toList).1.imp Nat.ne_of_lt

variable {src : Source}

theorem row_succ (distinct : src.breaks.Nodup) (offset : Nat) :
    src.row (offset + 1) = src.row offset + if offset ∈ src.breaks then 1 else 0 := by
  rw [← distinct.count, row, row]
  induction src.breaks with
  | nil => rfl
  | cons b breaks ih =>
    rw [List.countP_cons, List.countP_cons, List.count_cons, ih]
    simp only [decide_eq_true_eq, beq_iff_eq]
    split_ifs <;> omega

theorem atLineStart_succ (src : Source) (offset : Nat) :
    src.atLineStart (offset + 1) = true ↔ offset ∈ src.breaks := by
  simp [atLineStart]

/-- The last line of a range is that of its last byte, also where that byte is a line feed. -/
theorem lineSpan_of_filled (distinct : src.breaks.Nodup) {r : ByteRange} (filled : r.Filled) :
    src.lineSpan r = ⟨src.row r.start + 1, src.row (r.stop - 1) + 1⟩ := by
  obtain ⟨start, stop⟩ := r
  obtain ⟨last, rfl⟩ := Nat.exists_eq_add_one_of_ne_zero (Nat.ne_zero_of_lt filled)
  have before : src.row start ≤ src.row last := src.row_mono (Nat.le_of_lt_succ filled)
  have next := row_succ distinct last
  simp only [lineSpan, Bool.and_eq_true, atLineStart_succ, decide_eq_true_eq, Nat.add_sub_cancel,
    LineSpan.mk.injEq, true_and]
  by_cases ends : last ∈ src.breaks
  · rw [if_pos ends] at next
    rw [if_pos ⟨ends, by omega⟩]
    omega
  · rw [if_neg ends] at next
    rw [if_neg fun h => ends h.1]
    omega

theorem lineSpan_contains (distinct : src.breaks.Nodup) {outer inner : ByteRange}
    (covers : outer.Covers inner) (filled : inner.Filled) :
    (src.lineSpan outer).contains (src.lineSpan inner) = true := by
  rw [lineSpan_of_filled distinct filled, lineSpan_of_filled distinct (covers.filled filled),
    LineSpan.contains_iff]
  have first := src.row_mono covers.1
  have last := src.row_mono (Nat.sub_le_sub_right covers.2 1)
  exact ⟨Nat.add_le_add_right first 1, Nat.add_le_add_right last 1⟩

theorem last_le_first (distinct : src.breaks.Nodup) {a b : ByteRange} (left : a.Filled)
    (right : b.Filled) (before : a.stop ≤ b.start) :
    (src.lineSpan a).last ≤ (src.lineSpan b).first := by
  rw [lineSpan_of_filled distinct left, lineSpan_of_filled distinct right]
  exact Nat.add_le_add_right (src.row_mono ((Nat.sub_le _ 1).trans before)) 1

theorem slice_eq_empty (src : Source) {r : ByteRange} (empty : ¬ r.Filled) : src.slice r = "" := by
  have none : src.bytes.extract r.start r.stop = ByteArray.empty :=
    ByteArray.extract_eq_empty_iff.mpr ((Nat.min_le_left ..).trans (Nat.le_of_not_lt empty))
  rw [slice, none]
  rfl

end Source

end SourceOutline

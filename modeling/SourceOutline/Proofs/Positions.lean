import SourceOutline.Proofs.Lines

/-! Rows and columns. Reading the bytes of a source one by one gives the position of every offset, and the
lines of a node are those between the positions of its two ends. The lines of a node that is not empty are
among those of every node around it. -/
namespace SourceOutline

structure Position where
  row : Nat
  column : Nat
deriving DecidableEq, Repr

/-- The lines between two positions. At the start of a later line, only the lines above it count. -/
def Position.lines (start stop : Position) : LineSpan :=
  ⟨start.row + 1, (if stop.column = 0 ∧ start.row < stop.row then stop.row - 1 else stop.row) + 1⟩

namespace Source

/-- The position behind so many bytes. A line feed leads to the start of the next line, and every other byte
one column on. -/
def position (src : Source) : Nat → Position
  | 0 => ⟨0, 0⟩
  | offset + 1 =>
    let before := src.position offset
    if src.bytes.toList[offset]? = some 10 then ⟨before.row + 1, 0⟩
    else ⟨before.row, before.column + 1⟩

theorem mem_breaksFrom {offset b : Nat} {bytes : List UInt8} :
    b ∈ breaksFrom offset bytes ↔ ∃ i, bytes[i]? = some 10 ∧ b = offset + i := by
  induction bytes generalizing offset with
  | nil => simp [breaksFrom]
  | cons byte bytes ih =>
    rw [← Nat.or_exists_add_one, breaksFrom]
    split
    · rename_i feed
      simp [ih, feed, Nat.add_right_comm offset 1, Nat.add_assoc]
    · rename_i other
      simp [ih, other, Nat.add_right_comm offset 1, Nat.add_assoc]

variable (text : String)

theorem mem_ofText_breaks {offset : Nat} :
    offset ∈ (ofText text).breaks ↔ (ofText text).bytes.toList[offset]? = some 10 := by
  change offset ∈ breaksFrom 0 (ofText text).bytes.toList ↔ _
  simp [mem_breaksFrom]

theorem position_row (offset : Nat) : ((ofText text).position offset).row = (ofText text).row offset := by
  induction offset with
  | zero => simp [position, row]
  | succ offset ih =>
    simp only [row_succ (ofText_breaks_nodup text), mem_ofText_breaks, position, ← ih]
    split <;> rfl

theorem position_column (offset : Nat) :
    ((ofText text).position offset).column = 0 ↔ (ofText text).atLineStart offset = true := by
  cases offset with
  | zero => simp [position, atLineStart]
  | succ offset =>
    simp only [atLineStart_succ, mem_ofText_breaks, position]
    split <;> simp [*]

theorem lineSpan_eq_lines (r : ByteRange) :
    (ofText text).lineSpan r = ((ofText text).position r.start).lines ((ofText text).position r.stop) := by
  simp only [lineSpan, Position.lines, position_row, position_column, Bool.and_eq_true,
    decide_eq_true_eq]

/-- The lines of a node are those between the positions of its ends. If the node is not empty, there is a
line among them, and every node around its range has them all. -/
theorem span_follows_ranges {outer inner : Place} (covers : outer.node.range.Covers inner.node.range)
    (filled : inner.node.range.Filled) :
    let src := ofText text
    (∀ p : Place, src.span p = (src.position p.node.range.start).lines (src.position p.node.range.stop)) ∧
    (1 ≤ (src.span inner).first ∧ (src.span inner).first ≤ (src.span inner).last) ∧
    (src.span outer).first ≤ (src.span inner).first ∧ (src.span inner).last ≤ (src.span outer).last := by
  intro src
  have ordered : inner.node.range.start ≤ inner.node.range.stop := Nat.le_of_lt filled
  have within := lineSpan_contains (ofText_breaks_nodup text) covers filled
  refine ⟨fun p => lineSpan_eq_lines text p.node.range, ?_, LineSpan.contains_iff.mp within⟩
  exact ⟨src.one_le_first inner.node.range, src.first_le_last ordered⟩

/-- Both nodes end behind the last line feed, and both end on the line before it. -/
theorem span_follows_ranges_feed :
    let node (start stop : Nat) (children : List Node) : Node :=
      ⟨"block", none, ⟨start, stop⟩, true, false, false, false, children⟩
    let outer : Place := .root (node 0 6 [node 3 6 []])
    let inner : Place := .child outer 0 (node 3 6 [])
    let src := ofText "a:\n b\n"
    (outer.node.range.Covers inner.node.range ∧ inner.node.range.Filled) ∧
    src.position 6 = ⟨2, 0⟩ ∧ src.span outer = ⟨1, 2⟩ ∧ src.span inner = ⟨2, 2⟩ ∧
    (src.span outer).first ≤ (src.span inner).first ∧ (src.span inner).last ≤ (src.span outer).last := by
  intro node outer inner src
  have covers : outer.node.range.Covers inner.node.range := by decide
  have filled : inner.node.range.Filled := by decide
  refine ⟨⟨covers, filled⟩, by decide +kernel, by decide +kernel, by decide +kernel, ?_⟩
  exact (span_follows_ranges "a:\n b\n" covers filled).2.2

/-- A range without a byte can fall out of the lines of a range around it. -/
example : (ofText "a\n").lineSpan ⟨0, 2⟩ = ⟨1, 1⟩ ∧ (ofText "a\n").lineSpan ⟨2, 2⟩ = ⟨2, 2⟩ := by
  decide +kernel

end Source

end SourceOutline

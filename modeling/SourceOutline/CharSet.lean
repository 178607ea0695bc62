/-! Sets of characters as ranges of code points. -/
namespace SourceOutline

/-- Ranges with both ends included. -/
structure CharSet where
  ranges : List (Nat × Nat)
deriving DecidableEq, Repr, Inhabited

namespace CharSet

def maxCodePoint : Nat := 0x10FFFF

def contains (s : CharSet) (c : Char) : Bool :=
  s.ranges.any fun r => r.1 ≤ c.toNat && c.toNat ≤ r.2

def empty : CharSet := ⟨[]⟩

def full : CharSet := ⟨[(0, maxCodePoint)]⟩

def single (c : Char) : CharSet := ⟨[(c.toNat, c.toNat)]⟩

def range (first last : Char) : CharSet := ⟨[(first.toNat, last.toNat)]⟩

/-- Joins neighbours that overlap or touch; `current` is still open on the right. -/
def mergeInto (current : Nat × Nat) : List (Nat × Nat) → List (Nat × Nat)
  | [] => [current]
  | r :: rs =>
    if r.1 ≤ current.2 + 1 then mergeInto (current.1, max current.2 r.2) rs
    else current :: mergeInto r rs

def normalize (s : CharSet) : CharSet :=
  match s.ranges.mergeSort fun a b => decide (a.1 ≤ b.1) with
  | [] => empty
  | r :: rs => ⟨mergeInto r rs⟩

def union (a b : CharSet) : CharSet := normalize ⟨a.ranges ++ b.ranges⟩

def gapsFrom (start : Nat) : List (Nat × Nat) → List (Nat × Nat)
  | [] => if start ≤ maxCodePoint then [(start, maxCodePoint)] else []
  | r :: rs =>
    if start < r.1 then (start, r.1 - 1) :: gapsFrom (r.2 + 1) rs else gapsFrom (r.2 + 1) rs

def complement (s : CharSet) : CharSet := ⟨gapsFrom 0 s.normalize.ranges⟩

def inter (a b : CharSet) : CharSet := complement (union a.complement b.complement)

def diff (a b : CharSet) : CharSet := inter a b.complement

def symmDiff (a b : CharSet) : CharSet := union (diff a b) (diff b a)

def isAscii (s : CharSet) : Bool := s.ranges.all fun r => r.2 < 128

end CharSet

end SourceOutline

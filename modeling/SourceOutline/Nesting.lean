import SourceOutline.Definition

/-! The order in which an enclosing definition comes before what it encloses. -/
namespace SourceOutline

/-- First line, last line, rank of the kind, and a number that breaks ties. -/
structure NestingKey where
  first : Nat
  last : Nat
  rank : Nat
  tie : Nat
deriving DecidableEq, Repr

namespace NestingKey

/-- Earlier first line, then later last line, then lower rank, then lower tie. -/
def lt (a b : NestingKey) : Bool :=
  a.first < b.first || (a.first == b.first &&
    (b.last < a.last || (a.last == b.last &&
      (a.rank < b.rank || (a.rank == b.rank && a.tie < b.tie)))))

def le (a b : NestingKey) : Bool := !b.lt a

end NestingKey

namespace Definition

def keyWith (d : Definition) (tie : Nat) : NestingKey := ⟨d.startLine, d.endLine, d.kind.rank, tie⟩

def nestingKey (d : Definition) : NestingKey := d.keyWith d.id

end Definition

end SourceOutline

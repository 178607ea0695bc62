import SourceOutline.Definition

/-! Definition lists as forests: children nested below their parents. -/
namespace SourceOutline

structure Branch where
  definition : Definition
  children : List Branch
deriving Repr, Inhabited

namespace Forest

def growAll {α : Type} (grow : List Nat → Definition → Option α × List Nat) :
    List Nat → List Definition → List α × List Nat
  | shown, [] => ([], shown)
  | shown, d :: ds =>
    let (grown, shown) := grow shown d
    let (others, shown) := growAll grow shown ds
    (grown.toList ++ others, shown)

def childrenOf (defs : List Definition) (d : Definition) : List Definition :=
  d.children.filterMap (lastWithId? defs)

/-- The branch of a definition, unless its id has been shown. Each level shows one more id of the list,
so `fuel` of its length is enough. -/
def grow (defs : List Definition) : Nat → List Nat → Definition → Option Branch × List Nat
  | 0, shown, _ => (none, shown)
  | fuel + 1, shown, d =>
    if shown.contains d.id then (none, shown)
    else
      let (children, shown) :=
        growAll (grow defs fuel) (d.id :: shown) (childrenOf defs d)
      (some ⟨d, children⟩, shown)

/-- A root has no parent, or one that is not in the list. -/
def isRoot (defs : List Definition) (d : Definition) : Bool :=
  match d.parent with
  | none => true
  | some p => (lastWithId? defs p).isNone

/-- The branches of the roots, in list order. -/
def build (defs : List Definition) : List Branch :=
  (growAll (grow defs defs.length) [] (defs.filter (isRoot defs))).1

end Forest

end SourceOutline

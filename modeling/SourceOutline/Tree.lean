import SourceOutline.Source

/-! Syntax trees. A node knows its kind, the field that it fills in its parent, and its range; a
place is a node together with the way up to the root. -/
namespace SourceOutline

structure Node where
  kind : String
  field : Option String
  range : ByteRange
  named : Bool
  missing : Bool
  extra : Bool
  /-- A syntax error lies somewhere below. -/
  faulty : Bool
  children : List Node
deriving Repr, Inhabited

/-- One node of a tree in preorder, with the number of its children. -/
structure Row where
  kind : String
  field : String
  range : ByteRange
  childCount : Nat
  flags : Nat
deriving Repr, Inhabited

namespace Row

def toNode (r : Row) (children : List Node) : Node where
  kind := r.kind
  field := if r.field.isEmpty then none else some r.field
  range := r.range
  named := r.flags.testBit 0
  missing := r.flags.testBit 1
  extra := r.flags.testBit 2
  faulty := r.flags.testBit 3
  children := children

end Row

namespace Node

def isError (n : Node) : Bool := n.kind == "ERROR"

/-- The forest that rows in preorder describe: read from the back, each row takes its children from
the trees already read. -/
def forest? : List Row → Option (List Node)
  | [] => some []
  | r :: rows => do
    let later ← forest? rows
    if r.childCount ≤ later.length then
      return r.toNode (later.take r.childCount) :: later.drop r.childCount
    else none

def ofRows? (rows : List Row) : Option Node := do
  match ← forest? rows with
  | [root] => return root
  | _ => none

end Node

inductive Place where
  | root (node : Node)
  | child (parent : Place) (index : Nat) (node : Node)
deriving Inhabited

namespace Place

def node : Place → Node
  | root n => n
  | child _ _ n => n

def parent? : Place → Option Place
  | root _ => none
  | child p _ _ => some p

def address : Place → List Nat
  | root _ => []
  | child p i _ => p.address ++ [i]

/-- The order of addresses in preorder: a place comes before everything below it. -/
def addressLe : List Nat → List Nat → Bool
  | [], _ => true
  | _ :: _, [] => false
  | i :: a, j :: b => i < j || (i == j && addressLe a b)

/-- The places strictly above, nearest first. -/
def ancestors : Place → List Place
  | root _ => []
  | child p _ _ => p :: p.ancestors

/-- A place and the places above it, innermost first. -/
def outward (p : Place) : List Place := p :: p.ancestors

def childrenFrom (p : Place) : Nat → List Node → List Place
  | _, [] => []
  | i, n :: ns => child p i n :: childrenFrom p (i + 1) ns

def children (p : Place) : List Place := p.childrenFrom 0 p.node.children

def same (p q : Place) : Bool := p.address == q.address

end Place

namespace Node

mutual

def placesAt (top : Place) : Node → List Place
  | ⟨_, _, _, _, _, _, _, children⟩ => top :: placesBelow top 0 children

def placesBelow (top : Place) (i : Nat) : List Node → List Place
  | [] => []
  | n :: ns => placesAt (.child top i n) n ++ placesBelow top (i + 1) ns

end

end Node

namespace Place

/-- The place and all places below it, in preorder. -/
def subtree (p : Place) : List Place := p.node.placesAt p

end Place

namespace Source

def text (s : Source) (p : Place) : String := s.slice p.node.range

def span (s : Source) (p : Place) : LineSpan := s.lineSpan p.node.range

end Source

end SourceOutline

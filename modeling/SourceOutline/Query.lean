import SourceOutline.Tree

/-! Patterns over syntax trees, and their matches. -/
namespace SourceOutline

/-- What a pattern asks of a node. Nodes of syntax errors pass only a test for their own kind. -/
inductive NodeTest where
  | kind (name : String)
  | named
  | any
deriving DecidableEq, Repr, Inhabited

namespace NodeTest

def accepts : NodeTest → Node → Bool
  | kind name, n => n.named && n.kind == name
  | named, n => n.named && !n.isError
  | any, n => !n.isError

end NodeTest

mutual

/-- A pattern captures the node that it matches under each of its names. -/
inductive Pattern where
  | node (test : NodeTest) (captures : List String) (parts : List ChildPattern)
  | oneOf (captures : List String) (alternatives : List Pattern)

/-- What a pattern asks of the children: one of them matches, in the field if one is given. -/
inductive ChildPattern where
  | part (field : Option String) (optional : Bool) (pattern : Pattern)

end

structure Query where
  patterns : List Pattern

structure Capture where
  name : String
  place : Place

/-- The captures of one way to match, in preorder of the pattern. -/
abbrev Match := List Capture

namespace Pattern

/-- All ways to bind a part to one of `places` and what follows it to later ones. A child that fills
the field, is no name of the grammar and does not match is a separator that ends the field. -/
def bindEach (field : Option String) (try_ : Place → List Match) (rest : List Place → List Match) :
    List Place → List Match
  | [] => []
  | p :: ps =>
    let fills := field.isNone || p.node.field == field
    let here := if fills then try_ p else []
    let ways := here.flatMap fun m => (rest ps).map (m ++ ·)
    if field.isSome && fills && !p.node.named && here.isEmpty then ways
    else ways ++ bindEach field try_ rest ps

/-- As `bindEach`, but only the first place that leads to a match. -/
def bindFirst (field : Option String) (try_ : Place → List Match) (rest : List Place → List Match) :
    List Place → List Match
  | [] => []
  | p :: ps =>
    let fills := field.isNone || p.node.field == field
    let here := if fills then try_ p else []
    let ways := here.flatMap fun m => (rest ps).map (m ++ ·)
    if !ways.isEmpty then ways
    else if field.isSome && fills && !p.node.named && here.isEmpty then []
    else bindFirst field try_ rest ps

mutual

/-- All ways to match a pattern at a place; the node is also captured under `outer`. -/
def matchAt (outer : List String) : Pattern → Place → List Match
  | node test captures parts, p =>
    if test.accepts p.node then
      (matchParts parts p.children).map ((captures ++ outer).map (⟨·, p⟩) ++ ·)
    else []
  | oneOf captures alternatives, p => matchAny (captures ++ outer) alternatives p

def matchAny (outer : List String) : List Pattern → Place → List Match
  | [], _ => []
  | a :: as, p => matchAt outer a p ++ matchAny outer as p

/-- All ways to bind the parts to a subsequence of the places. An optional part is left out only if
no binding of it leads to a match. -/
def matchParts : List ChildPattern → List Place → List Match
  | [], _ => [[]]
  | .part field optional pattern :: parts, places =>
    if optional then
      let bound := bindFirst field (fun p => matchAt [] pattern p)
        (fun rest => matchParts parts rest) places
      if bound.isEmpty then matchParts parts places else bound
    else
      bindEach field (fun p => matchAt [] pattern p) (fun rest => matchParts parts rest) places

end

mutual

def captureNames : Pattern → List String
  | node _ captures parts => captures ++ partNames parts
  | oneOf captures alternatives => captures ++ alternativeNames alternatives

def alternativeNames : List Pattern → List String
  | [] => []
  | a :: as => captureNames a ++ alternativeNames as

def partNames : List ChildPattern → List String
  | [] => []
  | .part _ _ pattern :: parts => captureNames pattern ++ partNames parts

end

def as (name : String) : Pattern → Pattern
  | node test captures parts => node test (captures ++ [name]) parts
  | oneOf captures alternatives => oneOf (captures ++ [name]) alternatives

end Pattern

namespace Query

def captures (q : Query) (name : String) : Bool :=
  q.patterns.any fun p => p.captureNames.contains name

/-- The place of the last capture of a match, where the match is complete. -/
def lastAddress (m : Match) : List Nat := (m.getLast?.map (·.place.address)).getD []

def matchesAt (q : Query) (p : Place) : List Match :=
  q.patterns.flatMap fun pattern => pattern.matchAt [] p

/-- The matches at every place of a subtree, in the order of their last captures. -/
def run (q : Query) (top : Place) : List Match :=
  let found := (top.subtree.flatMap q.matchesAt).map fun m => (lastAddress m, m)
  (found.mergeSort fun a b => Place.addressLe a.1 b.1).map (·.2)

end Query

namespace Match

def first? (m : Match) (name : String) : Option Place :=
  (m.find? (·.name == name)).map (·.place)

def last? (m : Match) (name : String) : Option Place :=
  (m.findRev? (·.name == name)).map (·.place)

def allNamed (m : Match) (name : String) : List Place :=
  (m.filter (·.name == name)).map (·.place)

end Match

end SourceOutline

import SourceOutline.Query.Text

/-! A language: the queries that find definitions, parameters and calls in its trees.

A definition query captures `name` and an anchor named for its kind, and fills optional fields from
`modifier`, `dataType`, `value`, `returnType` and `parameters`. A parameter query captures
`param_name` and possibly `param_type`, a call query `callee`. -/
namespace SourceOutline

structure Language where
  name : String
  extensions : List String
  definitions : List (Kind × Query)
  parameters : Option Query
  calls : Option Query

namespace Language

def kinds (l : Language) : List Kind := l.definitions.map (·.1)

/-- A language from the texts of its queries; texts that are no query are left out. -/
def ofTexts (name : String) (extensions : List String) (definitions : List (Kind × String))
    (parameters calls : String) : Language where
  name := name
  extensions := extensions
  definitions := definitions.filterMap fun (kind, text) => (Query.ofText? text).map (kind, ·)
  parameters := Query.ofText? parameters
  calls := Query.ofText? calls

end Language

namespace Pattern

def kind (name : String) (parts : List ChildPattern) : Pattern := node (.kind name) [] parts

def leaf (name : String) : Pattern := kind name []

def anyNamed : Pattern := node .named [] []

def anyNode : Pattern := node .any [] []

def either (alternatives : List Pattern) : Pattern := oneOf [] alternatives

end Pattern

namespace ChildPattern

def child (p : Pattern) : ChildPattern := part none false p

def field (name : String) (p : Pattern) : ChildPattern := part (some name) false p

def opt : ChildPattern → ChildPattern
  | part field _ pattern => part field true pattern

end ChildPattern

end SourceOutline

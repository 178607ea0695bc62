import SourceOutline.Text

/-! What a definition is: the kinds, and the classes of kinds that the other modules ask for. -/
namespace SourceOutline

inductive Kind where
  | function | method | classDef | interface | namespaceDef | enum | enumMember | variableDef
  | property | error | metadata
deriving DecidableEq, Repr, Inhabited

namespace Kind

def all : List Kind :=
  [function, method, classDef, interface, namespaceDef, enum, enumMember, variableDef, property,
    error, metadata]

def extractable : List Kind :=
  [namespaceDef, classDef, interface, enum, enumMember, function, method, property, variableDef]

def name : Kind → String
  | function => "function"
  | method => "method"
  | classDef => "class"
  | interface => "interface"
  | namespaceDef => "namespace"
  | enum => "enum"
  | enumMember => "enumMember"
  | variableDef => "variable"
  | property => "property"
  | error => "error"
  | metadata => "metadata"

def ofName? (s : String) : Option Kind := all.find? (·.name == s)

def ofText? (s : String) : Option Kind := all.find? fun k => Text.sameIgnoringCase k.name s

/-- Callables have parameters, calls and a complexity. -/
def callable : Kind → Bool
  | function | method => true
  | _ => false

/-- Containers may be the parent of another definition. -/
def container : Kind → Bool
  | classDef | namespaceDef | interface | enum | method | function => true
  | _ => false

/-- Entries that report on a file: no hierarchy links them and no filter drops them. -/
def passthrough : Kind → Bool
  | error | metadata => true
  | _ => false

/-- Among definitions on the same lines the lower rank is the outer one. -/
def rank : Kind → Nat
  | namespaceDef => 0
  | classDef => 1
  | interface => 2
  | enum => 3
  | function => 4
  | method => 5
  | enumMember => 6
  | property => 7
  | variableDef => 8
  | error | metadata => 9

end Kind

end SourceOutline

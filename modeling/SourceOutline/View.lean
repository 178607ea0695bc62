import SourceOutline.Error
import SourceOutline.Forest
import SourceOutline.Json

/-! What a reader sees of a forest, at each level of detail. -/
namespace SourceOutline

inductive Detail where
  | minimal | standard | detailed
deriving DecidableEq, Repr, Inhabited

namespace Detail

def all : List Detail := [minimal, standard, detailed]

def name : Detail → String
  | minimal => "minimal"
  | standard => "standard"
  | detailed => "detailed"

def rank : Detail → Nat
  | minimal => 0
  | standard => 1
  | detailed => 2

/-- `a` shows at least what `b` shows. -/
def atLeast (a b : Detail) : Bool := b.rank ≤ a.rank

def ofName? (s : String) : Option Detail := all.find? (·.name == s)

def ofText (s : String) : Except ScanError Detail :=
  match all.find? fun d => Text.sameIgnoringCase d.name s with
  | some d => .ok d
  | none => .error (.invalidArgument ("unknown detail level: " ++ s))

end Detail

/-- The visible part of a definition, with the views of its children. Lists are empty when they are
not shown. -/
structure View where
  kind : Kind
  name : String
  lines : Option LineSpan
  modifier : Option String
  dataType : Option String
  value : Option String
  returnType : Option String
  parameters : List Parameter
  calls : List String
  complexity : Option Nat
  children : List View
deriving Repr, Inhabited

namespace View

/-- Lines and modifier show from the standard level on, except for reports on the file; the rest
shows when detailed, the value not for variables and properties, the complexity for callables. -/
def ofDefinition (detail : Detail) (d : Definition) (children : List View) : View :=
  let placed := detail.atLeast .standard && !d.kind.passthrough
  let full := detail.atLeast .detailed
  { kind := d.kind
    name := d.name
    lines := if placed then some d.span else none
    modifier := if placed then d.modifier else none
    dataType := if full then d.dataType else none
    value := if full && d.kind != .variableDef && d.kind != .property then d.value else none
    returnType := if full then d.returnType else none
    parameters := if full then d.parameters else []
    calls := if full then d.calls else []
    complexity := if full && d.kind.callable then some d.complexity else none
    children }

mutual

def ofBranch (detail : Detail) : Branch → View
  | ⟨d, children⟩ => ofDefinition detail d (ofBranches detail children)

def ofBranches (detail : Detail) : List Branch → List View
  | [] => []
  | b :: bs => ofBranch detail b :: ofBranches detail bs

end

def forest (detail : Detail) (defs : List Definition) : List View :=
  ofBranches detail (Forest.build defs)

end View

/-- The definitions of each file, by path. -/
abbrev Catalog := List (String × List Definition)

end SourceOutline

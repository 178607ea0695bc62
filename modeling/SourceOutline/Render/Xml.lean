import SourceOutline.View
import SourceOutline.Xml

/-! Catalogues as XML: an element for each file and each definition. -/
namespace SourceOutline

namespace View

def parameterElement (p : Parameter) : Xml :=
  ⟨"Parameter", ("name", p.name) :: (p.type.map fun t => ("type", t)).toList, []⟩

def callElement (name : String) : Xml := ⟨"Call", [("name", name)], []⟩

/-- An element around a list, unless the list is empty. -/
def listElement (tag : String) (items : List Xml) : List Xml :=
  if items.isEmpty then [] else [⟨tag, [], items⟩]

def linesAttributes : Option LineSpan → List (String × String)
  | some lines => [("startLine", toString lines.first), ("endLine", toString lines.last)]
  | none => []

def optionalAttribute (name : String) (value : Option String) : List (String × String) :=
  (value.map fun v => (name, v)).toList

def ownAttributes (v : View) : List (String × String) :=
  [("type", v.kind.name), ("name", v.name)] ++ linesAttributes v.lines ++
    optionalAttribute "modifier" v.modifier ++ optionalAttribute "dataType" v.dataType ++
    optionalAttribute "value" v.value ++ optionalAttribute "returnType" v.returnType ++
    optionalAttribute "complexity" (v.complexity.map fun n => toString n)

def ownElements (v : View) : List Xml :=
  listElement "Parameters" (v.parameters.map parameterElement) ++
    listElement "Calls" (v.calls.map callElement)

mutual

def toXml : View → Xml
  | v@⟨_, _, _, _, _, _, _, _, _, _, children⟩ =>
    ⟨"Definition", v.ownAttributes, v.ownElements ++ toXmls children⟩

def toXmls : List View → List Xml
  | [] => []
  | v :: vs => toXml v :: toXmls vs

end

end View

namespace Render

def fileElement (detail : Detail) (file : String × List Definition) : Xml :=
  ⟨"File", [("path", file.1)], View.toXmls (View.forest detail file.2)⟩

def xml (catalog : Catalog) (detail : Detail) : String :=
  Xml.document "CodeStructure" (catalog.map (fileElement detail))

end Render

end SourceOutline

import SourceOutline.Definition.Json
import SourceOutline.View

/-! Catalogues as JSON: an object from paths to arrays of views. -/
namespace SourceOutline

namespace View

def linesMembers : Option LineSpan → List (String × Json)
  | some lines => [("startLine", .nat lines.first), ("endLine", .nat lines.last)]
  | none => []

/-- The members of a view without those of its children. -/
def ownMembers (v : View) : List (String × Json) :=
  [("type", .str v.kind.name), ("name", .str v.name)] ++ linesMembers v.lines ++
    Definition.optionalText "modifier" v.modifier ++ Definition.optionalText "dataType" v.dataType ++
    Definition.optionalText "value" v.value ++ Definition.optionalText "returnType" v.returnType ++
    Definition.nonemptyList "parameters" v.parameters Parameter.toJson ++
    Definition.nonemptyList "calls" v.calls Json.str ++
    (v.complexity.map fun n => ("complexity", Json.nat n)).toList

def childMembers (children : List Json) : List (String × Json) :=
  if children.isEmpty then [] else [("children", .arr children)]

mutual

def toJson : View → Json
  | v@⟨_, _, _, _, _, _, _, _, _, _, children⟩ =>
    .obj (v.ownMembers ++ childMembers (toJsons children))

def toJsons : List View → List Json
  | [] => []
  | v :: vs => toJson v :: toJsons vs

end

end View

namespace Render

def jsonValue (catalog : Catalog) (detail : Detail) : Json :=
  .obj (catalog.map fun (path, defs) => (path, .arr (View.toJsons (View.forest detail defs))))

def json (catalog : Catalog) (detail : Detail) : String := (jsonValue catalog detail).pretty

end Render

end SourceOutline

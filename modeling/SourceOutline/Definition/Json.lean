import SourceOutline.Definition
import SourceOutline.Json.Record

/-! Definitions in JSON: absent optional fields and empty lists of parameters and calls are not
written, and are read back as absent and empty. -/
namespace SourceOutline

open Json (Record)

namespace Parameter

def toJson (p : Parameter) : Json :=
  .obj (("name", .str p.name) :: (p.type.map fun t => ("type", Json.str t)).toList)

def ofJson? (v : Json) : Option Parameter := do
  let r ← v.toRecord? 2
  return { name := ← r.required 0 "name" Json.toStr?
           type := ← r.optional 1 "type" Json.toStr? }

end Parameter

/-- The kind with a name that stands for itself, or as the only key of an object, over null. -/
def Kind.ofJson? : Json → Option Kind
  | .str name => ofName? name
  | .obj [(name, .null)] => ofName? name
  | _ => none

namespace Definition

def optionalText (key : String) (text : Option String) : List (String × Json) :=
  (text.map fun t => (key, Json.str t)).toList

def nonemptyList (key : String) (items : List α) (write : α → Json) : List (String × Json) :=
  if items.isEmpty then [] else [(key, .arr (items.map write))]

def members (d : Definition) : List (String × Json) :=
  [("id", .nat d.id), ("kind", .str d.kind.name), ("name", .str d.name),
      ("startLine", .nat d.startLine), ("endLine", .nat d.endLine), ("loc", .nat d.loc)] ++
    optionalText "modifier" d.modifier ++ optionalText "dataType" d.dataType ++
    optionalText "value" d.value ++ optionalText "returnType" d.returnType ++
    nonemptyList "parameters" d.parameters Parameter.toJson ++
    nonemptyList "calls" d.calls Json.str ++
    [("complexity", .nat d.complexity), ("parameterCount", .nat d.parameterCount)] ++
    (d.parent.map fun p => ("parentId", Json.nat p)).toList ++
    [("children", .arr (d.children.map Json.nat))]

def toJson (d : Definition) : Json := .obj d.members

def ofJson? (v : Json) : Option Definition := do
  let r ← v.toRecord? 16
  return { id := ← r.required 0 "id" Json.toNat64?
           kind := ← r.required 1 "kind" Kind.ofJson?
           name := ← r.required 2 "name" Json.toStr?
           startLine := ← r.required 3 "startLine" Json.toNat64?
           endLine := ← r.required 4 "endLine" Json.toNat64?
           loc := ← r.required 5 "loc" Json.toNat64?
           modifier := ← r.optional 6 "modifier" Json.toStr?
           dataType := ← r.optional 7 "dataType" Json.toStr?
           value := ← r.optional 8 "value" Json.toStr?
           returnType := ← r.optional 9 "returnType" Json.toStr?
           parameters := ← r.defaulted 10 "parameters" [] (Json.toListOf? Parameter.ofJson?)
           calls := ← r.defaulted 11 "calls" [] Json.toStrs?
           complexity := ← r.required 12 "complexity" Json.toNat32?
           parameterCount := ← r.required 13 "parameterCount" Json.toNat64?
           parent := ← r.optional 14 "parentId" Json.toNat64?
           children := ← r.defaulted 15 "children" [] (Json.toListOf? Json.toNat64?) }

end Definition

end SourceOutline

import SourceOutline.Language

/-! Queries for Go. -/
namespace SourceOutline.Language.Go

open Pattern ChildPattern

def classes : Query :=
  ⟨[(kind "type_spec" [
      field "name" ((leaf "type_identifier").as "name"),
      field "type" (leaf "struct_type")]).as "class"]⟩

def interfaces : Query :=
  ⟨[(kind "type_spec" [
      field "name" ((leaf "type_identifier").as "name"),
      field "type" (leaf "interface_type")]).as "interface"]⟩

def functions : Query :=
  ⟨[(kind "function_declaration" [
      field "name" ((leaf "identifier").as "name"),
      field "parameters" ((leaf "parameter_list").as "parameters"),
      (field "result" (anyNamed.as "returnType")).opt]).as "function"]⟩

def methods : Query :=
  ⟨[(kind "method_declaration" [
      field "name" ((leaf "field_identifier").as "name"),
      field "parameters" ((leaf "parameter_list").as "parameters"),
      (field "result" (anyNamed.as "returnType")).opt]).as "method"]⟩

def properties : Query :=
  ⟨[(kind "field_declaration" [
      field "name" ((leaf "field_identifier").as "name"),
      field "type" (anyNamed.as "dataType")]).as "property"]⟩

def variableDefs : Query :=
  ⟨[(kind "var_spec" [
      field "name" ((leaf "identifier").as "name"),
      (field "type" (anyNamed.as "dataType")).opt,
      (field "value" ((leaf "expression_list").as "value")).opt]).as "variable",
    (kind "const_spec" [
      field "name" ((leaf "identifier").as "name"),
      (field "type" (anyNamed.as "dataType")).opt,
      (field "value" ((leaf "expression_list").as "value")).opt]).as "variable"]⟩

def parameters : Query :=
  ⟨[kind "parameter_list" [
      child (kind "parameter_declaration" [
        field "name" ((leaf "identifier").as "param_name"),
        field "type" (anyNamed.as "param_type")])],
    kind "parameter_list" [
      child (kind "variadic_parameter_declaration" [
        field "name" ((leaf "identifier").as "param_name"),
        field "type" (anyNamed.as "param_type")])]]⟩

def calls : Query :=
  ⟨[kind "call_expression" [
      field "function" ((leaf "identifier").as "callee")],
    kind "call_expression" [
      field "function" (kind "selector_expression" [
        field "field" ((leaf "field_identifier").as "callee")])]]⟩

/-- The kinds in the order in which their queries run. -/
def definitions : List (Kind × Query) :=
  [(.classDef, classes),
    (.interface, interfaces),
    (.function, functions),
    (.method, methods),
    (.property, properties),
    (.variableDef, variableDefs)]

end SourceOutline.Language.Go

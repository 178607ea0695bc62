import SourceOutline.Language

/-! Queries for JavaScript. -/
namespace SourceOutline.Language.JavaScript

open Pattern ChildPattern

def classes : Query :=
  ⟨[(kind "class_declaration" [
      field "name" ((leaf "identifier").as "name")]).as "class"]⟩

def functions : Query :=
  ⟨[(kind "function_declaration" [
      field "name" ((leaf "identifier").as "name"),
      field "parameters" ((leaf "formal_parameters").as "parameters")]).as "function",
    (kind "generator_function_declaration" [
      field "name" ((leaf "identifier").as "name"),
      field "parameters" ((leaf "formal_parameters").as "parameters")]).as "function"]⟩

def functionValues : Query :=
  ⟨[(kind "lexical_declaration" [
      child (kind "variable_declarator" [
        field "name" ((leaf "identifier").as "name"),
        field "value" (either [kind "arrow_function" [
            field "parameters" ((leaf "formal_parameters").as "parameters")],
          kind "function_expression" [
            field "parameters" ((leaf "formal_parameters").as "parameters")]])])]).as "function"]⟩

def methods : Query :=
  ⟨[(kind "method_definition" [
      field "name" ((either [leaf "property_identifier", leaf "private_property_identifier"]).as "name"),
      field "parameters" ((leaf "formal_parameters").as "parameters")]).as "method"]⟩

def properties : Query :=
  ⟨[(kind "field_definition" [
      field "property" ((either [leaf "property_identifier", leaf "private_property_identifier"]).as "name"),
      (field "value" (anyNamed.as "value")).opt]).as "property"]⟩

def variableDefs : Query :=
  ⟨[(kind "lexical_declaration" [
      child (kind "variable_declarator" [
        field "name" ((leaf "identifier").as "name"),
        (field "value" (anyNamed.as "value")).opt])]).as "variable",
    (kind "variable_declaration" [
      child (kind "variable_declarator" [
        field "name" ((leaf "identifier").as "name"),
        (field "value" (anyNamed.as "value")).opt])]).as "variable"]⟩

def parameters : Query :=
  ⟨[kind "formal_parameters" [
      child ((leaf "identifier").as "param_name")],
    kind "formal_parameters" [
      child (kind "assignment_pattern" [
        field "left" ((leaf "identifier").as "param_name")])],
    kind "formal_parameters" [
      child (kind "rest_pattern" [
        child ((leaf "identifier").as "param_name")])],
    kind "formal_parameters" [
      child ((either [leaf "object_pattern", leaf "array_pattern"]).as "param_name")],
    kind "formal_parameters" [
      child (kind "assignment_pattern" [
        field "left" ((either [leaf "object_pattern", leaf "array_pattern"]).as "param_name")])]]⟩

def calls : Query :=
  ⟨[kind "call_expression" [
      field "function" ((leaf "identifier").as "callee")],
    kind "call_expression" [
      field "function" (kind "member_expression" [
        field "property" ((leaf "property_identifier").as "callee")])],
    kind "new_expression" [
      field "constructor" ((leaf "identifier").as "callee")]]⟩

/-- The kinds in the order in which their queries run. -/
def definitions : List (Kind × Query) :=
  [(.classDef, classes),
    (.function, functions),
    (.function, functionValues),
    (.method, methods),
    (.property, properties),
    (.variableDef, variableDefs)]

end SourceOutline.Language.JavaScript

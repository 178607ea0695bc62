import SourceOutline.Language

/-! Queries for Java. -/
namespace SourceOutline.Language.Java

open Pattern ChildPattern

def classes : Query :=
  ⟨[(kind "class_declaration" [
      (child ((leaf "modifiers").as "modifier")).opt,
      field "name" ((leaf "identifier").as "name")]).as "class"]⟩

def interfaces : Query :=
  ⟨[(kind "interface_declaration" [
      (child ((leaf "modifiers").as "modifier")).opt,
      field "name" ((leaf "identifier").as "name")]).as "interface"]⟩

def enums : Query :=
  ⟨[(kind "enum_declaration" [
      (child ((leaf "modifiers").as "modifier")).opt,
      field "name" ((leaf "identifier").as "name")]).as "enum"]⟩

def enumMembers : Query :=
  ⟨[(kind "enum_constant" [
      field "name" ((leaf "identifier").as "name")]).as "enumMember"]⟩

def methods : Query :=
  ⟨[(kind "method_declaration" [
      (child ((leaf "modifiers").as "modifier")).opt,
      field "type" (anyNamed.as "returnType"),
      field "name" ((leaf "identifier").as "name"),
      field "parameters" ((leaf "formal_parameters").as "parameters")]).as "method",
    (kind "constructor_declaration" [
      (child ((leaf "modifiers").as "modifier")).opt,
      field "name" ((leaf "identifier").as "name"),
      field "parameters" ((leaf "formal_parameters").as "parameters")]).as "method"]⟩

def properties : Query :=
  ⟨[(kind "field_declaration" [
      (child ((leaf "modifiers").as "modifier")).opt,
      field "type" (anyNamed.as "dataType"),
      field "declarator" (kind "variable_declarator" [
        field "name" ((leaf "identifier").as "name"),
        (field "value" (anyNamed.as "value")).opt])]).as "property"]⟩

def variableDefs : Query :=
  ⟨[(kind "local_variable_declaration" [
      field "type" (anyNamed.as "dataType"),
      field "declarator" (kind "variable_declarator" [
        field "name" ((leaf "identifier").as "name"),
        (field "value" (anyNamed.as "value")).opt])]).as "variable"]⟩

def parameters : Query :=
  ⟨[kind "formal_parameters" [
      child (kind "formal_parameter" [
        field "type" (anyNamed.as "param_type"),
        field "name" ((leaf "identifier").as "param_name")])],
    kind "formal_parameters" [
      child (kind "spread_parameter" [
        child ((either [leaf "type_identifier",
          leaf "scoped_type_identifier",
          leaf "generic_type",
          leaf "integral_type",
          leaf "floating_point_type",
          leaf "boolean_type",
          leaf "array_type"]).as "param_type"),
        child (kind "variable_declarator" [
          field "name" ((leaf "identifier").as "param_name")])])]]⟩

def calls : Query :=
  ⟨[kind "method_invocation" [
      field "name" ((leaf "identifier").as "callee")],
    kind "object_creation_expression" [
      field "type" ((leaf "type_identifier").as "callee")]]⟩

/-- The kinds in the order in which their queries run. -/
def definitions : List (Kind × Query) :=
  [(.classDef, classes),
    (.interface, interfaces),
    (.enum, enums),
    (.enumMember, enumMembers),
    (.method, methods),
    (.property, properties),
    (.variableDef, variableDefs)]

end SourceOutline.Language.Java

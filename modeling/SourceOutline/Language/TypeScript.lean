import SourceOutline.Language

/-! Queries for TypeScript, also with markup. -/
namespace SourceOutline.Language.TypeScript

open Pattern ChildPattern

def namespaces : Query :=
  ⟨[(kind "internal_module" [
      field "name" (anyNamed.as "name")]).as "namespace"]⟩

def classes : Query :=
  ⟨[(kind "class_declaration" [
      field "name" ((leaf "type_identifier").as "name")]).as "class",
    (kind "abstract_class_declaration" [
      field "name" ((leaf "type_identifier").as "name")]).as "class"]⟩

def interfaces : Query :=
  ⟨[(kind "interface_declaration" [
      field "name" ((leaf "type_identifier").as "name")]).as "interface"]⟩

def enums : Query :=
  ⟨[(kind "enum_declaration" [
      field "name" ((leaf "identifier").as "name")]).as "enum"]⟩

def enumMembers : Query :=
  ⟨[kind "enum_body" [
      field "name" (((leaf "property_identifier").as "name").as "enumMember")],
    kind "enum_body" [
      child ((kind "enum_assignment" [
        field "name" ((leaf "property_identifier").as "name"),
        field "value" (anyNamed.as "value")]).as "enumMember")]]⟩

def functions : Query :=
  ⟨[(kind "function_declaration" [
      field "name" ((leaf "identifier").as "name"),
      field "parameters" ((leaf "formal_parameters").as "parameters"),
      (field "return_type" ((leaf "type_annotation").as "returnType")).opt]).as "function"]⟩

def functionValues : Query :=
  ⟨[(kind "lexical_declaration" [
      child (kind "variable_declarator" [
        field "name" ((leaf "identifier").as "name"),
        field "value" (either [kind "arrow_function" [
            field "parameters" ((leaf "formal_parameters").as "parameters"),
            (field "return_type" ((leaf "type_annotation").as "returnType")).opt],
          kind "function_expression" [
            field "parameters" ((leaf "formal_parameters").as "parameters"),
            (field "return_type" ((leaf "type_annotation").as "returnType")).opt]])])]).as "function"]⟩

def methods : Query :=
  ⟨[(kind "method_definition" [
      (child ((leaf "accessibility_modifier").as "modifier")).opt,
      field "name" ((leaf "property_identifier").as "name"),
      field "parameters" ((leaf "formal_parameters").as "parameters"),
      (field "return_type" ((leaf "type_annotation").as "returnType")).opt]).as "method",
    (kind "method_signature" [
      field "name" ((leaf "property_identifier").as "name"),
      field "parameters" ((leaf "formal_parameters").as "parameters"),
      (field "return_type" ((leaf "type_annotation").as "returnType")).opt]).as "method"]⟩

def properties : Query :=
  ⟨[(kind "public_field_definition" [
      (child ((leaf "accessibility_modifier").as "modifier")).opt,
      field "name" ((leaf "property_identifier").as "name"),
      (field "type" ((leaf "type_annotation").as "dataType")).opt,
      (field "value" (anyNamed.as "value")).opt]).as "property",
    (kind "property_signature" [
      field "name" ((leaf "property_identifier").as "name"),
      (field "type" ((leaf "type_annotation").as "dataType")).opt]).as "property"]⟩

def variableDefs : Query :=
  ⟨[(kind "lexical_declaration" [
      child (kind "variable_declarator" [
        field "name" ((leaf "identifier").as "name"),
        (field "type" ((leaf "type_annotation").as "dataType")).opt,
        (field "value" (anyNamed.as "value")).opt])]).as "variable",
    (kind "variable_declaration" [
      child (kind "variable_declarator" [
        field "name" ((leaf "identifier").as "name"),
        (field "type" ((leaf "type_annotation").as "dataType")).opt,
        (field "value" (anyNamed.as "value")).opt])]).as "variable"]⟩

def parameters : Query :=
  ⟨[kind "formal_parameters" [
      child (kind "required_parameter" [
        field "pattern" ((leaf "identifier").as "param_name"),
        (field "type" ((leaf "type_annotation").as "param_type")).opt])],
    kind "formal_parameters" [
      child (kind "optional_parameter" [
        field "pattern" ((leaf "identifier").as "param_name"),
        (field "type" ((leaf "type_annotation").as "param_type")).opt])],
    kind "formal_parameters" [
      child (kind "required_parameter" [
        field "pattern" (kind "rest_pattern" [
          child ((leaf "identifier").as "param_name")]),
        (field "type" ((leaf "type_annotation").as "param_type")).opt])],
    kind "formal_parameters" [
      child (kind "required_parameter" [
        field "pattern" ((either [leaf "object_pattern", leaf "array_pattern"]).as "param_name"),
        (field "type" ((leaf "type_annotation").as "param_type")).opt])],
    kind "formal_parameters" [
      child (kind "optional_parameter" [
        field "pattern" ((either [leaf "object_pattern", leaf "array_pattern"]).as "param_name"),
        (field "type" ((leaf "type_annotation").as "param_type")).opt])]]⟩

def calls : Query :=
  ⟨[kind "call_expression" [
      field "function" ((leaf "identifier").as "callee")],
    kind "call_expression" [
      field "function" (kind "member_expression" [
        field "property" ((leaf "property_identifier").as "callee")])],
    kind "new_expression" [
      field "constructor" ((leaf "identifier").as "callee")]]⟩

/-- The kinds in the order in which their queries run. -/
def definitions : List (Kind × Query) :=
  [(.namespaceDef, namespaces),
    (.classDef, classes),
    (.interface, interfaces),
    (.enum, enums),
    (.enumMember, enumMembers),
    (.function, functions),
    (.function, functionValues),
    (.method, methods),
    (.property, properties),
    (.variableDef, variableDefs)]

end SourceOutline.Language.TypeScript

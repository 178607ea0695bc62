import SourceOutline.Language

/-! Queries for Rust. -/
namespace SourceOutline.Language.Rust

open Pattern ChildPattern

def namespaces : Query :=
  ⟨[(kind "mod_item" [
      (child ((leaf "visibility_modifier").as "modifier")).opt,
      field "name" ((leaf "identifier").as "name")]).as "namespace"]⟩

def classes : Query :=
  ⟨[(kind "struct_item" [
      (child ((leaf "visibility_modifier").as "modifier")).opt,
      field "name" ((leaf "type_identifier").as "name")]).as "class",
    (kind "impl_item" [
      field "type" (anyNamed.as "name")]).as "class"]⟩

def interfaces : Query :=
  ⟨[(kind "trait_item" [
      (child ((leaf "visibility_modifier").as "modifier")).opt,
      field "name" ((leaf "type_identifier").as "name")]).as "interface"]⟩

def enums : Query :=
  ⟨[(kind "enum_item" [
      (child ((leaf "visibility_modifier").as "modifier")).opt,
      field "name" ((leaf "type_identifier").as "name")]).as "enum"]⟩

def enumMembers : Query :=
  ⟨[(kind "enum_variant" [
      field "name" ((leaf "identifier").as "name"),
      (field "value" (anyNamed.as "value")).opt]).as "enumMember"]⟩

def functions : Query :=
  ⟨[kind "source_file" [
      child ((kind "function_item" [
        (child ((leaf "visibility_modifier").as "modifier")).opt,
        (child ((leaf "function_modifiers").as "modifier")).opt,
        field "name" ((leaf "identifier").as "name"),
        field "parameters" ((leaf "parameters").as "parameters"),
        (field "return_type" (anyNamed.as "returnType")).opt]).as "function")],
    kind "mod_item" [
      field "body" (kind "declaration_list" [
        child ((kind "function_item" [
          (child ((leaf "visibility_modifier").as "modifier")).opt,
          (child ((leaf "function_modifiers").as "modifier")).opt,
          field "name" ((leaf "identifier").as "name"),
          field "parameters" ((leaf "parameters").as "parameters"),
          (field "return_type" (anyNamed.as "returnType")).opt]).as "function")])]]⟩

def methods : Query :=
  ⟨[kind "impl_item" [
      field "body" (kind "declaration_list" [
        child ((kind "function_item" [
          (child ((leaf "visibility_modifier").as "modifier")).opt,
          (child ((leaf "function_modifiers").as "modifier")).opt,
          field "name" ((leaf "identifier").as "name"),
          field "parameters" ((leaf "parameters").as "parameters"),
          (field "return_type" (anyNamed.as "returnType")).opt]).as "method")])],
    kind "trait_item" [
      field "body" (kind "declaration_list" [
        child ((kind "function_item" [
          (child ((leaf "visibility_modifier").as "modifier")).opt,
          (child ((leaf "function_modifiers").as "modifier")).opt,
          field "name" ((leaf "identifier").as "name"),
          field "parameters" ((leaf "parameters").as "parameters"),
          (field "return_type" (anyNamed.as "returnType")).opt]).as "method")])],
    kind "trait_item" [
      field "body" (kind "declaration_list" [
        child ((kind "function_signature_item" [
          (child ((leaf "visibility_modifier").as "modifier")).opt,
          field "name" ((leaf "identifier").as "name"),
          field "parameters" ((leaf "parameters").as "parameters"),
          (field "return_type" (anyNamed.as "returnType")).opt]).as "method")])]]⟩

def properties : Query :=
  ⟨[(kind "field_declaration" [
      (child ((leaf "visibility_modifier").as "modifier")).opt,
      field "name" ((leaf "field_identifier").as "name"),
      field "type" (anyNamed.as "dataType")]).as "property"]⟩

def variableDefs : Query :=
  ⟨[(kind "const_item" [
      (child ((leaf "visibility_modifier").as "modifier")).opt,
      field "name" ((leaf "identifier").as "name"),
      field "type" (anyNamed.as "dataType"),
      (field "value" (anyNamed.as "value")).opt]).as "variable",
    (kind "static_item" [
      (child ((leaf "visibility_modifier").as "modifier")).opt,
      field "name" ((leaf "identifier").as "name"),
      field "type" (anyNamed.as "dataType"),
      (field "value" (anyNamed.as "value")).opt]).as "variable",
    (kind "let_declaration" [
      field "pattern" ((leaf "identifier").as "name"),
      (field "type" (anyNamed.as "dataType")).opt,
      (field "value" (anyNamed.as "value")).opt]).as "variable"]⟩

def parameters : Query :=
  ⟨[kind "parameters" [
      child ((leaf "self_parameter").as "param_name")],
    kind "parameters" [
      child (kind "parameter" [
        field "pattern" (anyNode.as "param_name"),
        field "type" (anyNamed.as "param_type")])]]⟩

def calls : Query :=
  ⟨[kind "call_expression" [
      field "function" ((leaf "identifier").as "callee")],
    kind "call_expression" [
      field "function" (kind "field_expression" [
        field "field" ((leaf "field_identifier").as "callee")])],
    kind "call_expression" [
      field "function" (kind "scoped_identifier" [
        field "name" ((leaf "identifier").as "callee")])]]⟩

/-- The kinds in the order in which their queries run. -/
def definitions : List (Kind × Query) :=
  [(.namespaceDef, namespaces),
    (.classDef, classes),
    (.interface, interfaces),
    (.enum, enums),
    (.enumMember, enumMembers),
    (.function, functions),
    (.method, methods),
    (.property, properties),
    (.variableDef, variableDefs)]

end SourceOutline.Language.Rust

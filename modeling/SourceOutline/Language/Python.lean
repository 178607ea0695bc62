import SourceOutline.Language

/-! Queries for Python. -/
namespace SourceOutline.Language.Python

open Pattern ChildPattern

def classes : Query :=
  ⟨[(kind "class_definition" [
      field "name" ((leaf "identifier").as "name")]).as "class"]⟩

def functions : Query :=
  ⟨[kind "module" [
      child ((kind "function_definition" [
        field "name" ((leaf "identifier").as "name"),
        field "parameters" ((leaf "parameters").as "parameters"),
        (field "return_type" (anyNamed.as "returnType")).opt]).as "function")],
    kind "module" [
      child ((kind "decorated_definition" [
        field "definition" (kind "function_definition" [
          field "name" ((leaf "identifier").as "name"),
          field "parameters" ((leaf "parameters").as "parameters"),
          (field "return_type" (anyNamed.as "returnType")).opt])]).as "function")],
    kind "function_definition" [
      field "body" (kind "block" [
        child ((kind "function_definition" [
          field "name" ((leaf "identifier").as "name"),
          field "parameters" ((leaf "parameters").as "parameters"),
          (field "return_type" (anyNamed.as "returnType")).opt]).as "function")])]]⟩

def methods : Query :=
  ⟨[kind "class_definition" [
      field "body" (kind "block" [
        child ((kind "function_definition" [
          field "name" ((leaf "identifier").as "name"),
          field "parameters" ((leaf "parameters").as "parameters"),
          (field "return_type" (anyNamed.as "returnType")).opt]).as "method")])],
    kind "class_definition" [
      field "body" (kind "block" [
        child ((kind "decorated_definition" [
          field "definition" (kind "function_definition" [
            field "name" ((leaf "identifier").as "name"),
            field "parameters" ((leaf "parameters").as "parameters"),
            (field "return_type" (anyNamed.as "returnType")).opt])]).as "method")])]]⟩

def properties : Query :=
  ⟨[kind "class_definition" [
      field "body" (kind "block" [
        child ((kind "expression_statement" [
          child (kind "assignment" [
            field "left" ((leaf "identifier").as "name"),
            (field "type" (anyNamed.as "dataType")).opt,
            (field "right" (anyNamed.as "value")).opt])]).as "property")])]]⟩

def variableDefs : Query :=
  ⟨[kind "module" [
      child ((kind "expression_statement" [
        child (kind "assignment" [
          field "left" ((leaf "identifier").as "name"),
          (field "type" (anyNamed.as "dataType")).opt,
          (field "right" (anyNamed.as "value")).opt])]).as "variable")]]⟩

def parameters : Query :=
  ⟨[kind "parameters" [
      child ((leaf "identifier").as "param_name")],
    kind "parameters" [
      child (kind "typed_parameter" [
        child ((leaf "identifier").as "param_name"),
        field "type" ((leaf "type").as "param_type")])],
    kind "parameters" [
      child (kind "default_parameter" [
        field "name" ((leaf "identifier").as "param_name")])],
    kind "parameters" [
      child (kind "typed_default_parameter" [
        field "name" ((leaf "identifier").as "param_name"),
        field "type" ((leaf "type").as "param_type")])],
    kind "parameters" [
      child (kind "list_splat_pattern" [
        child ((leaf "identifier").as "param_name")])],
    kind "parameters" [
      child (kind "dictionary_splat_pattern" [
        child ((leaf "identifier").as "param_name")])]]⟩

def calls : Query :=
  ⟨[kind "call" [
      field "function" ((leaf "identifier").as "callee")],
    kind "call" [
      field "function" (kind "attribute" [
        field "attribute" ((leaf "identifier").as "callee")])]]⟩

/-- The kinds in the order in which their queries run. -/
def definitions : List (Kind × Query) :=
  [(.classDef, classes),
    (.function, functions),
    (.method, methods),
    (.property, properties),
    (.variableDef, variableDefs)]

end SourceOutline.Language.Python

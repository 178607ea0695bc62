import SourceOutline.View

/-! Catalogues as Markdown: nested bullets below a heading for each file. -/
namespace SourceOutline

namespace Render

def valueLimit : Nat := 50

/-- The text on one line, cut after the limit. -/
def truncate (value : String) : String :=
  let flat := Text.flatten value
  if flat.length > valueLimit then String.ofList (flat.toList.take valueLimit) ++ "..." else flat

def parameterText (p : Parameter) : String :=
  match p.type with
  | some t => p.name ++ ": " ++ t
  | none => p.name

def indentation (depth : Nat) : String := Text.replicate depth "  "

def code (text : String) : String := "`" ++ text ++ "`"

def spanText : Option LineSpan → String
  | some l => " (lines " ++ toString l.first ++ "-" ++ toString l.last ++ ")"
  | none => ""

def modifierText : Option String → String
  | some m => " [" ++ m ++ "]"
  | none => ""

def bullet (depth : Nat) (v : View) : String :=
  indentation depth ++ "- **" ++ v.kind.name ++ "**: " ++ code v.name ++ spanText v.lines ++
    modifierText v.modifier

def detailTexts (v : View) : List String :=
  (v.dataType.map fun t => "Type: " ++ code t).toList ++
    (v.value.map fun t => "Value: " ++ code (truncate t)).toList ++
    (v.returnType.map fun t => "Returns: " ++ code t).toList ++
    (if v.parameters.isEmpty then []
      else ["Parameters: " ++ code (", ".intercalate (v.parameters.map parameterText))]) ++
    (if v.calls.isEmpty then [] else ["Calls: " ++ ", ".intercalate v.calls]) ++
    (v.complexity.map fun n => "Complexity: " ++ toString n).toList

def details (depth : Nat) (v : View) : List String :=
  (detailTexts v).map fun t => indentation (depth + 1) ++ "- " ++ t

mutual

def viewLines (depth : Nat) : View → List String
  | ⟨kind, name, lines, modifier, dataType, value, returnType, parameters, calls, complexity,
      children⟩ =>
    let v : View := ⟨kind, name, lines, modifier, dataType, value, returnType, parameters, calls,
      complexity, []⟩
    bullet depth v :: details depth v ++ viewsLines (depth + 1) children

def viewsLines (depth : Nat) : List View → List String
  | [] => []
  | v :: vs => viewLines depth v ++ viewsLines depth vs

end

def fileLines (detail : Detail) (file : String × List Definition) : List String :=
  let views := View.forest detail file.2
  ("## File: " ++ file.1) :: "" ::
    (if views.isEmpty then ["_No definitions found._"] else viewsLines 0 views)

/-- Every line ends with a line feed; an empty line stands between files. -/
def markdown (catalog : Catalog) (detail : Detail) : String :=
  let texts := catalog.map fun file =>
    String.join ((fileLines detail file).map (· ++ "\n"))
  "\n".intercalate texts

end Render

end SourceOutline

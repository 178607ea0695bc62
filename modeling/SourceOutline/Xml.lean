import SourceOutline.Text

/-! Elements with attributes, each on lines of its own. -/
namespace SourceOutline

structure Xml where
  tag : String
  attributes : List (String × String)
  children : List Xml
deriving Repr, Inhabited

namespace Xml

/-- A character as it stands between the quotes of an attribute. -/
def escapeChar (c : Char) : List Char :=
  if c = '&' then "&amp;".toList
  else if c = '<' then "&lt;".toList
  else if c = '>' then "&gt;".toList
  else if c = '"' then "&quot;".toList
  else if c = '\'' then "&apos;".toList
  else if c = '\n' then "&#10;".toList
  else if c = '\r' then "&#13;".toList
  else if c = '\t' then "&#9;".toList
  else [c]

def escape (s : String) : String := String.ofList (s.toList.flatMap escapeChar)

def attributeText (a : String × String) : String := " " ++ a.1 ++ "=\"" ++ escape a.2 ++ "\""

def openTag (indent tag : String) (attributes : List (String × String)) : String :=
  indent ++ "<" ++ tag ++ String.join (attributes.map attributeText)

mutual

/-- An element without children closes itself; others have one line for each of their tags. -/
def printAt (depth : Nat) : Xml → String
  | ⟨tag, attributes, children⟩ =>
    let indent := Text.replicate depth "  "
    if children.isEmpty then openTag indent tag attributes ++ "/>\n"
    else
      openTag indent tag attributes ++ ">\n" ++ printAll (depth + 1) children ++
        indent ++ "</" ++ tag ++ ">\n"

def printAll (depth : Nat) : List Xml → String
  | [] => ""
  | e :: es => printAt depth e ++ printAll depth es

end

def declaration : String := "<?xml version=\"1.0\" encoding=\"UTF-8\"?>\n"

/-- A document: the declaration and a root that always has both its tags. -/
def document (tag : String) (children : List Xml) : String :=
  declaration ++
    "<" ++ tag ++ ">\n" ++ printAll 1 children ++ "</" ++ tag ++ ">\n"

end Xml

end SourceOutline

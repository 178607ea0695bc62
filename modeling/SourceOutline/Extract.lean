import SourceOutline.Distinct
import SourceOutline.Language
import SourceOutline.Nesting

/-! Definitions from the matches of a language's queries. -/
namespace SourceOutline

/-- A definition with the place that it stands for and its parameter block. -/
structure Extracted where
  definition : Definition
  anchor : Place
  block : Option Place

/-- The text of a type without the mark that some grammars keep inside the type node. -/
def normalizeType (text : String) : String :=
  let cs := Text.trimChars text.toList
  let bare := (Text.afterHead? ['-', '>'] cs <|> Text.afterHead? [':'] cs).getD cs
  String.ofList (Text.trimChars bare)

namespace Extracted

def ofPlaces (src : Source) (kind : Kind) (m : Match) (anchor name : Place) : Extracted :=
  let modifiers := (m.allNamed "modifier").flatMap fun p => Text.words (src.text p)
  let typeText (capture : String) : Option String :=
    (m.last? capture).bind fun p => Text.nonempty? (normalizeType (src.text p))
  { definition := { Definition.ofSpan 0 kind (Text.trim (src.text name)) (src.span anchor) with
      modifier := if modifiers.isEmpty then none else some (" ".intercalate modifiers)
      dataType := typeText "dataType"
      value := (m.last? "value").bind fun p => Text.nonempty? (Text.trim (src.text p))
      returnType := typeText "returnType" }
    anchor := anchor
    block := if kind.callable then m.last? "parameters" else none }

/-- A match without an anchor or without a name that is more than blanks describes nothing. -/
def ofMatch? (src : Source) (kind : Kind) (m : Match) : Option Extracted := do
  let anchor ← m.last? kind.name
  let name ← m.last? "name"
  if (Text.trim (src.text name)).isEmpty then none else some (ofPlaces src kind m anchor name)

def ofQuery (src : Source) (root : Place) (kind : Kind) (q : Query) : List Extracted :=
  if q.captures kind.name && q.captures "name" then (q.run root).filterMap (ofMatch? src kind)
  else []

/-- Two finds with the same key are the same definition. -/
def key (e : Extracted) : Kind × ByteRange × String :=
  (e.definition.kind, e.anchor.node.range, e.definition.name)

def nameAndSpan (e : Extracted) : String × LineSpan := (e.definition.name, e.definition.span)

def order (e : Extracted) : NestingKey := e.definition.keyWith e.anchor.node.range.start

def all (language : Language) (src : Source) (root : Place) : List Extracted :=
  language.definitions.flatMap fun (kind, q) => ofQuery src root kind q

/-- Drops what is no callable but has the name and the lines of one. -/
def reconcile (es : List Extracted) : List Extracted :=
  let callables := (es.filter (·.definition.kind.callable)).map nameAndSpan
  es.filter fun e => e.definition.kind.callable || !callables.contains e.nameAndSpan

def numberFrom (id : Nat) : List Extracted → List Extracted
  | [] => []
  | e :: es => { e with definition := { e.definition with id } } :: numberFrom (id + 1) es

def chosen (language : Language) (src : Source) (root : Place) : List Extracted :=
  reconcile (firstPerKey key (all language src root))

/-- The definitions of a tree, outer ones first, numbered from one. -/
def definitions (language : Language) (src : Source) (root : Place) : List Extracted :=
  numberFrom 1 ((chosen language src root).mergeSort fun a b => a.order.le b.order)

end Extracted

end SourceOutline

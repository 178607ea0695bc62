import SourceOutline.Proofs.JsonCatalog
import SourceOutline.Proofs.XmlText
import SourceOutline.Render.Xml

/-! Catalogues come back from their XML. A view is read by the attributes of its element; its parameters
and calls are in elements of their own, before those of its children. -/
namespace SourceOutline

namespace View

/-- What the first element with this tag holds, nothing if there is none. -/
def itemsOf? {α : Type} (tag : String) (item? : Xml → Option α) (elements : List Xml) :
    Option (List α) :=
  match elements.find? (·.tag == tag) with
  | some e => e.children.mapM item?
  | none => some []

def parameterOf? (e : Xml) : Option Parameter := do
  if e.tag = "Parameter" then return ⟨← e.attributes.lookup "name", e.attributes.lookup "type"⟩
  else none

def callOf? (e : Xml) : Option String :=
  if e.tag = "Call" then e.attributes.lookup "name" else none

def numeral? (s : String) : Option Nat :=
  if s.toList.all Char.isDigit && !s.toList.isEmpty then some (Json.digitsValue s.toList) else none

/-- A number, unless the attribute is absent. -/
def numberOf? (attributes : List (String × String)) (name : String) : Option (Option Nat) :=
  (attributes.lookup name).mapM numeral?

mutual

def ofXml? : Xml → Option View
  | ⟨tag, attributes, children⟩ => do
    if tag = "Definition" then
      return { kind := ← (← attributes.lookup "type") |> Kind.ofName?
               name := ← attributes.lookup "name"
               lines := ← spanOf? (← numberOf? attributes "startLine") (← numberOf? attributes "endLine")
               modifier := attributes.lookup "modifier"
               dataType := attributes.lookup "dataType"
               value := attributes.lookup "value"
               returnType := attributes.lookup "returnType"
               parameters := ← itemsOf? "Parameters" parameterOf? children
               calls := ← itemsOf? "Calls" callOf? children
               complexity := ← numberOf? attributes "complexity"
               children := ← ofXmls? children }
    else none

/-- The views of elements, apart from those that hold parameters or calls. -/
def ofXmls? : List Xml → Option (List View)
  | [] => some []
  | e :: es =>
    if e.tag = "Parameters" ∨ e.tag = "Calls" then ofXmls? es
    else do return (← ofXml? e) :: (← ofXmls? es)

end

end View

namespace Render

def fileOf? (e : Xml) : Option (String × List View) := do
  if e.tag = "File" then return (← e.attributes.lookup "path", ← View.ofXmls? e.children) else none

def readXml? (s : String) : Option (List (String × List View)) := do
  let root ← Xml.read? s
  if root.tag = "CodeStructure" then root.children.mapM fileOf? else none

end Render

namespace View

@[simp] theorem lookup_cons_eq_if (name value : String) (attributes : List (String × String))
    (key : String) :
    ((name, value) :: attributes).lookup key =
      if key = name then some value else attributes.lookup key := by
  by_cases same : key = name
  · simp [same]
  · rw [List.lookup_cons, if_neg same, beq_false_of_ne same]

@[simp] theorem lookup_optionalAttribute (name : String) (value : Option String) (key : String) :
    (optionalAttribute name value).lookup key = if key = name then value else none := by
  cases value <;> simp [optionalAttribute]

@[simp] theorem lookup_linesAttributes (lines : Option LineSpan) (key : String) :
    (linesAttributes lines).lookup key =
      if key = "startLine" then lines.map fun l => toString l.first
      else if key = "endLine" then lines.map fun l => toString l.last else none := by
  cases lines <;> simp [linesAttributes]

theorem parameterOf?_parameterElement (p : Parameter) : parameterOf? (parameterElement p) = some p := by
  obtain ⟨name, type⟩ := p
  cases type <;> rfl

theorem callOf?_callElement (name : String) : callOf? (callElement name) = some name := rfl

theorem find?_toXmls {tag : String} (other : tag ≠ "Definition") (vs : List View) :
    (toXmls vs).find? (·.tag == tag) = none := by
  induction vs with
  | nil => rfl
  | cons v vs ih =>
    cases v
    simp [toXmls, toXml, ih, Ne.symm other]

@[simp] theorem find?_listElement (tag key : String) (items : List Xml) :
    (listElement tag items).find? (·.tag == key) =
      if tag = key ∧ items ≠ [] then some ⟨tag, [], items⟩ else none := by
  cases items <;> by_cases same : tag = key <;> simp [listElement, same]

theorem numeral?_toString (n : Nat) : numeral? (toString n) = some n := by
  have digits : (toString n).toList = Nat.toDigits 10 n := Json.toString_ofNat n
  have decimal : (Nat.toDigits 10 n).all Char.isDigit = true :=
    List.all_eq_true.mpr fun c member => Nat.isDigit_of_mem_toDigits (by omega) (by omega) member
  rw [numeral?, digits, decimal, Json.digitsValue_toDigits]
  simp

theorem numberOf?_toString {attributes : List (String × String)} {name : String} {n : Option Nat}
    (held : attributes.lookup name = n.map fun k => toString k) : numberOf? attributes name = some n := by
  rw [numberOf?, held]
  cases n with
  | none => rfl
  | some n =>
    rw [Option.map_some, Option.mapM_some, numeral?_toString]
    rfl

theorem ofXmls?_listElement {tag : String} (holds : tag = "Parameters" ∨ tag = "Calls")
    (items rest : List Xml) : ofXmls? (listElement tag items ++ rest) = ofXmls? rest := by
  cases items with
  | nil => rfl
  | cons item items => simp [listElement, ofXmls?, holds]

theorem toXml_eq (v : View) :
    v.toXml = ⟨"Definition", v.ownAttributes, v.ownElements ++ toXmls v.children⟩ := by
  cases v
  rw [toXml]

theorem itemsOf?_eq {α : Type} {tag : String} {read : Xml → Option α} {write : α → Xml}
    {items : List α} {elements : List Xml}
    (found : elements.find? (·.tag == tag) =
      if items = [] then none else some ⟨tag, [], items.map write⟩)
    (back : ∀ x, read (write x) = some x) : itemsOf? tag read elements = some items := by
  rw [itemsOf?, found]
  by_cases empty : items = []
  · simp [empty]
  · rw [if_neg empty]
    exact mapM_map_eq_some fun x _ => back x

theorem ofXml?_of_children {v : View} (below : ofXmls? (toXmls v.children) = some v.children) :
    ofXml? v.toXml = some v := by
  have first : numberOf? v.ownAttributes "startLine" = some (v.lines.map (·.first)) :=
    numberOf?_toString (by simp [ownAttributes, List.lookup_append, Function.comp_def])
  have last : numberOf? v.ownAttributes "endLine" = some (v.lines.map (·.last)) :=
    numberOf?_toString (by simp [ownAttributes, List.lookup_append, Function.comp_def])
  have complexity : numberOf? v.ownAttributes "complexity" = some v.complexity :=
    numberOf?_toString (by simp [ownAttributes, List.lookup_append])
  have children : ofXmls? (v.ownElements ++ toXmls v.children) = some v.children := by
    rw [ownElements, List.append_assoc, ofXmls?_listElement (.inl rfl), ofXmls?_listElement (.inr rfl),
      below]
  have parameters : itemsOf? "Parameters" parameterOf? (v.ownElements ++ toXmls v.children) =
      some v.parameters := by
    refine itemsOf?_eq ?_ parameterOf?_parameterElement
    by_cases empty : v.parameters = [] <;>
      simp [ownElements, List.find?_append, find?_toXmls, empty]
  have calls : itemsOf? "Calls" callOf? (v.ownElements ++ toXmls v.children) = some v.calls := by
    refine itemsOf?_eq ?_ callOf?_callElement
    by_cases empty : v.calls = [] <;> simp [ownElements, List.find?_append, find?_toXmls, empty]
  have kind : v.ownAttributes.lookup "type" = some v.kind.name := by simp [ownAttributes]
  have name : v.ownAttributes.lookup "name" = some v.name := by simp [ownAttributes]
  rw [toXml_eq, ofXml?]
  simp only [if_pos, kind, name, first, last, parameters, calls, complexity, children, spanOf?_ends,
    Kind.ofName?_name, Option.bind_eq_bind, Option.bind_some, Option.pure_def]
  cases v
  simp [ownAttributes, List.lookup_append]

mutual

theorem ofXml?_toXml : ∀ v : View, ofXml? v.toXml = some v
  | ⟨_, _, _, _, _, _, _, _, _, _, children⟩ => ofXml?_of_children (ofXmls?_toXmls children)

theorem ofXmls?_toXmls : ∀ vs : List View, ofXmls? (toXmls vs) = some vs
  | [] => rfl
  | v :: vs => by
    have tag : v.toXml.tag = "Definition" := by
      cases v
      rfl
    rw [toXmls, ofXmls?, ofXml?_toXml v, ofXmls?_toXmls vs]
    simp [tag]

end

theorem optionalAttribute_words {name : String} (word : Xml.isWord name) (value : Option String) :
    ∀ a ∈ optionalAttribute name value, Xml.isWord a.1 := by
  cases value with
  | none => simp [optionalAttribute]
  | some v => exact Xml.words_cons word v (by simp)

theorem linesAttributes_words (lines : Option LineSpan) :
    ∀ a ∈ linesAttributes lines, Xml.isWord a.1 := by
  cases lines with
  | none => simp [linesAttributes]
  | some l => exact Xml.words_cons (by decide) _ (Xml.words_cons (by decide) _ (by simp))

theorem named_definition (v : View) : Xml.Named "Definition" v.ownAttributes := by
  refine ⟨by decide, ?_⟩
  have first : ∀ a ∈ [("type", v.kind.name), ("name", v.name)], Xml.isWord a.1 :=
    Xml.words_cons (by decide) _ (Xml.words_cons (by decide) _ (by simp))
  simp only [ownAttributes, List.forall_mem_append]
  refine ⟨⟨⟨⟨⟨⟨first, linesAttributes_words v.lines⟩, ?_⟩, ?_⟩, ?_⟩, ?_⟩, ?_⟩
  all_goals exact optionalAttribute_words (by decide) _

theorem parameterElement_wellNamed (p : Parameter) : (parameterElement p).WellNamed :=
  ⟨⟨by decide, Xml.words_cons (by decide) _ (optionalAttribute_words (by decide) p.type)⟩, trivial⟩

theorem callElement_wellNamed (name : String) : (callElement name).WellNamed :=
  ⟨⟨by decide, Xml.words_cons (by decide) name (by simp)⟩, trivial⟩

theorem listElement_wellNamed {tag : String} {items : List Xml} (word : Xml.isWord tag)
    (inner : ∀ e ∈ items, e.WellNamed) : ∀ e ∈ listElement tag items, e.WellNamed := by
  cases items with
  | nil => simp [listElement]
  | cons item items =>
    simp only [listElement, List.isEmpty_cons, Bool.false_eq_true, if_false, List.mem_singleton,
      forall_eq]
    exact ⟨⟨word, by simp⟩, Xml.allWellNamed_iff.mpr inner⟩

theorem ownElements_wellNamed (v : View) : ∀ e ∈ v.ownElements, e.WellNamed := by
  rw [ownElements, List.forall_mem_append]
  constructor
  · refine listElement_wellNamed (by decide) ?_
    simp [parameterElement_wellNamed]
  · refine listElement_wellNamed (by decide) ?_
    simp [callElement_wellNamed]

mutual

theorem toXml_wellNamed : ∀ v : View, v.toXml.WellNamed
  | ⟨kind, name, lines, modifier, dataType, value, returnType, parameters, calls, complexity,
      children⟩ => by
    have below := toXmls_wellNamed children
    rw [toXml_eq]
    refine ⟨named_definition _, Xml.allWellNamed_iff.mpr ?_⟩
    exact List.forall_mem_append.mpr ⟨ownElements_wellNamed _, Xml.allWellNamed_iff.mp below⟩

theorem toXmls_wellNamed : ∀ vs : List View, Xml.AllWellNamed (toXmls vs)
  | [] => trivial
  | v :: vs => ⟨toXml_wellNamed v, toXmls_wellNamed vs⟩

end

end View

namespace Render

def shown (catalog : Catalog) (detail : Detail) : List (String × List View) :=
  catalog.map fun file => (file.1, View.forest detail file.2)

def shownElement (file : String × List View) : Xml := ⟨"File", [("path", file.1)], View.toXmls file.2⟩

theorem xml_eq (catalog : Catalog) (detail : Detail) :
    xml catalog detail = Xml.document "CodeStructure" ((shown catalog detail).map shownElement) := by
  rw [xml, shown, List.map_map]
  rfl

theorem fileOf?_shownElement (file : String × List View) : fileOf? (shownElement file) = some file := by
  simp [fileOf?, shownElement, View.ofXmls?_toXmls]

theorem readXml?_xml (catalog : Catalog) (detail : Detail) :
    readXml? (xml catalog detail) = some (shown catalog detail) := by
  have named : Xml.AllWellNamed ((shown catalog detail).map shownElement) := by
    rw [Xml.allWellNamed_iff, List.forall_mem_map]
    intro file _
    exact ⟨⟨by decide, Xml.words_cons (by decide) _ (by simp)⟩, View.toXmls_wellNamed file.2⟩
  rw [readXml?, xml_eq, Xml.read?_document (by decide) named]
  exact mapM_map_eq_some fun file _ => fileOf?_shownElement file

/-- The XML of a catalogue gives back the paths in order, each with what is shown of its file: two
catalogues have the same XML exactly when they show the same. -/
theorem xml_recovers_forests (catalog : Catalog) (detail : Detail) :
    readXml? (xml catalog detail) = some (shown catalog detail) ∧
      ∀ (other : Catalog) (level : Detail),
        xml catalog detail = xml other level ↔ shown catalog detail = shown other level := by
  refine ⟨readXml?_xml catalog detail, fun other level => ⟨fun same => ?_, fun same => ?_⟩⟩
  · have texts := congrArg readXml? same
    rw [readXml?_xml, readXml?_xml] at texts
    exact Option.some.inj texts
  · rw [xml_eq, xml_eq, same]

end Render

end SourceOutline

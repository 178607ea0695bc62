import SourceOutline.Language.Builtin
import SourceOutline.Proofs.Forest
import SourceOutline.Proofs.XmlCatalog

/-! Well-formed documents. The grammar here is a part of that of XML 1.0: the declaration and one element,
with names of letters, values between double quotes, and nothing but blanks around the tags. Which
characters may occur is a parameter of it. The tags of a rendered catalogue match and its values are
escaped whatever the texts are, but a character that no document may hold is written as it stands. -/
namespace SourceOutline.Xml

/-- The characters that a document may hold, as they stand or by a reference. -/
def isChar (c : Char) : Bool :=
  c == '\t' || c == '\n' || c == '\r' ||
    (decide (0x20 ≤ c.toNat) && c.toNat != 0xFFFE && c.toNat != 0xFFFF)

def isSpace (c : Char) : Bool := c == ' ' || c == '\t' || c == '\n' || c == '\r'

/-- The entities that need no declaration. -/
def predefined : List (List Char × Char) :=
  [("lt".toList, '<'), ("gt".toList, '>'), ("amp".toList, '&'), ("quot".toList, '"'),
   ("apos".toList, '\'')]

/-- What stands between the ampersand and the semicolon of a reference to a character. -/
inductive Reference : Char → List Char → Prop where
  | entity {c : Char} {name : List Char} (known : (name, c) ∈ predefined) : Reference c name
  | number {c : Char} {digits : List Char} (filled : digits ≠ []) (decimal : digits.all Char.isDigit = true)
      (code : Json.digitsValue digits = c.toNat) : Reference c ('#' :: digits)

/-- The characters that do not stand for themselves between double quotes. A line break or a tab that
stands there is read as a space. -/
def marked : List Char := ['<', '&', '"', '\t', '\n', '\r']

/-- The text between the double quotes of an attribute with this value. -/
inductive Value (legal : Char → Bool) : List Char → List Char → Prop where
  | empty : Value legal [] []
  | plain {c : Char} {value text : List Char} (allowed : legal c = true) (free : c ∉ marked)
      (rest : Value legal value text) : Value legal (c :: value) (c :: text)
  | reference {c : Char} {name value text : List Char} (allowed : legal c = true) (named : Reference c name)
      (rest : Value legal value text) : Value legal (c :: value) ('&' :: (name ++ ';' :: text))

/-- Attributes one after the other, each with blanks before it. -/
inductive Attributes (legal : Char → Bool) : List (String × String) → List Char → Prop where
  | none : Attributes legal [] []
  | more (gap : List Char) {name value : String} {text rest : List Char}
      {attributes : List (String × String)} (blank : gap.all isSpace = true) (apart : gap ≠ []) (word : isWord name = true)
      (written : Value legal value.toList text) (others : Attributes legal attributes rest) :
      Attributes legal ((name, value) :: attributes)
        (gap ++ (name.toList ++ '=' :: '"' :: (text ++ '"' :: rest)))

/-- The inside of an opening tag: a name, and attributes of which no two have the same name. -/
structure Start (legal : Char → Bool) (tag : String) (attributes : List (String × String))
    (text : List Char) : Prop where
  word : isWord tag = true
  distinct : (attributes.map (·.1)).Nodup
  written : ∃ rest, text = tag.toList ++ rest ∧ Attributes legal attributes rest

/-- Elements with blanks around them. Each closes itself or is closed by a tag of its own name. -/
inductive Content (legal : Char → Bool) : List Xml → List Char → Prop where
  | none (gap : List Char) (blank : gap.all isSpace = true) : Content legal [] gap
  | single (gap : List Char) {tag : String} {attributes : List (String × String)} {es : List Xml}
      {start rest : List Char} (blank : gap.all isSpace = true) (opened : Start legal tag attributes start)
      (others : Content legal es rest) :
      Content legal (⟨tag, attributes, []⟩ :: es) (gap ++ '<' :: (start ++ '/' :: '>' :: rest))
  | pair (gap : List Char) {tag : String} {attributes : List (String × String)} {children es : List Xml}
      {start inside rest : List Char} (blank : gap.all isSpace = true)
      (opened : Start legal tag attributes start) (below : Content legal children inside)
      (others : Content legal es rest) :
      Content legal (⟨tag, attributes, children⟩ :: es)
        (gap ++ '<' :: (start ++ '>' :: (inside ++ '<' :: '/' :: (tag.toList ++ '>' :: rest))))

def Document (legal : Char → Bool) (root : Xml) (s : String) : Prop :=
  ∃ body, s.toList = declaration.toList ++ body ∧ Content legal [root] body

/-- A well-formed document of XML 1.0. -/
def WellFormed (s : String) : Prop := ∃ root, Document isChar root s

theorem isChar_of_isSpace {c : Char} (space : isSpace c = true) : isChar c = true := by
  simp only [isSpace, Bool.or_eq_true, beq_iff_eq] at space
  rcases space with ((rfl | rfl) | rfl) | rfl <;> decide

theorem isChar_of_isAlphanum {c : Char} (letter : c.isAlphanum = true) : isChar c = true := by
  change (decide (c.val ≥ 65 ∧ c.val ≤ 90) || (c.val ≥ 97 && c.val ≤ 122) ||
    (c.val ≥ 48 && c.val ≤ 57)) = true at letter
  simp only [Bool.or_eq_true, Bool.and_eq_true, decide_eq_true_eq, ge_iff_le, UInt32.le_iff_toNat_le]
    at letter
  change ((65 ≤ c.toNat ∧ c.toNat ≤ 90) ∨ (97 ≤ c.toNat ∧ c.toNat ≤ 122)) ∨
    (48 ≤ c.toNat ∧ c.toNat ≤ 57) at letter
  have printable : 0x20 ≤ c.toNat ∧ c.toNat ≠ 0xFFFE ∧ c.toNat ≠ 0xFFFF := by omega
  simp [isChar, printable]

theorem isChar_of_isWord {s : String} (word : isWord s = true) : ∀ c ∈ s.toList, isChar c = true := by
  intro c member
  simp only [isWord, Bool.and_eq_true, List.all_eq_true] at word
  exact isChar_of_isAlphanum (by simp [Char.isAlphanum, word.1 c member])

theorem isChar_of_gap {gap : List Char} (blank : gap.all isSpace = true) :
    ∀ c ∈ gap, isChar c = true :=
  fun c member => isChar_of_isSpace (List.all_eq_true.mp blank c member)

theorem Reference.isChar {c : Char} {name : List Char} (named : Reference c name) :
    ∀ d ∈ name, isChar d = true := by
  cases named with
  | entity known =>
    have names : ∀ e ∈ predefined, e.1.all Xml.isChar = true := by decide
    exact List.all_eq_true.mp (names _ known)
  | number _ decimal _ =>
    rw [List.forall_mem_cons]
    refine ⟨by decide, fun d member => isChar_of_isAlphanum ?_⟩
    simp [Char.isAlphanum, List.all_eq_true.mp decimal d member]

theorem Value.isChar {value text : List Char} (written : Value isChar value text) :
    ∀ c ∈ text, isChar c = true := by
  induction written with
  | empty => simp
  | plain allowed _ _ ih => exact List.forall_mem_cons.mpr ⟨allowed, ih⟩
  | reference _ named _ ih =>
    simp only [List.forall_mem_cons, List.forall_mem_append]
    exact ⟨by decide, named.isChar, by decide, ih⟩

theorem Attributes.isChar {attributes : List (String × String)} {text : List Char}
    (written : Attributes isChar attributes text) : ∀ c ∈ text, isChar c = true := by
  induction written with
  | none => simp
  | more _ blank _ word value _ ih =>
    simp only [List.forall_mem_cons, List.forall_mem_append]
    exact ⟨isChar_of_gap blank, isChar_of_isWord word, by decide, by decide, value.isChar, by decide, ih⟩

theorem Start.isChar {tag : String} {attributes : List (String × String)} {text : List Char}
    (opened : Start isChar tag attributes text) : ∀ c ∈ text, isChar c = true := by
  obtain ⟨rest, rfl, written⟩ := opened.written
  exact List.forall_mem_append.mpr ⟨isChar_of_isWord opened.word, written.isChar⟩

theorem Content.isChar {es : List Xml} {text : List Char} (content : Content isChar es text) :
    ∀ c ∈ text, isChar c = true := by
  induction content with
  | none _ blank => exact isChar_of_gap blank
  | single _ blank opened _ ih =>
    simp only [List.forall_mem_cons, List.forall_mem_append]
    exact ⟨isChar_of_gap blank, by decide, opened.isChar, by decide, by decide, ih⟩
  | pair _ blank opened _ _ inside ih =>
    simp only [List.forall_mem_cons, List.forall_mem_append]
    exact ⟨isChar_of_gap blank, by decide, opened.isChar, by decide, inside, by decide, by decide,
      isChar_of_isWord opened.word, by decide, ih⟩

theorem WellFormed.isChar {s : String} (wellFormed : WellFormed s) : ∀ c ∈ s.toList, isChar c = true := by
  obtain ⟨root, body, text, content⟩ := wellFormed
  have first : declaration.toList.all Xml.isChar = true := by decide
  rw [text]
  exact List.forall_mem_append.mpr ⟨List.all_eq_true.mp first, content.isChar⟩

theorem escapeChar_cases (c : Char) :
    (∃ name, Reference c name ∧ escapeChar c = '&' :: (name ++ [';'])) ∨
      (c ∉ marked ∧ escapeChar c = [c]) := by
  unfold escapeChar
  split_ifs
  case neg => exact .inr ⟨by simp [marked, *], rfl⟩
  all_goals
    subst c
    left
  · exact ⟨"amp".toList, .entity (by decide), rfl⟩
  · exact ⟨"lt".toList, .entity (by decide), rfl⟩
  · exact ⟨"gt".toList, .entity (by decide), rfl⟩
  · exact ⟨"quot".toList, .entity (by decide), rfl⟩
  · exact ⟨"apos".toList, .entity (by decide), rfl⟩
  · exact ⟨"#10".toList, .number (by decide) (by decide) (by decide), rfl⟩
  · exact ⟨"#13".toList, .number (by decide) (by decide) (by decide), rfl⟩
  · exact ⟨"#9".toList, .number (by decide) (by decide) (by decide), rfl⟩

theorem escapeChar_of_not_isChar {c : Char} (illegal : isChar c = false) : escapeChar c = [c] := by
  unfold escapeChar
  split_ifs
  case neg => rfl
  all_goals
    subst c
    contradiction

section

variable {legal : Char → Bool}

theorem value_escaped {cs : List Char} (allowed : ∀ c ∈ cs, legal c = true) :
    Value legal cs (cs.flatMap escapeChar) := by
  induction cs with
  | nil => exact .empty
  | cons c cs ih =>
    obtain ⟨first, others⟩ := List.forall_mem_cons.mp allowed
    rw [List.flatMap_cons]
    rcases escapeChar_cases c with ⟨name, named, written⟩ | ⟨free, written⟩
    · simpa [written] using Value.reference first named (ih others)
    · simpa [written] using Value.plain first free (ih others)

theorem attributes_written {attributes : List (String × String)} (words : ∀ a ∈ attributes, isWord a.1)
    (allowed : ∀ a ∈ attributes, ∀ c ∈ a.2.toList, legal c = true) :
    Attributes legal attributes (attributeChars attributes) := by
  induction attributes with
  | nil => exact .none
  | cons a attributes ih =>
    rw [List.forall_mem_cons] at words allowed
    have more := Attributes.more [' '] (by decide) (by decide) words.1 (value_escaped allowed.1)
      (ih words.2 allowed.2)
    simpa [attributeChars_cons] using more

/-- An element as the grammar asks for it, its children apart. -/
structure Sound (legal : Char → Bool) (e : Xml) : Prop where
  named : Named e.tag e.attributes
  distinct : (e.attributes.map (·.1)).Nodup
  allowed : ∀ a ∈ e.attributes, ∀ c ∈ a.2.toList, legal c = true

theorem Sound.start {e : Xml} (sound : Sound legal e) :
    Start legal e.tag e.attributes (startChars e.tag e.attributes) :=
  ⟨sound.named.tag, sound.distinct, _, rfl, attributes_written sound.named.attributes sound.allowed⟩

theorem Content.after_gap {es : List Xml} {text : List Char} (content : Content legal es text)
    (gap : List Char) (blank : gap.all isSpace = true) : Content legal es (gap ++ text) := by
  have both {more : List Char} (blankToo : more.all isSpace = true) : (gap ++ more).all isSpace = true := by
    rw [List.all_append, blank, blankToo, Bool.and_self]
  cases content with
  | none more blankToo => exact .none _ (both blankToo)
  | single more blankToo opened others =>
    rw [← List.append_assoc]
    exact .single _ (both blankToo) opened others
  | pair more blankToo opened below others =>
    rw [← List.append_assoc]
    exact .pair _ (both blankToo) opened below others

theorem indent_space (depth : Nat) : (Text.replicate depth "  ").toList.all isSpace = true := by
  simp [Text.replicate, isSpace]

mutual

def elements : Xml → List Xml
  | ⟨tag, attributes, children⟩ => ⟨tag, attributes, children⟩ :: elementsOfAll children

def elementsOfAll : List Xml → List Xml
  | [] => []
  | e :: es => elements e ++ elementsOfAll es

end

mutual

theorem content_printAt (depth : Nat) {es : List Xml} {rest : List Char} (others : Content legal es rest) :
    ∀ e : Xml, (∀ x ∈ e.elements, Sound legal x) → Content legal (e :: es) ((printAt depth e).toList ++ rest)
  | ⟨tag, attributes, []⟩, sound => by
    have own := (sound _ List.mem_cons_self).start
    have line := Content.single _ (indent_space depth) own (others.after_gap ['\n'] (by decide))
    simpa [printAt, openTag_toList] using line
  | ⟨tag, attributes, child :: children⟩, sound => by
    have own := (sound _ List.mem_cons_self).start
    -- The indentation of the closing tag is the last gap between the tags.
    have below := content_printAll (depth + 1) (.none _ (indent_space depth)) (child :: children)
      fun x inside => sound x (List.mem_cons_of_mem _ inside)
    have lines := Content.pair _ (indent_space depth) own (below.after_gap ['\n'] (by decide))
      (others.after_gap ['\n'] (by decide))
    simpa [printAt, openTag_toList] using lines

theorem content_printAll (depth : Nat) {es : List Xml} {rest : List Char} (others : Content legal es rest) :
    ∀ cs : List Xml, (∀ x ∈ elementsOfAll cs, Sound legal x) →
      Content legal (cs ++ es) ((printAll depth cs).toList ++ rest)
  | [], _ => by simpa [printAll] using others
  | e :: cs, sound => by
    obtain ⟨first, later⟩ := List.forall_mem_append.mp sound
    rw [printAll, String.toList_append, List.append_assoc]
    exact content_printAt depth (content_printAll depth others cs later) e first

end

theorem document_printed {tag : String} (word : isWord tag = true) {children : List Xml}
    (sound : ∀ x ∈ elementsOfAll children, Sound legal x) :
    Document legal ⟨tag, [], children⟩ (document tag children) := by
  have own : Start legal tag [] (startChars tag []) := ⟨word, List.nodup_nil, _, rfl, .none⟩
  have below := content_printAll 1 (.none [] rfl) children sound
  have whole := Content.pair [] rfl own (below.after_gap ['\n'] (by decide)) (.none ['\n'] (by decide))
  refine ⟨_, document_toList tag children, ?_⟩
  simpa using whole

end

theorem mem_openTag {attributes : List (String × String)} {a : String × String} (member : a ∈ attributes)
    {c : Char} (written : c ∈ a.2.toList.flatMap escapeChar) (indent tag : String) :
    c ∈ (openTag indent tag attributes).toList := by
  have own : c ∈ (attributeText a).toList := by
    simp [attributeText, escape, List.mem_flatMap.mp written]
  have among : c ∈ attributeChars attributes := List.mem_flatMap.mpr ⟨a, member, own⟩
  rw [openTag_toList, startChars]
  simp [among]

mutual

theorem mem_printAt (depth : Nat) {c : Char} : ∀ e : Xml, ∀ x ∈ e.elements, ∀ a ∈ x.attributes,
    c ∈ a.2.toList.flatMap escapeChar → c ∈ (printAt depth e).toList
  | ⟨tag, attributes, children⟩, x, inside, a, member, written => by
    rcases List.mem_cons.mp inside with rfl | below
    · have own := mem_openTag member written (Text.replicate depth "  ") tag
      simp only [printAt]
      split <;> simp [own]
    · have inner := mem_printAll (depth + 1) children x below a member written
      cases children with
      | nil => cases below
      | cons child children => simp [printAt, inner]

theorem mem_printAll (depth : Nat) {c : Char} : ∀ es : List Xml, ∀ x ∈ elementsOfAll es,
    ∀ a ∈ x.attributes, c ∈ a.2.toList.flatMap escapeChar → c ∈ (printAll depth es).toList
  | [], _, inside, _, _, _ => by cases inside
  | e :: es, x, inside, a, member, written => by
    rw [printAll, String.toList_append, List.mem_append]
    rcases List.mem_append.mp inside with first | later
    · exact .inl (mem_printAt depth e x first a member written)
    · exact .inr (mem_printAll depth es x later a member written)

end

/-- A document is well-formed exactly when its values have only characters that it may hold. -/
theorem wellFormed_document_iff {tag : String} (word : isWord tag = true) {children : List Xml}
    (named : ∀ x ∈ elementsOfAll children, Named x.tag x.attributes ∧ (x.attributes.map (·.1)).Nodup) :
    WellFormed (document tag children) ↔ ∀ x ∈ elementsOfAll children, ∀ a ∈ x.attributes,
      ∀ c ∈ a.2.toList, isChar c = true := by
  constructor
  · intro wellFormed x inside a member c held
    by_contra illegal
    rw [Bool.not_eq_true] at illegal
    have escaped : c ∈ a.2.toList.flatMap escapeChar :=
      List.mem_flatMap.mpr ⟨c, held, by simp [escapeChar_of_not_isChar illegal]⟩
    have printed : c ∈ (document tag children).toList := by
      rw [document_toList]
      simp [mem_printAll 1 children x inside a member escaped]
    exact Bool.false_ne_true (illegal.symm.trans (wellFormed.isChar c printed))
  · intro allowed
    exact ⟨_, document_printed word fun x inside =>
      ⟨(named x inside).1, (named x inside).2, allowed x inside⟩⟩

end SourceOutline.Xml

namespace SourceOutline

namespace Xml

theorem elementsOfAll_append (es fs : List Xml) :
    elementsOfAll (es ++ fs) = elementsOfAll es ++ elementsOfAll fs := by
  induction es with
  | nil => rfl
  | cons e es ih => rw [List.cons_append, elementsOfAll, elementsOfAll, ih, List.append_assoc]

theorem elementsOfAll_leaves {α : Type} {write : α → Xml} (leaf : ∀ a, (write a).children = [])
    (items : List α) : elementsOfAll (items.map write) = items.map write := by
  induction items with
  | nil => rfl
  | cons a items ih =>
    have own : (write a).elements = [write a] := by
      have empty := leaf a
      generalize write a = e at empty
      cases e
      subst empty
      rfl
    rw [List.map_cons, elementsOfAll, own, ih, List.singleton_append]

end Xml

namespace View

open Xml (elementsOfAll)

def texts (v : View) : List String :=
  v.name :: v.modifier.toList ++ v.dataType.toList ++ v.value.toList ++ v.returnType.toList ++
    v.parameters.flatMap (fun p => p.name :: p.type.toList) ++ v.calls

section

variable {holds : Xml → Prop}

mutual

theorem forall_elements_toXml : ∀ v : View, (∀ x ∈ v.toXml.elements, holds x) ↔
    ∀ u ∈ v.preorder, holds u.toXml ∧ ∀ x ∈ elementsOfAll u.ownElements, holds x
  | ⟨kind, name, lines, modifier, dataType, value, returnType, parameters, calls, complexity,
      children⟩ => by
    rw [preorder, List.forall_mem_cons, ← forall_elements_toXmls children, toXml_eq, Xml.elements,
      List.forall_mem_cons, Xml.elementsOfAll_append, List.forall_mem_append, and_assoc]

theorem forall_elements_toXmls : ∀ vs : List View, (∀ x ∈ elementsOfAll (toXmls vs), holds x) ↔
    ∀ u ∈ preorderAll vs, holds u.toXml ∧ ∀ x ∈ elementsOfAll u.ownElements, holds x
  | [] => by simp [toXmls, elementsOfAll, preorderAll]
  | v :: vs => by
    rw [toXmls, elementsOfAll, List.forall_mem_append, preorderAll, List.forall_mem_append,
      forall_elements_toXml v, forall_elements_toXmls vs]

end

theorem forall_elements_listElement {α : Type} {write : α → Xml} (leaf : ∀ a, (write a).children = [])
    {tag : String} (around : ∀ items, holds ⟨tag, [], items⟩) (items : List α) :
    (∀ x ∈ elementsOfAll (listElement tag (items.map write)), holds x) ↔ ∀ a ∈ items, holds (write a) := by
  cases items with
  | nil => simp [listElement, elementsOfAll]
  | cons a items =>
    have single : listElement tag ((a :: items).map write) = [⟨tag, [], (a :: items).map write⟩] := rfl
    rw [single, elementsOfAll, elementsOfAll, List.append_nil, Xml.elements, List.forall_mem_cons,
      Xml.elementsOfAll_leaves leaf, List.forall_mem_map]
    exact and_iff_right (around _)

theorem forall_elements_ownElements
    (around : ∀ tag, Xml.isWord tag = true → ∀ items, holds ⟨tag, [], items⟩) (v : View) :
    (∀ x ∈ elementsOfAll v.ownElements, holds x) ↔
      (∀ p ∈ v.parameters, holds (parameterElement p)) ∧ ∀ c ∈ v.calls, holds (callElement c) := by
  rw [ownElements, Xml.elementsOfAll_append, List.forall_mem_append,
    forall_elements_listElement (fun _ => rfl) (around "Parameters" (by decide)),
    forall_elements_listElement (fun _ => rfl) (around "Calls" (by decide))]

end

theorem ownAttributes_distinct (v : View) : (v.ownAttributes.map (·.1)).Nodup := by
  have optional (name : String) (value : Option String) :
      ((optionalAttribute name value).map (·.1)).Sublist [name] := by
    cases value <;> simp [optionalAttribute]
  have lines : ((linesAttributes v.lines).map (·.1)).Sublist ["startLine", "endLine"] := by
    cases v.lines <;> simp [linesAttributes]
  have names : (v.ownAttributes.map (·.1)).Sublist (["type", "name"] ++ ["startLine", "endLine"] ++
      ["modifier"] ++ ["dataType"] ++ ["value"] ++ ["returnType"] ++ ["complexity"]) := by
    simp only [ownAttributes, List.map_append]
    exact (((((List.Sublist.refl _).append lines).append (optional ..)).append (optional ..)).append
      (optional ..)).append (optional ..) |>.append (optional ..)
  exact names.nodup (by decide)

theorem elements_named (vs : List View) : ∀ x ∈ elementsOfAll (toXmls vs),
    Xml.Named x.tag x.attributes ∧ (x.attributes.map (·.1)).Nodup := by
  rw [forall_elements_toXmls]
  intro v _
  rw [forall_elements_ownElements fun tag word _ => ⟨⟨word, by simp⟩, List.nodup_nil⟩, toXml_eq]
  refine ⟨⟨named_definition v, ownAttributes_distinct v⟩, fun p _ => ?_, fun c _ => ?_⟩
  · refine ⟨(parameterElement_wellNamed p).1, ?_⟩
    cases type : p.type <;> simp [parameterElement, type]
  · exact ⟨(callElement_wellNamed c).1, List.nodup_singleton _⟩

section

variable {holds : String → Prop}

theorem forall_optionalAttribute (name : String) (value : Option String) :
    (∀ a ∈ optionalAttribute name value, holds a.2) ↔ ∀ t ∈ value.toList, holds t := by
  cases value <;> simp [optionalAttribute]

theorem forall_linesAttributes (numbers : ∀ n : Nat, holds n.repr) (lines : Option LineSpan) :
    ∀ a ∈ linesAttributes lines, holds a.2 := by
  cases lines with
  | none => simp [linesAttributes]
  | some l => simp [linesAttributes, numbers]

/-- What holds of kinds and numbers holds of all that is written into attributes exactly when it holds of
the texts. -/
theorem forall_values_iff (kinds : ∀ k : Kind, holds k.name) (numbers : ∀ n : Nat, holds n.repr)
    (vs : List View) :
    (∀ x ∈ elementsOfAll (toXmls vs), ∀ a ∈ x.attributes, holds a.2) ↔
      ∀ v ∈ preorderAll vs, ∀ t ∈ v.texts, holds t := by
  rw [forall_elements_toXmls]
  refine forall₂_congr fun v _ => ?_
  have complexity : ∀ t ∈ (v.complexity.map fun n => toString n).toList, holds t := by
    cases v.complexity with
    | none => simp
    | some n => simpa using numbers n
  have parameter (p : Parameter) : (∀ a ∈ (parameterElement p).attributes, holds a.2) ↔
      ∀ t ∈ p.name :: p.type.toList, holds t := by
    cases type : p.type <;> simp [parameterElement, type]
  have call (c : String) : (∀ a ∈ (callElement c).attributes, holds a.2) ↔ holds c := by
    simp [callElement]
  rw [forall_elements_ownElements fun _ _ _ => by simp, toXml_eq]
  simp only [ownAttributes, texts, List.cons_append, List.forall_mem_append, List.forall_mem_cons, forall_optionalAttribute,
    List.forall_mem_flatMap, parameter, call]
  have lines := forall_linesAttributes numbers v.lines
  have kind := kinds v.kind
  tauto

end

end View

namespace Render

def texts (catalog : Catalog) (detail : Detail) : List String :=
  (shown catalog detail).flatMap fun file => file.1 :: (View.preorderAll file.2).flatMap View.texts

def catalogElement (catalog : Catalog) (detail : Detail) : Xml :=
  ⟨"CodeStructure", [], (shown catalog detail).map shownElement⟩

theorem forall_elements_files {holds : Xml → Prop} (files : List (String × List View)) :
    (∀ x ∈ Xml.elementsOfAll (files.map shownElement), holds x) ↔ ∀ file ∈ files,
      holds (shownElement file) ∧ ∀ x ∈ Xml.elementsOfAll (View.toXmls file.2), holds x := by
  induction files with
  | nil => simp [Xml.elementsOfAll]
  | cons file files ih =>
    have own : (shownElement file).elements =
        shownElement file :: Xml.elementsOfAll (View.toXmls file.2) := by
      rw [shownElement, Xml.elements]
    rw [List.map_cons, Xml.elementsOfAll, List.forall_mem_append, ih, own, List.forall_mem_cons,
      List.forall_mem_cons]

theorem catalog_named (catalog : Catalog) (detail : Detail) :
    ∀ x ∈ Xml.elementsOfAll ((shown catalog detail).map shownElement),
      Xml.Named x.tag x.attributes ∧ (x.attributes.map (·.1)).Nodup := by
  rw [forall_elements_files]
  intro file _
  have named : Xml.Named "File" [("path", file.1)] := ⟨by decide, Xml.words_cons (by decide) _ (by simp)⟩
  exact ⟨⟨named, List.nodup_singleton _⟩, View.elements_named file.2⟩

theorem forall_catalog_values {holds : String → Prop} (kinds : ∀ k : Kind, holds k.name)
    (numbers : ∀ n : Nat, holds n.repr) (catalog : Catalog) (detail : Detail) :
    (∀ x ∈ Xml.elementsOfAll ((shown catalog detail).map shownElement), ∀ a ∈ x.attributes, holds a.2) ↔
      ∀ t ∈ texts catalog detail, holds t := by
  simp only [forall_elements_files, View.forall_values_iff kinds numbers, texts, List.forall_mem_flatMap,
    List.forall_mem_cons]
  simp [shownElement]

/-- All characters of the text may stand in a document. -/
def Legal (t : String) : Prop := ∀ c ∈ t.toList, Xml.isChar c = true

theorem legal_kind (kind : Kind) : Legal kind.name := by
  rw [Legal, ← List.all_eq_true]
  cases kind <;> decide

theorem legal_repr (n : Nat) : Legal n.repr := by
  intro c member
  rw [Nat.toList_repr] at member
  have digit := Nat.isDigit_of_mem_toDigits (by omega) (by omega) member
  exact Xml.isChar_of_isAlphanum (by simp [Char.isAlphanum, digit])

/-- The XML of every catalogue has tags that match, around elements that are the catalogue's, and values
that are escaped. It is a well-formed document exactly when the paths and texts have only characters that
a document may hold. -/
theorem xml_well_formed_iff (catalog : Catalog) (detail : Detail) :
    Xml.Document (fun _ => true) (catalogElement catalog detail) (xml catalog detail) ∧
    (Xml.WellFormed (xml catalog detail) ↔ ∀ t ∈ texts catalog detail, Legal t) := by
  have named := catalog_named catalog detail
  rw [xml_eq]
  constructor
  · exact Xml.document_printed (by decide) fun x inside =>
      ⟨(named x inside).1, (named x inside).2, fun _ _ _ _ => rfl⟩
  · rw [Xml.wellFormed_document_iff (by decide) named]
    exact forall_catalog_values legal_kind legal_repr catalog detail

/-- A control character in a type of the source stands in the XML, which is no document then. -/
theorem xml_keeps_control :
    let token (kind : String) (start stop : Nat) : Node :=
      ⟨kind, none, ⟨start, stop⟩, false, false, false, false, []⟩
    let part (kind : String) (field : Option String) (start stop : Nat) (children : List Node) : Node :=
      ⟨kind, field, ⟨start, stop⟩, true, false, false, false, children⟩
    let type : Node := part "literal_type" none 14 17 [part "string" none 14 17
      [token "\"" 14 15, part "string_fragment" none 15 16 [], token "\"" 16 17]]
    let function : Node := part "function_declaration" none 0 20
      [token "function" 0 8, part "identifier" (some "name") 9 10 [],
        part "formal_parameters" (some "parameters") 10 12 [token "(" 10 11, token ")" 11 12],
        part "type_annotation" (some "return_type") 12 17 [token ":" 12 13, type],
        part "statement_block" (some "body") 18 20 [token "\x7b" 18 19, token "\x7d" 19 20]]
    let defs := Index.ofSource (some Language.typescript) "a.ts" "function f(): \"\x01\" \x7b\x7d\n"
      (some (part "program" none 0 21 [function]))
    '\x01' ∈ (xml [("a.ts", defs)] .detailed).toList ∧
      ¬ Xml.WellFormed (xml [("a.ts", defs)] .detailed) := by
  intro token part type function defs
  have printed : '\x01' ∈ (xml [("a.ts", defs)] .detailed).toList := by decide +kernel
  have illegal : Xml.isChar '\x01' = false := by decide
  refine ⟨printed, fun wellFormed => ?_⟩
  rw [wellFormed.isChar _ printed] at illegal
  exact Bool.noConfusion illegal

end Render

end SourceOutline

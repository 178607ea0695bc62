import SourceOutline.Proofs.Text
import SourceOutline.Xml

/-! A reader of elements, and that it undoes the writer. A text is cut into tags, and the tags are put
together along the elements that are open. An escaped value has no bracket and no quote, whatever
characters stand in it, so the cuts are where the writer put them. -/
namespace SourceOutline.Xml

/-- What stands between the ampersand and the semicolon of an entity. -/
def entities : List (List Char × Char) :=
  [("amp".toList, '&'), ("lt".toList, '<'), ("gt".toList, '>'), ("quot".toList, '"'),
   ("apos".toList, '\''), ("#10".toList, '\n'), ("#13".toList, '\r'), ("#9".toList, '\t')]

/-- The text that an escaped value stands for, when `name` has been read of an entity. -/
def unescapeFrom? : Option (List Char) → List Char → Option (List Char)
  | none, [] => some []
  | none, c :: cs =>
    if c = '&' then unescapeFrom? (some []) cs else (unescapeFrom? none cs).map (c :: ·)
  | some _, [] => none
  | some name, c :: cs =>
    if c = ';' then (entities.lookup name).bind fun d => (unescapeFrom? none cs).map (d :: ·)
    else unescapeFrom? (some (name ++ [c])) cs

def unescape? (cs : List Char) : Option (List Char) := unescapeFrom? none cs

def attributes? : List (List Char) → Option (List (String × String))
  | [[]] => some []
  | (' ' :: key) :: value :: pieces => do
    let name ← Text.beforeLast? '=' key
    let text ← unescape? value
    return (String.ofList name, String.ofList text) :: (← attributes? pieces)
  | _ => none

inductive Tag where
  | opening (name : String) (attributes : List (String × String))
  | closing (name : String)
  | single (name : String) (attributes : List (String × String))
deriving DecidableEq, Repr

def start? (cs : List Char) : Option (String × List (String × String)) :=
  (attributes? ((cs.dropWhile (· != ' ')).splitOn '"')).map (String.ofList (Text.before ' ' cs), ·)

def tag? (cs : List Char) : Option Tag :=
  match Text.afterHead? ['/'] cs, Text.beforeLast? '/' cs with
  | some name, _ => some (.closing (String.ofList name))
  | none, some inside => (start? inside).map fun s => .single s.1 s.2
  | none, none => (start? cs).map fun s => .opening s.1 s.2

/-- A tag whose opening bracket is gone, with the blanks that follow it. -/
def piece? (cs : List Char) : Option Tag :=
  match cs.splitOn '>' with
  | [inside, gap] => if gap.all Text.isBlank then tag? inside else none
  | _ => none

/-- The tags of a text that has only blanks around them. -/
def lex? (cs : List Char) : Option (List Tag) :=
  match cs.splitOn '<' with
  | gap :: pieces => if gap.all Text.isBlank then pieces.mapM piece? else none
  | [] => none

/-- An element whose closing tag has not come yet, with its earlier siblings, last first. -/
structure Unclosed where
  tag : String
  attributes : List (String × String)
  earlier : List Xml

/-- The elements that tags make up, after the elements `done`, last first, within open ones. -/
def build? : List Unclosed → List Xml → List Tag → Option (List Xml)
  | [], done, [] => some done.reverse
  | _ :: _, _, [] => none
  | around, done, .single name attributes :: ts => build? around (⟨name, attributes, []⟩ :: done) ts
  | around, done, .opening name attributes :: ts => build? (⟨name, attributes, done⟩ :: around) [] ts
  | e :: around, done, .closing name :: ts =>
    if e.tag = name then build? around (⟨e.tag, e.attributes, done.reverse⟩ :: e.earlier) ts else none
  | [], _, .closing _ :: _ => none

def read? (s : String) : Option Xml := do
  let cs ← Text.afterHead? declaration.toList s.toList
  match ← build? [] [] (← lex? cs) with
  | [root] => some root
  | _ => none

theorem unescape?_escapeChar (c : Char) (cs : List Char) :
    unescape? (escapeChar c ++ cs) = (unescape? cs).map (c :: ·) := by
  unfold escapeChar
  split_ifs with amp
  -- Each entity is read up to its semicolon, where the table gives back the character.
  all_goals subst_vars
  all_goals first | rfl | simp [unescape?, unescapeFrom?, amp]

theorem unescape?_escaped (cs : List Char) : unescape? (cs.flatMap escapeChar) = some cs := by
  induction cs with
  | nil => rfl
  | cons c cs ih => rw [List.flatMap_cons, unescape?_escapeChar, ih, Option.map_some]

def brackets : List Char := ['<', '>']

theorem forall_bracket {holds : Char → Prop} (left : holds '<') (right : holds '>') :
    ∀ c ∈ brackets, holds c := by
  simp [brackets, left, right]

theorem not_mem_escaped {cut : Char} (cuts : cut ∈ '"' :: brackets) (cs : List Char) :
    cut ∉ cs.flatMap escapeChar := by
  have single (c : Char) : cut ∉ escapeChar c := by
    simp only [brackets, List.mem_cons, List.not_mem_nil, or_false] at cuts
    unfold escapeChar
    split_ifs
    all_goals grind
  simp [List.mem_flatMap, single]

def isWord (s : String) : Bool := s.toList.all Char.isAlpha && !s.toList.isEmpty

theorem not_mem_word {s : String} (word : isWord s) {c : Char} (other : c.isAlpha = false) :
    c ∉ s.toList := by
  intro member
  simp only [isWord, Bool.and_eq_true, List.all_eq_true] at word
  simp [word.1 c member] at other

theorem bracket_not_mem_word {s : String} (word : isWord s) {c : Char} (bracket : c ∈ brackets) :
    c ∉ s.toList := by
  have symbols : ∀ c ∈ brackets, c.isAlpha = false := forall_bracket (by decide) (by decide)
  exact not_mem_word word (symbols c bracket)

def attributeChars (attributes : List (String × String)) : List Char :=
  attributes.flatMap fun a => (attributeText a).toList

theorem attributeChars_cons (a : String × String) (attributes : List (String × String)) :
    attributeChars (a :: attributes) = (' ' :: (a.1.toList ++ ['='])) ++
      '"' :: (a.2.toList.flatMap escapeChar ++ '"' :: attributeChars attributes) := by
  simp [attributeChars, attributeText, escape]

theorem attributes?_attributeChars {attributes : List (String × String)}
    (words : ∀ a ∈ attributes, isWord a.1) :
    attributes? ((attributeChars attributes).splitOn '"') = some attributes := by
  induction attributes with
  | nil => rfl
  | cons a attributes ih =>
    have named : '"' ∉ ' ' :: (a.1.toList ++ ['=']) := by
      simp [not_mem_word (words a List.mem_cons_self) (c := '"') (by decide)]
    have value : '"' ∉ a.2.toList.flatMap escapeChar := not_mem_escaped (by decide) _
    have rest := ih fun b member => words b (List.mem_cons_of_mem a member)
    rw [attributeChars_cons, List.splitOn_append_cons_self_of_not_mem named,
      List.splitOn_append_cons_self_of_not_mem value, attributes?, rest, unescape?_escaped]
    simp [Text.beforeLast?]

theorem not_mem_attributeChars {attributes : List (String × String)}
    (words : ∀ a ∈ attributes, isWord a.1) {c : Char} (bracket : c ∈ brackets) :
    c ∉ attributeChars attributes := by
  induction attributes with
  | nil => simp [attributeChars]
  | cons a attributes ih =>
    have name := bracket_not_mem_word (words a List.mem_cons_self) bracket
    have value := not_mem_escaped (List.mem_cons_of_mem _ bracket) a.2.toList
    have rest := ih fun b member => words b (List.mem_cons_of_mem a member)
    have others : ∀ c ∈ brackets, c ≠ ' ' ∧ c ≠ '=' ∧ c ≠ '"' :=
      forall_bracket (by decide) (by decide)
    rw [attributeChars_cons]
    simp [name, value, rest, others c bracket]

theorem getLast?_attributeChars (attributes : List (String × String)) :
    (attributeChars attributes).getLast? = if attributes = [] then none else some '"' := by
  rcases List.eq_nil_or_concat attributes with rfl | ⟨before, a, rfl⟩
  · rfl
  · have quoted : (attributeText a).toList =
        (" " ++ a.1 ++ "=\"" ++ escape a.2).toList ++ ['"'] := String.toList_append
    simp [attributeChars, quoted, ← List.append_assoc, -String.toList_append]

def startChars (tag : String) (attributes : List (String × String)) : List Char :=
  tag.toList ++ attributeChars attributes

/-- A name and the names of the attributes that are cut out correctly. -/
structure Named (tag : String) (attributes : List (String × String)) : Prop where
  tag : isWord tag
  attributes : ∀ a ∈ attributes, isWord a.1

theorem words_cons {name : String} (word : isWord name) (value : String)
    {attributes : List (String × String)} (words : ∀ a ∈ attributes, isWord a.1) :
    ∀ a ∈ (name, value) :: attributes, isWord a.1 := List.forall_mem_cons.mpr ⟨word, words⟩

namespace Named

variable {tag : String} {attributes : List (String × String)} (named : Named tag attributes)
include named

theorem start?_eq_some : start? (startChars tag attributes) = some (tag, attributes) := by
  have letters : ∀ c ∈ tag.toList, (c != ' ') = true := by
    intro c member
    rw [bne_iff_ne]
    rintro rfl
    exact not_mem_word named.tag (by decide) member
  have stops : (attributeChars attributes).takeWhile (· != ' ') = [] ∧
      (attributeChars attributes).dropWhile (· != ' ') = attributeChars attributes := by
    cases attributes with
    | nil => simp [attributeChars]
    | cons a attributes => simp [attributeChars_cons]
  rw [start?, Text.before, startChars, List.takeWhile_append_of_pos letters,
    List.dropWhile_append_of_pos letters, stops.1, stops.2,
    attributes?_attributeChars named.attributes]
  simp

theorem afterHead?_eq_none (rest : List Char) :
    Text.afterHead? ['/'] (startChars tag attributes ++ rest) = none := by
  have slash := not_mem_word named.tag (c := '/') (by decide)
  have filled := named.tag
  rw [startChars]
  cases letters : tag.toList with
  | nil => simp [isWord, letters] at filled
  | cons c cs =>
    have other : '/' ≠ c := by
      rintro rfl
      exact slash (letters ▸ List.mem_cons_self)
    simp [Text.afterHead?, other]

theorem beforeLast?_eq_none : Text.beforeLast? '/' (startChars tag attributes) = none := by
  have slash := not_mem_word named.tag (c := '/') (by decide)
  have last : (startChars tag attributes).getLast? ≠ some '/' := by
    rw [startChars, List.getLast?_append, getLast?_attributeChars]
    split_ifs
    · exact fun ends => slash (List.mem_of_getLast? ends)
    · simp
  rw [Text.beforeLast?, if_neg last]

theorem tag?_opening : tag? (startChars tag attributes) = some (.opening tag attributes) := by
  have head := named.afterHead?_eq_none []
  rw [List.append_nil] at head
  simp [tag?, head, named.beforeLast?_eq_none, named.start?_eq_some]

theorem tag?_single : tag? (startChars tag attributes ++ ['/']) = some (.single tag attributes) := by
  have last : Text.beforeLast? '/' (startChars tag attributes ++ ['/']) =
      some (startChars tag attributes) := by simp [Text.beforeLast?]
  simp [tag?, named.afterHead?_eq_none ['/'], last, named.start?_eq_some]

theorem bracket_not_mem {c : Char} (bracket : c ∈ brackets) : c ∉ startChars tag attributes := by
  rw [startChars, List.mem_append, not_or]
  exact ⟨bracket_not_mem_word named.tag bracket, not_mem_attributeChars named.attributes bracket⟩

end Named

theorem tag?_closing (tag : String) : tag? ('/' :: tag.toList) = some (.closing tag) := by
  simp [tag?, Text.afterHead?]

theorem slash_not_bracket : ∀ c ∈ brackets, c ≠ '/' := forall_bracket (by decide) (by decide)

theorem bracket_not_mem_closing {tag : String} (word : isWord tag) :
    ∀ c ∈ brackets, c ∉ '/' :: tag.toList := by
  intro c bracket
  simp [slash_not_bracket c bracket, bracket_not_mem_word word bracket]

theorem not_mem_blank {gap : List Char} (blank : gap.all Text.isBlank = true) {c : Char}
    (visible : Text.isBlank c = false) : c ∉ gap := by
  intro member
  have := List.all_eq_true.mp blank c member
  simp [this] at visible

theorem lex?_gap {gap : List Char} (blank : gap.all Text.isBlank = true) (rest : List Char) :
    lex? (gap ++ rest) = lex? rest := by
  rw [lex?, lex?, Text.splitOn_append (not_mem_blank blank (by decide))]
  cases rest.splitOn '<' with
  | nil => rfl
  | cons after pieces => simp [blank]

/-- A tag on a line of its own is cut off the rest of the text. -/
theorem lex?_line {indent inside rest : List Char} {t : Tag} {ts : List Tag}
    (blank : indent.all Text.isBlank = true) (known : tag? inside = some t)
    (apart : ∀ c ∈ brackets, c ∉ inside) (more : lex? rest = some ts) :
    lex? (indent ++ '<' :: (inside ++ '>' :: '\n' :: rest)) = some (t :: ts) := by
  have opened : '<' ∉ inside ++ ['>', '\n'] := by simp [apart '<' (by decide)]
  have whole : inside ++ '>' :: '\n' :: rest = inside ++ ['>', '\n'] ++ rest := by simp
  rw [lex?_gap blank, lex?, ← List.nil_append ('<' :: _),
    List.splitOn_append_cons_self_of_not_mem List.not_mem_nil, whole, Text.splitOn_append opened]
  rw [lex?] at more
  cases pieces : rest.splitOn '<' with
  | nil => simp [pieces] at more
  | cons after pieces =>
    -- Up to the next bracket the rest is blank, or it would not be cut into tags itself.
    simp only [pieces] at more
    split_ifs at more with blankAfter
    have first : piece? (inside ++ '>' :: '\n' :: after) = some t := by
      have closed : '>' ∉ '\n' :: after := by simp [not_mem_blank blankAfter (c := '>') (by decide)]
      rw [piece?, List.splitOn_append_cons_self_of_not_mem (apart '>' (by decide)),
        List.splitOn_eq_singleton closed]
      simp [blankAfter, known, Text.isBlank]
    simp [first, more]

mutual

def tags : Xml → List Tag
  | ⟨tag, attributes, children⟩ =>
    if children.isEmpty then [.single tag attributes]
    else .opening tag attributes :: (tagsOfAll children ++ [.closing tag])

def tagsOfAll : List Xml → List Tag
  | [] => []
  | e :: es => tags e ++ tagsOfAll es

end

mutual

/-- Names that are cut out correctly, at every depth. -/
def WellNamed : Xml → Prop
  | ⟨tag, attributes, children⟩ => Named tag attributes ∧ AllWellNamed children

def AllWellNamed : List Xml → Prop
  | [] => True
  | e :: es => e.WellNamed ∧ AllWellNamed es

end

theorem allWellNamed_iff {es : List Xml} : AllWellNamed es ↔ ∀ e ∈ es, e.WellNamed := by
  induction es with
  | nil => simp [AllWellNamed]
  | cons e es ih => simp [AllWellNamed, ih]

theorem indent_blank (depth : Nat) : (Text.replicate depth "  ").toList.all Text.isBlank = true := by
  simp [Text.replicate, Text.isBlank]

theorem openTag_toList (indent tag : String) (attributes : List (String × String)) :
    (openTag indent tag attributes).toList = indent.toList ++ '<' :: startChars tag attributes := by
  simp [openTag, startChars, attributeChars, List.flatMap_map]

mutual

theorem lex?_printAt (depth : Nat) {rest : List Char} {ts : List Tag} (more : lex? rest = some ts) :
    ∀ e : Xml, e.WellNamed → lex? ((printAt depth e).toList ++ rest) = some (e.tags ++ ts)
  | ⟨tag, attributes, []⟩, ⟨named, _⟩ => by
    have apart : ∀ c ∈ brackets, c ∉ startChars tag attributes ++ ['/'] := by
      intro c bracket
      simp [named.bracket_not_mem bracket, slash_not_bracket c bracket]
    have line := lex?_line (indent_blank depth) named.tag?_single apart more
    simpa [printAt, tags, openTag_toList] using line
  | ⟨tag, attributes, child :: children⟩, ⟨named, below⟩ => by
    -- From the end: the closing tag before the rest, the children before it, the opening tag first.
    have closing := lex?_line (indent_blank depth) (tag?_closing tag)
      (bracket_not_mem_closing named.tag) more
    have inner := lex?_printAll (depth + 1) closing (child :: children) below
    have line := lex?_line (indent_blank depth) named.tag?_opening (fun _ => named.bracket_not_mem) inner
    simpa [printAt, tags, openTag_toList] using line

theorem lex?_printAll (depth : Nat) {rest : List Char} {ts : List Tag} (more : lex? rest = some ts) :
    ∀ es : List Xml, AllWellNamed es →
      lex? ((printAll depth es).toList ++ rest) = some (tagsOfAll es ++ ts)
  | [], _ => by simpa [printAll, tagsOfAll] using more
  | e :: es, ⟨first, others⟩ => by
    rw [printAll, String.toList_append, List.append_assoc, tagsOfAll, List.append_assoc]
    exact lex?_printAt depth (lex?_printAll depth more es others) e first

end

mutual

theorem build?_tags (around : List Unclosed) (done : List Xml) (ts : List Tag) :
    ∀ e : Xml, build? around done (e.tags ++ ts) = build? around (e :: done) ts
  | ⟨tag, attributes, []⟩ => by simp [tags, build?]
  | ⟨tag, attributes, child :: children⟩ => by
    -- The children are built within the open element, which the closing tag then ends.
    have inner := build?_tagsOfAll (⟨tag, attributes, done⟩ :: around) [] (.closing tag :: ts)
      (child :: children)
    rw [build?, if_pos rfl, List.append_nil, List.reverse_reverse] at inner
    simpa [tags, build?] using inner

theorem build?_tagsOfAll (around : List Unclosed) (done : List Xml) (ts : List Tag) :
    ∀ es : List Xml, build? around done (tagsOfAll es ++ ts) = build? around (es.reverse ++ done) ts
  | [] => rfl
  | e :: es => by
    rw [tagsOfAll, List.append_assoc, build?_tags around done _ e, build?_tagsOfAll around _ ts es]
    simp

end

theorem afterHead?_append (head rest : List Char) : Text.afterHead? head (head ++ rest) = some rest := by
  induction head with
  | nil => rfl
  | cons c head ih => simp [Text.afterHead?, ih]

theorem document_toList (tag : String) (children : List Xml) :
    (document tag children).toList = declaration.toList ++ ('<' :: (startChars tag [] ++ '>' :: '\n' ::
      ((printAll 1 children).toList ++ '<' :: '/' :: (tag.toList ++ ['>', '\n'])))) := by
  have parts : document tag children =
      declaration ++ "<" ++ tag ++ ">\n" ++ printAll 1 children ++ "</" ++ tag ++ ">\n" := rfl
  rw [parts]
  generalize declaration = first
  simp [startChars, attributeChars]

theorem read?_document {tag : String} {children : List Xml} (word : isWord tag)
    (named : AllWellNamed children) : read? (document tag children) = some ⟨tag, [], children⟩ := by
  have root : Named tag [] := ⟨word, by simp⟩
  have unindented : [].all Text.isBlank = true := rfl
  have ended : lex? [] = some [] := by simp [lex?]
  have closing := lex?_line unindented (tag?_closing tag) (bracket_not_mem_closing word) ended
  have inner := lex?_printAll 1 closing children named
  have lexed := lex?_line unindented root.tag?_opening (fun _ => root.bracket_not_mem) inner
  have built := build?_tagsOfAll [⟨tag, [], []⟩] [] [.closing tag] children
  simp only [List.nil_append, List.cons_append] at lexed
  rw [read?, document_toList, afterHead?_append]
  simp [lexed, build?, built]

end SourceOutline.Xml

import SourceOutline.Parameters
import SourceOutline.Proofs.Text

/-! Parameters read from bare text. The text inside the parentheses is cut at commas, blanks around a piece
do not count, and each piece is read on its own. So a list that is written in the usual way, each
parameter as `name`, `name: type` or `type name`, with or without a default value, is read back. -/
namespace SourceOutline

namespace Text

theorem isBlank_space : isBlank ' ' = true := by decide

theorem ne_of_isBlank {c d : Char} (blank : isBlank c = true) (solid : isBlank d = false) : c ≠ d := by
  rintro rfl
  simp [blank] at solid

theorem trimLeft_cons_blank {c : Char} (blank : isBlank c = true) (cs : List Char) :
    trimLeft (c :: cs) = trimLeft cs :=
  List.dropWhile_cons_of_pos blank

theorem trimRight_concat_blank {c : Char} (blank : isBlank c = true) (cs : List Char) :
    trimRight (cs ++ [c]) = trimRight cs :=
  List.rdropWhile_concat_pos _ _ _ blank

theorem trimRight_concat_solid {c : Char} (solid : isBlank c = false) (cs : List Char) :
    trimRight (cs ++ [c]) = cs ++ [c] :=
  List.rdropWhile_concat_neg _ _ _ (by simp [solid])

theorem trimRight_cons_solid {c : Char} (solid : isBlank c = false) (cs : List Char) :
    trimRight (c :: cs) = c :: trimRight cs := by
  induction cs using List.reverseRecOn with
  | nil => exact trimRight_concat_solid solid []
  | append_singleton cs d ih =>
    rw [← List.cons_append]
    cases blank : isBlank d with
    | true => rw [trimRight_concat_blank blank, trimRight_concat_blank blank, ih]
    | false => rw [trimRight_concat_solid blank, trimRight_concat_solid blank, List.cons_append]

theorem trimChars_cons_blank {c : Char} (blank : isBlank c = true) (cs : List Char) :
    trimChars (c :: cs) = trimChars cs := by
  rw [trimChars, trimLeft_cons_blank blank, trimChars]

theorem trimChars_concat_blank {c : Char} (blank : isBlank c = true) (cs : List Char) :
    trimChars (cs ++ [c]) = trimChars cs := by
  rw [trimChars, trimLeft, List.dropWhile_append]
  split
  · rename_i empty
    simp [trimChars, trimLeft, List.isEmpty_iff.mp empty, blank]
  · exact trimRight_concat_blank blank _

/-- A function that does not see blanks at the ends of a text does not see trimming. -/
theorem eq_trimChars {α : Type} {f : List Char → α}
    (front : ∀ c cs, isBlank c = true → f (c :: cs) = f cs)
    (back : ∀ c cs, isBlank c = true → f (cs ++ [c]) = f cs) (cs : List Char) :
    f (trimChars cs) = f cs := by
  have left (cs : List Char) : f (trimLeft cs) = f cs := by
    induction cs with
    | nil => rfl
    | cons c cs ih =>
      cases blank : isBlank c with
      | true => rw [trimLeft_cons_blank blank, ih, front c cs blank]
      | false => rw [trimLeft, List.dropWhile_cons_of_neg (by simp [blank])]
  have right (cs : List Char) : f (trimRight cs) = f cs := by
    induction cs using List.reverseRecOn with
    | nil => rfl
    | append_singleton cs c ih =>
      cases blank : isBlank c with
      | true => rw [trimRight_concat_blank blank, ih, back c cs blank]
      | false => rw [trimRight_concat_solid blank]
  rw [trimChars, right, left]

theorem before_of_not_mem {cut : Char} {cs : List Char} (apart : cut ∉ cs) : before cut cs = cs := by
  rw [before, List.takeWhile_eq_self_iff]
  intro c member
  simpa using fun same : c = cut => apart (same ▸ member)

theorem before_append_cons {cut : Char} {cs : List Char} (apart : cut ∉ cs) (rest : List Char) :
    before cut (cs ++ cut :: rest) = cs := by
  -- Only what stands before the first cut counts.
  rw [before, List.takeWhile_append_of_pos, List.takeWhile_cons_of_neg (by simp), List.append_nil]
  intro c member
  simpa using fun same : c = cut => apart (same ▸ member)

/-- Blanks around a text make no difference to what is before a cut, when that is trimmed. -/
theorem trimChars_before_cons {cut c : Char} (solid : isBlank cut = false) (blank : isBlank c = true)
    (cs : List Char) : trimChars (before cut (c :: cs)) = trimChars (before cut cs) := by
  rw [before, List.takeWhile_cons_of_pos (by simpa using ne_of_isBlank blank solid),
    trimChars_cons_blank blank, before]

theorem trimChars_before_concat {cut c : Char} (solid : isBlank cut = false) (blank : isBlank c = true)
    (cs : List Char) : trimChars (before cut (cs ++ [c])) = trimChars (before cut cs) := by
  by_cases member : cut ∈ cs
  · obtain ⟨first, rest, rfl, apart⟩ := List.eq_append_cons_of_mem member
    rw [List.append_assoc, List.cons_append, before_append_cons apart, before_append_cons apart]
  · have other : cut ≠ c := (ne_of_isBlank blank solid).symm
    rw [before_of_not_mem (by simp [member, other]), before_of_not_mem member,
      trimChars_concat_blank blank]

theorem wordsOf_intercalate {ws : List (List Char)} (filled : ∀ w ∈ ws, w ≠ [])
    (solid : ∀ w ∈ ws, ∀ c ∈ w, isBlank c = false) : wordsOf ([' '].intercalate ws) = ws := by
  have keeps : ws.filter (fun run => !run.isEmpty) = ws := by
    rw [List.filter_eq_self]
    intro w member
    simpa using filled w member
  cases ws with
  | nil => rfl
  | cons w ws =>
    suffices cut : ([' '].intercalate (w :: ws)).splitOnP isBlank = w :: ws by rw [wordsOf, cut, keeps]
    clear filled keeps
    induction ws generalizing w with
    | nil => simpa using List.splitOnP_eq_singleton (solid w List.mem_cons_self)
    | cons v ws ih =>
      rw [List.forall_mem_cons] at solid
      rw [List.intercalate_cons_cons, List.append_assoc, List.singleton_append,
        List.splitOnP_append_cons _ _ isBlank_space, List.splitOnP_eq_singleton solid.1, ih v solid.2]
      rfl

end Text

namespace Parameter

theorem pieces_append_comma (cs rest : List Char) :
    pieces (cs ++ ',' :: rest) = pieces cs ++ pieces rest := by
  rw [pieces, List.splitOn, List.splitOnP_append_cons cs rest (by rfl), List.filterMap_append]
  rfl

theorem pieces_of_not_mem {cs : List Char} (apart : ',' ∉ cs) : pieces cs = (ofPiece? cs).toList := by
  have whole : cs.splitOn ',' = [cs] := by
    refine List.splitOnP_eq_singleton ?_
    intro c member
    simpa using fun same : c = ',' => apart (same ▸ member)
  rw [pieces, whole]
  cases read : ofPiece? cs <;> simp [read]

theorem ofPiece?_cons_blank {c : Char} (blank : Text.isBlank c = true) (cs : List Char) :
    ofPiece? (c :: cs) = ofPiece? cs := by
  have bare : Text.trimChars (Text.before '=' (c :: cs)) = Text.trimChars (Text.before '=' cs) :=
    Text.trimChars_before_cons (by decide) blank cs
  simp only [ofPiece?, bare]

theorem ofPiece?_concat_blank {c : Char} (blank : Text.isBlank c = true) (cs : List Char) :
    ofPiece? (cs ++ [c]) = ofPiece? cs := by
  have bare : Text.trimChars (Text.before '=' (cs ++ [c])) = Text.trimChars (Text.before '=' cs) :=
    Text.trimChars_before_concat (by decide) blank cs
  simp only [ofPiece?, bare]

theorem pieces_cons_blank {c : Char} (blank : Text.isBlank c = true) (cs : List Char) :
    pieces (c :: cs) = pieces cs := by
  have other : ',' ≠ c := (Text.ne_of_isBlank blank (by decide)).symm
  by_cases member : ',' ∈ cs
  · obtain ⟨first, rest, rfl, apart⟩ := List.eq_append_cons_of_mem member
    rw [← List.cons_append, pieces_append_comma, pieces_append_comma,
      pieces_of_not_mem (by simp [other, apart]), pieces_of_not_mem apart, ofPiece?_cons_blank blank]
  · rw [pieces_of_not_mem (by simp [other, member]), pieces_of_not_mem member, ofPiece?_cons_blank blank]

theorem pieces_concat_blank {c : Char} (blank : Text.isBlank c = true) (cs : List Char) :
    pieces (cs ++ [c]) = pieces cs := by
  have other : ',' ≠ c := (Text.ne_of_isBlank blank (by decide)).symm
  -- Comma by comma to the last piece, which is the one that the blank follows.
  by_cases member : ',' ∈ cs
  · obtain ⟨first, rest, rfl, apart⟩ := List.eq_append_cons_of_mem member
    rw [List.append_assoc, List.cons_append, pieces_append_comma, pieces_append_comma,
      pieces_concat_blank blank rest]
  · rw [pieces_of_not_mem (by simp [other, member]), pieces_of_not_mem member, ofPiece?_concat_blank blank]
termination_by cs.length

theorem pieces_trimChars (cs : List Char) : pieces (Text.trimChars cs) = pieces cs :=
  Text.eq_trimChars (fun _ cs blank => pieces_cons_blank blank cs)
    (fun _ cs blank => pieces_concat_blank blank cs) cs

theorem split_eq (raw : String) : split raw = pieces (stripParentheses (Text.trimChars raw.toList)) := by
  rw [← pieces_trimChars]
  simp only [split]
  split
  · rename_i empty
    rw [List.isEmpty_iff.mp empty]
    rfl
  · rfl

theorem split_parenthesized (inner : String) : split ("(" ++ inner ++ ")") = pieces inner.toList := by
  have text : ("(" ++ inner ++ ")").toList = '(' :: (inner.toList ++ [')']) := by simp
  have trimmed : Text.Trimmed ("(" ++ inner ++ ")").toList := by
    rw [text]
    constructor
    · rintro c ⟨⟩
      decide
    · intro c last
      obtain rfl : ')' = c := by simpa [List.getLast?_cons] using last
      decide
  rw [split_eq, Text.trimChars_eq_self trimmed, text]
  simp [stripParentheses, Text.beforeLast?]

/-- Fit for a name: no blank and no mark that divides parameters or their parts. -/
@[mk_iff]
structure Word (s : String) : Prop where
  filled : s ≠ ""
  solid : ∀ c ∈ s.toList, Text.isBlank c = false
  apart : ∀ c ∈ s.toList, c ≠ ':' ∧ c ≠ ',' ∧ c ≠ '='

instance (s : String) : Decidable (Word s) :=
  decidable_of_iff (s ≠ "" ∧ s.toList.all (fun c => !Text.isBlank c) = true ∧
    s.toList.all (fun c => c != ':' && c != ',' && c != '=') = true)
    (by simp [word_iff, and_assoc])

/-- Fit for a type behind a colon. -/
structure IsType (s : String) : Prop where
  filled : s ≠ ""
  trimmed : Text.Trimmed s.toList
  apart : ∀ c ∈ s.toList, c ≠ ',' ∧ c ≠ '=' ∧ c ≠ '\n'

/-- The ways to write a parameter: with no type, with its type behind a colon, or with its type in front,
if that is made of words. -/
inductive Spelled : Parameter → String → Prop
  | bare {name : String} (isName : Word name) : Spelled ⟨name, none⟩ name
  | colon {name type : String} (isName : Word name) (isType : IsType type) :
      Spelled ⟨name, some type⟩ (name ++ ": " ++ type)
  | front {name : String} {words : List String} (isName : Word name) (some_ : words ≠ [])
      (isType : ∀ w ∈ words, Word w) :
      Spelled ⟨name, some (" ".intercalate words)⟩ (" ".intercalate words ++ " " ++ name)

/-- A parameter as it stands in a list, with or without a default value. -/
inductive Written (p : Parameter) : String → Prop
  | plain {text : String} (spelled : Spelled p text) : Written p text
  | default {text value : String} (spelled : Spelled p text) (apart : ',' ∉ value.toList) :
      Written p (text ++ " = " ++ value)

/-- A text that neither commas nor equals signs cut, nor trimming. -/
structure Uncut (s : String) : Prop where
  filled : s ≠ ""
  trimmed : Text.Trimmed s.toList
  comma : ',' ∉ s.toList
  equals : '=' ∉ s.toList

theorem Word.uncut {s : String} (word : Word s) : Uncut s where
  filled := word.filled
  trimmed :=
    ⟨fun c first => word.solid c (List.mem_of_mem_head? first),
      fun c last => word.solid c (List.mem_of_getLast? last)⟩
  comma member := (word.apart ',' member).2.1 rfl
  equals member := (word.apart '=' member).2.2 rfl

theorem IsType.uncut {s : String} (isType : IsType s) : Uncut s where
  filled := isType.filled
  trimmed := isType.trimmed
  comma member := (isType.apart ',' member).1 rfl
  equals member := (isType.apart '=' member).2.1 rfl

theorem Uncut.append {s t between : String} (left : Uncut s) (right : Uncut t)
    (comma : ',' ∉ between.toList) (equals : '=' ∉ between.toList) : Uncut (s ++ between ++ t) where
  filled := by simp [left.filled]
  trimmed := by
    have first : s.toList ≠ [] := by simpa using left.filled
    have last : t.toList ≠ [] := by simpa using right.filled
    rw [String.toList_append, String.toList_append]
    constructor
    · rw [List.append_assoc, List.head?_append_of_ne_nil _ first]
      exact left.trimmed.1
    · rw [List.getLast?_append_of_ne_nil _ last]
      exact right.trimmed.2
  comma := by simp [left.comma, right.comma, comma]
  equals := by simp [left.equals, right.equals, equals]

theorem uncut_intercalate {w : String} {ws : List String} (words : ∀ v ∈ w :: ws, Word v) :
    Uncut (" ".intercalate (w :: ws)) := by
  induction ws generalizing w with
  | nil => simpa using (words w List.mem_cons_self).uncut
  | cons v ws ih =>
    rw [List.forall_mem_cons] at words
    rw [String.intercalate_cons_cons]
    exact words.1.uncut.append (ih words.2) (by decide) (by decide)

theorem Spelled.uncut {p : Parameter} {text : String} (spelled : Spelled p text) : Uncut text := by
  cases spelled with
  | bare isName => exact isName.uncut
  | colon isName isType => exact isName.uncut.append isType.uncut (by decide) (by decide)
  | @front name words isName some_ isType =>
    obtain ⟨w, ws, rfl⟩ := List.exists_cons_of_ne_nil some_
    exact (uncut_intercalate isType).append isName.uncut (by decide) (by decide)

theorem ofTyped?_of_not_mem {piece : List Char} (apart : ':' ∉ piece) : ofTyped? piece = none := by
  unfold ofTyped?
  simp only
  split
  · rename_i rest colon
    refine absurd ?_ apart
    have kept : ':' ∈ Text.trimLeft (piece.dropWhile fun c => c != ':' && !Text.isBlank c) := by
      rw [colon]
      exact List.mem_cons_self
    exact List.dropWhile_subset _ (List.dropWhile_subset _ kept)
  · rfl

theorem ofTyped?_colon {name type : String} (isName : Word name) (isType : IsType type) :
    ofTyped? (name ++ ": " ++ type).toList = some ⟨name, some type⟩ := by
  have text : (name ++ ": " ++ type).toList = name.toList ++ ':' :: ' ' :: type.toList := by simp
  have takes : ∀ c ∈ name.toList, (c != ':' && !Text.isBlank c) = true := by
    intro c member
    simp [isName.solid c member, (isName.apart c member).1]
  have rest : Text.trimChars (' ' :: type.toList) = type.toList := by
    rw [Text.trimChars_cons_blank Text.isBlank_space, Text.trimChars_eq_self isType.trimmed]
  have line : '\n' ∉ type.toList := fun member => (isType.apart _ member).2.2 rfl
  unfold ofTyped?
  simp only
  rw [text, List.takeWhile_append_of_pos takes, List.dropWhile_append_of_pos takes]
  simp [Text.trimLeft, rest, isName.filled, isType.filled, line, show Text.isBlank ':' = false by decide]

theorem ofWords?_intercalate {name : String} {words : List String} (isName : Word name)
    (isType : ∀ w ∈ words, Word w) :
    ofWords? (" ".intercalate (words ++ [name])).toList =
      some ⟨name, if words.isEmpty then none else some (" ".intercalate words)⟩ := by
  have each : ∀ w ∈ words ++ [name], Word w := by
    simpa [or_imp, forall_and, isName] using isType
  have read : Text.wordsOf (" ".intercalate (words ++ [name])).toList =
      (words ++ [name]).map String.toList := by
    rw [String.toList_intercalate]
    refine Text.wordsOf_intercalate ?_ ?_
    · intro w member
      obtain ⟨v, listed, rfl⟩ := List.mem_map.mp member
      simpa using (each v listed).filled
    · intro w member
      obtain ⟨v, listed, rfl⟩ := List.mem_map.mp member
      exact (each v listed).solid
  have texts : ((words ++ [name]).map String.toList).map String.ofList = words ++ [name] := by
    simp
  unfold ofWords?
  simp only
  rw [read, texts]
  simp

theorem colon_not_mem {ws : List String} (words : ∀ w ∈ ws, Word w) :
    ':' ∉ (" ".intercalate ws).toList := by
  induction ws with
  | nil => decide
  | cons w ws ih =>
    rw [List.forall_mem_cons] at words
    have first : ':' ∉ w.toList := fun member => (words.1.apart ':' member).1 rfl
    cases ws with
    | nil => simpa using first
    | cons v ws =>
      rw [String.intercalate_cons_cons]
      simpa [first] using ih words.2

theorem Spelled.read {p : Parameter} {text : String} (spelled : Spelled p text) :
    (ofTyped? text.toList <|> ofWords? text.toList) = some p := by
  cases spelled with
  | bare isName =>
    have colon : ':' ∉ text.toList := fun member => (isName.apart ':' member).1 rfl
    have words := @ofWords?_intercalate text [] isName nofun
    rw [List.nil_append, String.intercalate_singleton] at words
    rw [ofTyped?_of_not_mem colon, words]
    rfl
  | colon isName isType =>
    rw [ofTyped?_colon isName isType]
    rfl
  | @front name words isName some_ isType =>
    have joined : " ".intercalate words ++ " " ++ name = " ".intercalate (words ++ [name]) := by
      rw [String.intercalate_append_of_ne_nil some_ (by simp), String.intercalate_singleton]
    have colon : ':' ∉ (" ".intercalate (words ++ [name])).toList :=
      colon_not_mem (by simpa [or_imp, forall_and, isName] using isType)
    rw [joined, ofTyped?_of_not_mem colon, ofWords?_intercalate isName isType]
    simp [some_]

theorem ofPiece?_eq {piece bare : List Char} (cut : Text.trimChars (Text.before '=' piece) = bare)
    (filled : bare ≠ []) : ofPiece? piece = (ofTyped? bare <|> ofWords? bare) := by
  unfold ofPiece?
  simp only
  rw [cut, if_neg (by simpa using filled)]

theorem Written.read {p : Parameter} {text : String} (written : Written p text) :
    ofPiece? text.toList = some p := by
  cases written with
  | plain spelled =>
    have uncut := spelled.uncut
    have bare : Text.trimChars (Text.before '=' text.toList) = text.toList := by
      rw [Text.before_of_not_mem uncut.equals, Text.trimChars_eq_self uncut.trimmed]
    rw [ofPiece?_eq bare (by simpa using uncut.filled), spelled.read]
  | @default text value spelled apart =>
    have uncut := spelled.uncut
    have cut : (text ++ " = " ++ value).toList = (text.toList ++ [' ']) ++ '=' :: ' ' :: value.toList := by
      simp
    have bare : Text.trimChars (Text.before '=' (text ++ " = " ++ value).toList) = text.toList := by
      rw [cut, Text.before_append_cons (by simp [uncut.equals]),
        Text.trimChars_concat_blank Text.isBlank_space, Text.trimChars_eq_self uncut.trimmed]
    rw [ofPiece?_eq bare (by simpa using uncut.filled), spelled.read]

theorem Written.comma {p : Parameter} {text : String} (written : Written p text) :
    ',' ∉ text.toList := by
  cases written with
  | plain spelled => exact spelled.uncut.comma
  | default spelled apart => simp [spelled.uncut.comma, apart]

theorem Written.pieces {p : Parameter} {text : String} (written : Written p text) :
    pieces text.toList = [p] := by
  rw [pieces_of_not_mem written.comma, written.read]
  rfl

theorem pieces_intercalate {params : List Parameter} {texts : List String}
    (written : List.Forall₂ Written params texts) :
    pieces (", ".intercalate texts).toList = params := by
  induction written with
  | nil => rfl
  | @cons p text params texts first later ih =>
    cases later with
    | nil => simpa using first.pieces
    | @cons q next params texts second later =>
      have cut : (", ".intercalate (text :: next :: texts)).toList =
          text.toList ++ ',' :: ' ' :: (", ".intercalate (next :: texts)).toList := by
        simp [String.intercalate_cons_cons]
      rw [cut, pieces_append_comma, first.pieces, pieces_cons_blank Text.isBlank_space, ih]
      rfl

/-- A list of parameters, each written in one of the ways, is read back from its text. -/
theorem split_written {params : List Parameter} {texts : List String}
    (written : List.Forall₂ Written params texts) :
    split ("(" ++ ", ".intercalate texts ++ ")") = params := by
  rw [split_parenthesized, pieces_intercalate written]

/-- All ways at once: types with colons and spaces in them, and defaults with equals signs, brackets and
blanks. -/
theorem split_written_mixed :
    let params : List Parameter :=
      [⟨"self", none⟩, ⟨"key", some "Map<a: b> | ()"⟩, ⟨"argv", some "const char *"⟩, ⟨"n", none⟩]
    let texts :=
      ["self", "key: Map<a: b> | ()", "const char * argv = x == (y: z) ", "n = "]
    List.Forall₂ Written params texts ∧ split ("(" ++ ", ".intercalate texts ++ ")") = params := by
  intro params texts
  have type : IsType "Map<a: b> | ()" :=
    ⟨by decide, ⟨by rintro c ⟨⟩; decide, by rintro c ⟨⟩; decide⟩, by simp⟩
  have front : Spelled ⟨"argv", some "const char *"⟩ "const char * argv" :=
    @Spelled.front "argv" ["const", "char", "*"] (by decide) (by decide) (by decide +kernel)
  have written : List.Forall₂ Written params texts := by
    refine .cons (.plain (.bare (by decide))) (.cons (.plain (.colon (by decide) type)) ?_)
    refine .cons (@Written.default _ _ "x == (y: z) " front (by decide)) (.cons ?_ .nil)
    exact @Written.default _ _ "" (.bare (by decide)) (by decide)
  exact ⟨written, split_written written⟩

end Parameter

end SourceOutline

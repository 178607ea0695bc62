import Mathlib.Data.List.TakeWhile
import SourceOutline.Json

/-! Written JSON is read back. The two ways to write a value differ only in the blanks between its
parts, and the reader passes over those; so one statement about every layout covers both. -/
namespace SourceOutline.Json

/-- What follows a value cannot be taken for more digits of a number. -/
def Stops (rest : List Char) : Prop :=
  ∀ c, rest.head? = some c → c.isDigit = false ∧ c ≠ '.' ∧ c ≠ 'e' ∧ c ≠ 'E'

theorem stops_nil : Stops [] := nofun

theorem stops_cons {c : Char} (other : c.isDigit = false ∧ c ≠ '.' ∧ c ≠ 'e' ∧ c ≠ 'E')
    (rest : List Char) : Stops (c :: rest) := by
  intro d first
  obtain rfl : c = d := by simpa using first
  exact other

theorem digitsValue_toDigits (n : Nat) : digitsValue (Nat.toDigits 10 n) = n := by
  rw [digitsValue, ← Nat.ofDigitChars_eq_foldl, Nat.ofDigitChars_ten_toDigits]

/-- Only zero is written with a zero in front. -/
theorem toDigits_head (n : Nat) (zero : (Nat.toDigits 10 n).head? = some '0') : n = 0 := by
  induction n using Nat.strongRecOn with
  | _ n ih =>
    by_cases small : n < 10
    · rw [Nat.toDigits_of_lt_base small, List.head?_cons, Option.some.injEq] at zero
      have digits : ∀ d < 10, d.digitChar = '0' → d = 0 := by decide
      exact digits n small zero
    · rw [Nat.toDigits_of_base_le (by omega) (by omega),
        List.head?_append] at zero
      obtain ⟨c, cs, first⟩ := List.exists_cons_of_ne_nil (Nat.toDigits_ne_nil (n := n / 10) (b := 10))
      have := ih (n / 10) (by omega) (by simpa [first] using zero)
      omega

theorem toDigits_length (n : Nat) :
    ((Nat.toDigits 10 n).length > 1 && (Nat.toDigits 10 n).head? == some '0') = false := by
  by_cases zero : (Nat.toDigits 10 n).head? = some '0'
  · rw [toDigits_head n zero]
    decide
  · simp [zero]

theorem takeWhile_toDigits (n : Nat) {rest : List Char} (stops : Stops rest) :
    (Nat.toDigits 10 n ++ rest).takeWhile Char.isDigit = Nat.toDigits 10 n ∧
    (Nat.toDigits 10 n ++ rest).dropWhile Char.isDigit = rest := by
  have digits : ∀ c ∈ Nat.toDigits 10 n, c.isDigit = true :=
    fun c member => Nat.isDigit_of_mem_toDigits (by omega) (by omega) member
  rw [List.takeWhile_append_of_pos digits, List.dropWhile_append_of_pos digits]
  cases rest with
  | nil => simp
  | cons c rest => simp [(stops c rfl).1]

theorem parseTail_stops (marks signs : List Char) {rest : List Char}
    (apart : ∀ c, rest.head? = some c → c ∉ marks) : parseTail marks signs rest = some ([], rest) := by
  cases rest with
  | nil => rfl
  | cons c rest => simp [parseTail, apart c rfl]

theorem parseNumber_toDigits (negative : Bool) (n : Nat) (signed : negative = true → n ≠ 0)
    {rest : List Char} (stops : Stops rest) :
    parseNumber negative (Nat.toDigits 10 n ++ rest) =
      some (.int (if negative then -(n : Int) else n), rest) := by
  have whole : (negative && n == 0) = false := by
    cases negative with
    | false => rfl
    | true => simpa using signed rfl
  have dot : parseTail ['.'] [] rest = some ([], rest) :=
    parseTail_stops _ _ fun c first => by simpa using (stops c first).2.1
  have mark : parseTail ['e', 'E'] ['+', '-'] rest = some ([], rest) :=
    parseTail_stops _ _ fun c first => by simpa using (stops c first).2.2
  simp only [parseNumber, takeWhile_toDigits n stops, toDigits_length, dot, mark,
    digitsValue_toDigits, whole]
  simp [Nat.toDigits_ne_nil]

theorem toString_ofNat (n : Nat) : (toString (Int.ofNat n)).toList = Nat.toDigits 10 n :=
  Nat.toList_repr

theorem toString_negSucc (n : Nat) :
    (toString (Int.negSucc n)).toList = '-' :: Nat.toDigits 10 (n + 1) := by
  rw [← Nat.toList_repr]
  exact String.toList_append

theorem hexValue?_hexDigit : ∀ n < 16, hexValue? (hexDigit n) = some n := by decide

theorem hexDigit_mod (n : Nat) : hexDigit (n % 16) = hexDigit n := by
  rw [hexDigit, hexDigit, Nat.mod_mod]

theorem parseChars_plain {c : Char} (quote : c ≠ '"') (slash : c ≠ '\\') (high : 0x20 ≤ c.toNat)
    (read rest : List Char) : parseChars read (c :: rest) = parseChars (c :: read) rest := by
  rw [parseChars]
  · rw [if_neg]
    simp only [slash, false_or]
    omega
  · exact quote
  all_goals grind

theorem parseChars_letter {e c : Char} (known : unescape? e = some c) (other : e ≠ 'u')
    (read rest : List Char) :
    parseChars read ('\\' :: e :: rest) = parseChars (c :: read) rest := by
  rw [parseChars]
  · simp only [known]
  all_goals grind

/-- Whether or not another code follows, a code that is no surrogate stands for its character. -/
theorem parseChars_code {a b c d : Char} {n : Nat} (known : hex4? a b c d = some n) (low : n < 0xD800)
    (read rest : List Char) :
    parseChars read ('\\' :: 'u' :: a :: b :: c :: d :: rest) =
      parseChars (Char.ofNat n :: read) rest := by
  rw [parseChars.eq_def]
  split <;> grind

theorem parseChars_control {c : Char} (low : c.toNat < 0x20) (read rest : List Char) :
    parseChars read
        ('\\' :: 'u' :: '0' :: '0' :: hexDigit (c.toNat / 16) :: hexDigit c.toNat :: rest) =
      parseChars (c :: read) rest := by
  have code : hex4? '0' '0' (hexDigit (c.toNat / 16)) (hexDigit c.toNat) = some c.toNat := by
    have first := hexValue?_hexDigit (c.toNat / 16) (by omega)
    have second := hexValue?_hexDigit (c.toNat % 16) (by omega)
    rw [hexDigit_mod] at second
    have zero : hexValue? '0' = some 0 := by decide
    simp only [hex4?, zero, first, second, Option.pure_def, Option.bind_eq_bind, Option.bind_some,
      Option.some.injEq]
    omega
  rw [parseChars_code code (by omega), Char.ofNat_toNat]

/-- Reading undoes the writing of one character. -/
theorem parseChars_escapeChar (c : Char) (read rest : List Char) :
    parseChars read (escapeChar c ++ rest) = parseChars (c :: read) rest := by
  unfold escapeChar
  split_ifs with quote slash back feed line return_ tab low
  · exact parseChars_letter (by rw [quote]; rfl) (by decide) read rest
  · exact parseChars_letter (by rw [slash]; rfl) (by decide) read rest
  · exact parseChars_letter (by rw [back]; rfl) (by decide) read rest
  · exact parseChars_letter (by rw [feed]; rfl) (by decide) read rest
  · exact parseChars_letter (by rw [line]; rfl) (by decide) read rest
  · exact parseChars_letter (by rw [return_]; rfl) (by decide) read rest
  · exact parseChars_letter (by rw [tab]; rfl) (by decide) read rest
  · exact parseChars_control low read rest
  · exact parseChars_plain quote slash (by omega) read rest

theorem parseChars_escaped (cs read rest : List Char) :
    parseChars read (cs.flatMap escapeChar ++ '"' :: rest) =
      some (String.ofList (read.reverse ++ cs), rest) := by
  induction cs generalizing read with
  | nil => simp [parseChars]
  | cons c cs ih =>
    rw [List.flatMap_cons, List.append_assoc, parseChars_escapeChar, ih]
    simp

theorem quote_toList (s : String) (rest : List Char) :
    (quote s).toList ++ rest = '"' :: (s.toList.flatMap escapeChar ++ '"' :: rest) := by
  simp [quote]

/-- The blanks that a writer puts before an item, a member or a closing bracket at each depth, and
after a colon. -/
structure Layout where
  gap : Nat → List Char
  colonGap : List Char
  gap_blank : ∀ depth, ∀ c ∈ gap depth, isSpace c = true
  colonGap_blank : ∀ c ∈ colonGap, isSpace c = true

namespace Layout

/-- The parts with commas between them, up to the closing bracket; nothing if there is no part. -/
def enclosed (l : Layout) (depth : Nat) : List (List Char) → List Char
  | [] => []
  | part :: parts => [','].intercalate (part :: parts) ++ l.gap depth

mutual

def text (l : Layout) (depth : Nat) : Json → List Char
  | .null => "null".toList
  | .bool b => if b then "true".toList else "false".toList
  | .int n => (toString n).toList
  | .decimal text => text.toList
  | .str s => (quote s).toList
  | .arr items => '[' :: l.enclosed depth (l.items (depth + 1) items) ++ [']']
  | .obj members => '\x7b' :: l.enclosed depth (l.members (depth + 1) members) ++ ['\x7d']

def items (l : Layout) (depth : Nat) : List Json → List (List Char)
  | [] => []
  | v :: vs => (l.gap depth ++ l.text depth v) :: l.items depth vs

def members (l : Layout) (depth : Nat) : List (String × Json) → List (List Char)
  | [] => []
  | (k, v) :: ms =>
    (l.gap depth ++ (quote k).toList ++ ':' :: l.colonGap ++ l.text depth v) :: l.members depth ms

end

end Layout

mutual

/-- A value without decimals, whose text would be written as it is. -/
def Plain : Json → Prop
  | .decimal _ => False
  | .arr items => PlainItems items
  | .obj members => PlainMembers members
  | _ => True

def PlainItems : List Json → Prop
  | [] => True
  | v :: vs => v.Plain ∧ PlainItems vs

def PlainMembers : List (String × Json) → Prop
  | [] => True
  | (_, v) :: ms => v.Plain ∧ PlainMembers ms

end

theorem dropWhile_gap {gap : List Char} (blank : ∀ c ∈ gap, isSpace c = true) (rest : List Char) :
    (gap ++ rest).dropWhile isSpace = rest.dropWhile isSpace :=
  List.dropWhile_append_of_pos blank

theorem parseValue_gap {gap : List Char} (blank : ∀ c ∈ gap, isSpace c = true) (fuel : Nat)
    (rest : List Char) : parseValue fuel (gap ++ rest) = parseValue fuel rest := by
  cases fuel with
  | zero => rfl
  | succ fuel => rw [parseValue, parseValue, dropWhile_gap blank]

theorem parseItems_gap {gap : List Char} (blank : ∀ c ∈ gap, isSpace c = true) (fuel : Nat)
    (rest : List Char) : parseItems fuel (gap ++ rest) = parseItems fuel rest := by
  cases fuel with
  | zero => rfl
  | succ fuel => rw [parseItems, parseItems, parseValue_gap blank]

theorem parseMembers_gap {gap : List Char} (blank : ∀ c ∈ gap, isSpace c = true) (fuel : Nat)
    (rest : List Char) : parseMembers fuel (gap ++ rest) = parseMembers fuel rest := by
  cases fuel with
  | zero => rfl
  | succ fuel => rw [parseMembers, parseMembers, dropWhile_gap blank]

theorem parseValue_digits (fuel n : Nat) {rest : List Char} (stops : Stops rest) :
    parseValue (fuel + 1) (Nat.toDigits 10 n ++ rest) = some (.int n, rest) := by
  have number := parseNumber_toDigits false n nofun stops
  have digits : ∀ c ∈ Nat.toDigits 10 n, c.isDigit = true :=
    fun c member => Nat.isDigit_of_mem_toDigits (by omega) (by omega) member
  obtain ⟨c, cs, first⟩ := List.exists_cons_of_ne_nil (Nat.toDigits_ne_nil (n := n) (b := 10))
  have digit := digits c (first ▸ List.mem_cons_self)
  have visible : isSpace c = false := by
    by_contra blank
    simp only [isSpace, Bool.or_eq_true, decide_eq_true_eq, Bool.not_eq_false] at blank
    rcases blank with ((rfl | rfl) | rfl) | rfl <;> contradiction
  rw [first, List.cons_append] at number ⊢
  rw [parseValue, List.dropWhile_cons_of_neg (by simp [visible])]
  split
  all_goals simp_all

theorem dropWhile_closing {gap : List Char} (blank : ∀ c ∈ gap, isSpace c = true) {c : Char}
    (visible : isSpace c = false) (rest : List Char) :
    (gap ++ c :: rest).dropWhile isSpace = c :: rest := by
  rw [dropWhile_gap blank, List.dropWhile_cons_of_neg (by simp [visible])]

theorem stops_closing {gap : List Char} (blank : ∀ c ∈ gap, isSpace c = true) {c : Char}
    (closing : c = ']' ∨ c = '\x7d') (rest : List Char) : Stops (gap ++ c :: rest) := by
  cases gap with
  | nil => rcases closing with rfl | rfl <;> exact stops_cons (by decide) rest
  | cons d gap =>
    refine stops_cons ?_ _
    have space := blank d List.mem_cons_self
    simp only [isSpace, Bool.or_eq_true, decide_eq_true_eq] at space
    rcases space with ((rfl | rfl) | rfl) | rfl <;> decide

section

variable {fuel : Nat} {cs more rest gap : List Char} {v : Json} {vs : List Json}
  {key : String} {ms : List (String × Json)}

theorem parseItems_last (blank : ∀ c ∈ gap, isSpace c = true)
    (value : parseValue fuel cs = some (v, gap ++ ']' :: rest)) :
    parseItems (fuel + 1) cs = some ([v], rest) := by
  rw [parseItems, value]
  simp only [dropWhile_closing blank (show isSpace ']' = false from rfl)]

theorem parseItems_more (value : parseValue fuel cs = some (v, ',' :: more))
    (items : parseItems fuel more = some (vs, rest)) :
    parseItems (fuel + 1) cs = some (v :: vs, rest) := by
  rw [parseItems, value]
  simp [isSpace, items]

/-- A closing bracket is no item, so an array with items is not taken for an empty one. -/
theorem parseValue_array (items : parseItems fuel cs = some (vs, rest)) :
    parseValue (fuel + 1) ('[' :: cs) = some (.arr vs, rest) := by
  have blank : ∀ c ∈ cs.takeWhile isSpace, isSpace c = true := fun c => List.mem_takeWhile_imp
  have same : parseItems fuel (cs.dropWhile isSpace) = some (vs, rest) := by
    rw [← items, ← parseItems_gap blank, List.takeWhile_append_dropWhile]
  rw [parseValue, List.dropWhile_cons_of_neg (by decide)]
  simp only
  split
  · rename_i closed
    rw [closed] at same
    cases fuel with
    | zero => cases same
    | succ fuel =>
      cases fuel with
      | zero => cases same
      | succ fuel => simp [parseItems, parseValue, isSpace] at same
  · simp [same]

theorem parseMembers_last {colonGap : List Char} (colonBlank : ∀ c ∈ colonGap, isSpace c = true)
    (blank : ∀ c ∈ gap, isSpace c = true)
    (value : parseValue fuel cs = some (v, gap ++ '\x7d' :: rest)) :
    parseMembers (fuel + 1) ((quote key).toList ++ ':' :: (colonGap ++ cs)) =
      some ([(key, v)], rest) := by
  rw [quote_toList, parseMembers, List.dropWhile_cons_of_neg (by decide)]
  simp only [parseChars_escaped]
  rw [List.dropWhile_cons_of_neg (by decide)]
  simp only [parseValue_gap colonBlank, value,
    dropWhile_closing blank (show isSpace '\x7d' = false from rfl)]
  simp

theorem parseMembers_more {colonGap : List Char} (colonBlank : ∀ c ∈ colonGap, isSpace c = true)
    (value : parseValue fuel cs = some (v, ',' :: more))
    (members : parseMembers fuel more = some (ms, rest)) :
    parseMembers (fuel + 1) ((quote key).toList ++ ':' :: (colonGap ++ cs)) =
      some ((key, v) :: ms, rest) := by
  rw [quote_toList, parseMembers, List.dropWhile_cons_of_neg (by decide)]
  simp only [parseChars_escaped]
  rw [List.dropWhile_cons_of_neg (by decide)]
  simp only [parseValue_gap colonBlank, value]
  simp [isSpace, members]

theorem parseValue_object (members : parseMembers fuel cs = some (ms, rest)) :
    parseValue (fuel + 1) ('\x7b' :: cs) = some (.obj ms, rest) := by
  have blank : ∀ c ∈ cs.takeWhile isSpace, isSpace c = true := fun c => List.mem_takeWhile_imp
  have same : parseMembers fuel (cs.dropWhile isSpace) = some (ms, rest) := by
    rw [← members, ← parseMembers_gap blank, List.takeWhile_append_dropWhile]
  rw [parseValue, List.dropWhile_cons_of_neg (by decide)]
  simp only
  split
  · rename_i closed
    rw [closed] at same
    cases fuel with
    | zero => cases same
    | succ fuel => simp [parseMembers, isSpace] at same
  · simp [same]

end

theorem text_ne_nil (l : Layout) (depth : Nat) {v : Json} (plain : v.Plain) :
    l.text depth v ≠ [] := by
  cases v with
  | null => simp [Layout.text]
  | bool b => cases b <;> simp [Layout.text]
  | int n =>
    rw [Layout.text]
    cases n with
    | ofNat n => rw [toString_ofNat]; exact Nat.toDigits_ne_nil
    | negSucc n => rw [toString_negSucc]; simp
  | decimal text => exact plain.elim
  | str s => simp [Layout.text, quote]
  | arr items => simp [Layout.text]
  | obj members => simp [Layout.text]

/-- What `fuel` is enough to read back: a value as long as half of it, and items and members that are
at least one character shorter than the brackets around them. -/
structure ReadsBack (l : Layout) (fuel : Nat) : Prop where
  value : ∀ (depth : Nat) (v : Json), v.Plain → 2 * (l.text depth v).length ≤ fuel + 1 →
    ∀ rest, Stops rest → parseValue fuel (l.text depth v ++ rest) = some (v, rest)
  items : ∀ (depth : Nat) (v : Json) (vs : List Json), PlainItems (v :: vs) →
    2 * ([','].intercalate (l.items (depth + 1) (v :: vs))).length ≤ fuel → ∀ rest,
    parseItems fuel ([','].intercalate (l.items (depth + 1) (v :: vs)) ++
      (l.gap depth ++ ']' :: rest)) = some (v :: vs, rest)
  members : ∀ (depth : Nat) (m : String × Json) (ms : List (String × Json)),
    PlainMembers (m :: ms) →
    2 * ([','].intercalate (l.members (depth + 1) (m :: ms))).length ≤ fuel → ∀ rest,
    parseMembers fuel ([','].intercalate (l.members (depth + 1) (m :: ms)) ++
      (l.gap depth ++ '\x7d' :: rest)) = some (m :: ms, rest)

theorem joined_item (l : Layout) (depth : Nat) (v : Json) :
    [','].intercalate (l.items depth [v]) = l.gap depth ++ l.text depth v := by
  simp [Layout.items]

theorem joined_items (l : Layout) (depth : Nat) (v w : Json) (vs : List Json) :
    [','].intercalate (l.items depth (v :: w :: vs)) =
      l.gap depth ++ (l.text depth v ++ ',' :: [','].intercalate (l.items depth (w :: vs))) := by
  simp [Layout.items]

theorem joined_member (l : Layout) (depth : Nat) (m : String × Json) :
    [','].intercalate (l.members depth [m]) =
      l.gap depth ++ ((quote m.1).toList ++ ':' :: (l.colonGap ++ l.text depth m.2)) := by
  simp [Layout.members]

theorem joined_members (l : Layout) (depth : Nat) (m n : String × Json) (ms : List (String × Json)) :
    [','].intercalate (l.members depth (m :: n :: ms)) =
      l.gap depth ++ ((quote m.1).toList ++ ':' :: (l.colonGap ++ (l.text depth m.2 ++
        ',' :: [','].intercalate (l.members depth (n :: ms))))) := by
  simp [Layout.members]

namespace ReadsBack

variable {l : Layout} {fuel : Nat}

theorem value_step (less : ReadsBack l fuel) (depth : Nat) (v : Json) (plain : v.Plain)
    (enough : 2 * (l.text depth v).length ≤ fuel + 2) (rest : List Char) (stops : Stops rest) :
    parseValue (fuel + 1) (l.text depth v ++ rest) = some (v, rest) := by
  cases v with
  | null => simp [Layout.text, parseValue, isSpace]
  | bool b => cases b <;> simp [Layout.text, parseValue, isSpace]
  | int n =>
    rw [Layout.text]
    cases n with
    | ofNat n =>
      rw [toString_ofNat]
      exact parseValue_digits fuel n stops
    | negSucc n =>
      rw [toString_negSucc, List.cons_append, parseValue, List.dropWhile_cons_of_neg (by decide)]
      exact parseNumber_toDigits true (n + 1) (by simp) stops
  | decimal text => exact plain.elim
  | str s =>
    rw [Layout.text, quote_toList, parseValue, List.dropWhile_cons_of_neg (by decide)]
    simp [parseChars_escaped]
  | arr items =>
    cases items with
    | nil => simp [Layout.text, Layout.items, Layout.enclosed, parseValue, isSpace]
    | cons v vs =>
      simp only [Layout.text, Layout.items, Layout.enclosed, List.length_cons,
        List.length_append] at enough
      have items := less.items depth v vs plain (by rw [Layout.items]; omega) rest
      simpa [Layout.text, Layout.items, Layout.enclosed] using parseValue_array items
  | obj members =>
    cases members with
    | nil => simp [Layout.text, Layout.members, Layout.enclosed, parseValue, isSpace]
    | cons m ms =>
      simp only [Layout.text, Layout.members, Layout.enclosed, List.length_cons,
        List.length_append] at enough
      have members := less.members depth m ms plain (by rw [Layout.members]; omega) rest
      simpa [Layout.text, Layout.members, Layout.enclosed] using parseValue_object members

theorem items_step (less : ReadsBack l fuel) (depth : Nat) (v : Json) (vs : List Json)
    (plain : PlainItems (v :: vs))
    (enough : 2 * ([','].intercalate (l.items (depth + 1) (v :: vs))).length ≤ fuel + 1)
    (rest : List Char) :
    parseItems (fuel + 1) ([','].intercalate (l.items (depth + 1) (v :: vs)) ++
      (l.gap depth ++ ']' :: rest)) = some (v :: vs, rest) := by
  have some_ := List.length_pos_iff.mpr (text_ne_nil l (depth + 1) plain.1)
  cases vs with
  | nil =>
    rw [joined_item, List.length_append] at enough
    have value := less.value (depth + 1) v plain.1 (by omega) _
      (stops_closing (l.gap_blank depth) (.inl rfl) rest)
    rw [joined_item, List.append_assoc, parseItems_gap (l.gap_blank _)]
    exact parseItems_last (l.gap_blank depth) value
  | cons w ws =>
    simp only [joined_items, List.length_append, List.length_cons] at enough
    have later := less.items depth w ws plain.2 (by omega) rest
    have value := less.value (depth + 1) v plain.1 (by omega)
      (',' :: ([','].intercalate (l.items (depth + 1) (w :: ws)) ++ (l.gap depth ++ ']' :: rest)))
      (stops_cons (by decide) _)
    simp only [joined_items, List.append_assoc, List.cons_append]
    rw [parseItems_gap (l.gap_blank _)]
    exact parseItems_more value later

theorem members_step (less : ReadsBack l fuel) (depth : Nat) (m : String × Json)
    (ms : List (String × Json)) (plain : PlainMembers (m :: ms))
    (enough : 2 * ([','].intercalate (l.members (depth + 1) (m :: ms))).length ≤ fuel + 1)
    (rest : List Char) :
    parseMembers (fuel + 1) ([','].intercalate (l.members (depth + 1) (m :: ms)) ++
      (l.gap depth ++ '\x7d' :: rest)) = some (m :: ms, rest) := by
  have some_ := List.length_pos_iff.mpr (text_ne_nil l (depth + 1) plain.1)
  cases ms with
  | nil =>
    simp only [joined_member, List.length_append, List.length_cons] at enough
    have value := less.value (depth + 1) m.2 plain.1 (by omega) _
      (stops_closing (l.gap_blank depth) (.inr rfl) rest)
    simp only [joined_member, List.append_assoc, List.cons_append]
    rw [parseMembers_gap (l.gap_blank _)]
    exact parseMembers_last l.colonGap_blank (l.gap_blank depth) value
  | cons n ms =>
    simp only [joined_members, List.length_append, List.length_cons] at enough
    have later := less.members depth n ms plain.2 (by omega) rest
    have value := less.value (depth + 1) m.2 plain.1 (by omega)
      (',' :: ([','].intercalate (l.members (depth + 1) (n :: ms)) ++ (l.gap depth ++ '\x7d' :: rest)))
      (stops_cons (by decide) _)
    simp only [joined_members, List.append_assoc, List.cons_append]
    rw [parseMembers_gap (l.gap_blank _)]
    exact parseMembers_more l.colonGap_blank value later

end ReadsBack

theorem items_length_pos (l : Layout) (depth : Nat) {v : Json} (plain : v.Plain) (vs : List Json) :
    0 < ([','].intercalate (l.items depth (v :: vs))).length := by
  have some_ := List.length_pos_iff.mpr (text_ne_nil l depth plain)
  cases vs with
  | nil => rw [joined_item, List.length_append]; omega
  | cons w vs => rw [joined_items, List.length_append, List.length_append]; omega

theorem members_length_pos (l : Layout) (depth : Nat) (m : String × Json)
    (ms : List (String × Json)) : 0 < ([','].intercalate (l.members depth (m :: ms))).length := by
  cases ms with
  | nil => simp only [joined_member, List.length_append, List.length_cons]; omega
  | cons n ms => simp only [joined_members, List.length_append, List.length_cons]; omega

theorem readsBack (l : Layout) (fuel : Nat) : ReadsBack l fuel := by
  -- A step into an array or object takes two units of fuel and leaves a bracket behind on each side.
  induction fuel with
  | zero =>
    refine ⟨?_, ?_, ?_⟩
    · intro depth v plain enough
      have some_ := List.length_pos_iff.mpr (text_ne_nil l depth plain)
      omega
    · intro depth v vs plain enough
      have some_ := items_length_pos l (depth + 1) plain.1 vs
      omega
    · intro depth m ms plain enough
      have some_ := members_length_pos l (depth + 1) m ms
      omega
  | succ fuel less => exact ⟨less.value_step, less.items_step, less.members_step⟩

namespace Layout

def spread : Layout where
  gap depth := '\n' :: List.replicate (2 * depth) ' '
  colonGap := [' ']
  gap_blank := by simp [isSpace]
  colonGap_blank := by simp [isSpace]

def tight : Layout where
  gap _ := []
  colonGap := []
  gap_blank := by simp
  colonGap_blank := by simp

end Layout

theorem intercalate_lines (line : List Char) (lines : List (List Char)) :
    '\n' :: [',', '\n'].intercalate (line :: lines) =
      [','].intercalate ((line :: lines).map ('\n' :: ·)) := by
  induction lines generalizing line with
  | nil => simp
  | cons next lines ih => simpa using ih next

theorem block_toList (opening closing : Char) (depth : Nat) (lines : List String) :
    (block (String.singleton opening) (String.singleton closing) depth lines).toList =
      opening :: Layout.spread.enclosed depth (lines.map fun line => '\n' :: line.toList) ++
        [closing] := by
  cases lines with
  | nil => simp [block, Layout.enclosed]
  | cons line lines =>
    have breaks := intercalate_lines line.toList (lines.map String.toList)
    simp only [List.map_cons, List.map_map, Function.comp_def] at breaks
    simp [block, Layout.enclosed, ← breaks, indent, Layout.spread]

mutual

theorem prettyAt_toList (depth : Nat) : ∀ v : Json,
    (prettyAt depth v).toList = Layout.spread.text depth v
  | .null => rfl
  | .bool b => by cases b <;> rfl
  | .int n => rfl
  | .decimal text => rfl
  | .str s => rfl
  | .arr items => by
    rw [prettyAt, Layout.text, ← prettyItems_toList]
    exact block_toList '[' ']' depth _
  | .obj members => by
    rw [prettyAt, Layout.text, ← prettyMembers_toList]
    exact block_toList '\x7b' '\x7d' depth _

theorem prettyItems_toList (depth : Nat) : ∀ vs : List Json,
    (prettyItems depth vs).map (fun line => '\n' :: line.toList) = Layout.spread.items depth vs
  | [] => rfl
  | v :: vs => by
    simp [prettyItems, Layout.items, prettyAt_toList depth v, prettyItems_toList depth vs, indent,
      Layout.spread]

theorem prettyMembers_toList (depth : Nat) : ∀ ms : List (String × Json),
    (prettyMembers depth ms).map (fun line => '\n' :: line.toList) = Layout.spread.members depth ms
  | [] => rfl
  | (k, v) :: ms => by
    simp [prettyMembers, Layout.members, prettyAt_toList depth v, prettyMembers_toList depth ms,
      indent, Layout.spread]

end

theorem enclosed_tight (depth : Nat) (parts : List String) :
    Layout.tight.enclosed depth (parts.map String.toList) = (",".intercalate parts).toList := by
  cases parts with
  | nil => rfl
  | cons part parts => simp [Layout.enclosed, Layout.tight]

mutual

theorem compact_toList (depth : Nat) : ∀ v : Json, (compact v).toList = Layout.tight.text depth v
  | .null => rfl
  | .bool b => by cases b <;> rfl
  | .int n => rfl
  | .decimal text => rfl
  | .str s => rfl
  | .arr items => by
    rw [compact, Layout.text, ← compactItems_toList, enclosed_tight]
    simp
  | .obj members => by
    rw [compact, Layout.text, ← compactMembers_toList, enclosed_tight]
    simp

theorem compactItems_toList (depth : Nat) : ∀ vs : List Json,
    (compactItems vs).map String.toList = Layout.tight.items depth vs
  | [] => rfl
  | v :: vs => by
    simp [compactItems, Layout.items, compact_toList depth v, compactItems_toList depth vs,
      Layout.tight]

theorem compactMembers_toList (depth : Nat) : ∀ ms : List (String × Json),
    (compactMembers ms).map String.toList = Layout.tight.members depth ms
  | [] => rfl
  | (k, v) :: ms => by
    simp [compactMembers, Layout.members, compact_toList depth v, compactMembers_toList depth ms,
      Layout.tight]

end

theorem parse_text (l : Layout) (depth : Nat) {v : Json} (plain : v.Plain) :
    parse (String.ofList (l.text depth v)) = some v := by
  have value := (readsBack l (2 * (l.text depth v).length + 2)).value depth v plain (by omega) []
    stops_nil
  rw [List.append_nil] at value
  simp [parse, value]

theorem parse_pretty {v : Json} (plain : v.Plain) : parse v.pretty = some v := by
  rw [pretty, ← String.ofList_toList (s := prettyAt 0 v), prettyAt_toList]
  exact parse_text _ 0 plain

theorem parse_compact {v : Json} (plain : v.Plain) : parse v.compact = some v := by
  rw [← String.ofList_toList (s := v.compact), compact_toList 0]
  exact parse_text _ 0 plain

end SourceOutline.Json

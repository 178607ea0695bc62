import Mathlib.Data.List.Infix
import SourceOutline.Proofs.Bytes
import SourceOutline.Proofs.Extraction

/-! The names that a callable calls. The last segment of a qualified name is what follows its last separator;
the cut falls between two characters, whether it is searched among the characters or among the bytes. The
names that are called below a place are the last segments of the captured callees, each where it is called
first. -/
namespace SourceOutline

namespace Text

theorem bytes_append (s t : String) : bytes (s ++ t) = bytes s ++ bytes t := by
  simp [bytes_eq]

theorem length_bytes (s : String) : (bytes s).length = s.utf8ByteSize := rfl

theorem exists_append_of_starts {s front : String} (starts : bytes front <+: bytes s) :
    ∃ rest, s = front ++ rest := by
  obtain ⟨more, whole⟩ := starts
  have encoded : front.toList.utf8Encode ++ more.toByteArray = s.toList.utf8Encode := by
    rw [List.utf8Encode, List.utf8Encode, ← bytes_eq, ← bytes_eq, ← whole, List.toByteArray_append]
  obtain ⟨rest, chars⟩ := List.isPrefix_of_utf8Encode_append_eq_utf8Encode _ encoded
  refine ⟨String.ofList rest, ?_⟩
  rw [← String.toList_inj, String.toList_append, String.toList_ofList, chars]

/-- Where the bytes of a text occur among those of another one, the text itself occurs. -/
theorem exists_append_of_bytes {s part : String} {offset : Nat} (filled : part ≠ "")
    (occurs : bytes part <+: (bytes s).drop offset) :
    ∃ front rest, s = front ++ part ++ rest ∧ front.utf8ByteSize = offset := by
  have positive : 0 < (bytes part).length := by
    rw [length_bytes]
    exact Nat.pos_of_ne_zero fun none => filled (String.utf8ByteSize_eq_zero_iff.mp none)
  have room := occurs.length_le
  rw [List.length_drop] at room
  have inside : offset < (bytes s).length := by omega
  have first : s.getUTF8Byte ⟨offset⟩ inside = part.getUTF8Byte 0 positive := by
    change (bytes s)[offset] = (bytes part)[0]
    rw [occurs.getElem positive, List.getElem_drop]
    rfl
  -- The first byte of a text is never inside a character.
  have valid : String.Pos.Raw.IsValid s ⟨offset⟩ := by
    refine String.Pos.Raw.isValid_iff_isUTF8FirstByte.mpr (.inr ⟨inside, ?_⟩)
    rw [first]
    exact String.isUTF8FirstByte_getUTF8Byte_zero
  obtain ⟨front, back, rfl, start⟩ := String.Pos.Raw.isValid_iff_exists_append.mp valid
  have size : front.utf8ByteSize = offset := (congrArg String.Pos.Raw.byteIdx start).symm
  rw [bytes_append, List.drop_left' (by rw [length_bytes, size])] at occurs
  obtain ⟨rest, rfl⟩ := exists_append_of_starts occurs
  exact ⟨front, rest, String.append_assoc.symm, size⟩

def lastOffset? (part bytes : List UInt8) : Option Nat :=
  ((List.range (bytes.length + 1)).filter fun offset => part.isPrefixOf (bytes.drop offset)).max?

theorem exists_append_of_lastOffset? {s part : String} {offset : Nat} (filled : part ≠ "")
    (found : lastOffset? (bytes part) (bytes s) = some offset) :
    ∃ front rest, s = front ++ part ++ rest ∧ front.utf8ByteSize = offset := by
  have member := (List.max?_eq_some_iff.mp found).1
  exact exists_append_of_bytes filled (List.isPrefixOf_iff_prefix.mp (List.mem_filter.mp member).2)

theorem exists_lastOffset? (front part rest : String) :
    ∃ offset, lastOffset? (bytes part) (bytes (front ++ part ++ rest)) = some offset ∧
      front.utf8ByteSize ≤ offset := by
  have member : front.utf8ByteSize ∈ (List.range ((bytes (front ++ part ++ rest)).length + 1)).filter
      fun offset => (bytes part).isPrefixOf ((bytes (front ++ part ++ rest)).drop offset) := by
    rw [List.mem_filter, List.isPrefixOf_iff_prefix, List.mem_range, bytes_append, bytes_append,
      List.append_assoc, List.drop_left' (length_bytes front), List.length_append, length_bytes]
    exact ⟨by omega, List.prefix_append ..⟩
  obtain ⟨offset, found⟩ := Option.isSome_iff_exists.mp (List.isSome_max?_of_mem member)
  exact ⟨offset, found, (List.max?_eq_some_iff.mp found).2 _ member⟩

end Text

namespace Calls

def separators : List String := [".", "::", "->"]

/-- The text ends with a separator. -/
def Divided (cs : List Char) : Prop := ∃ sep ∈ separators, sep.toList <:+ cs

theorem separators_filled : ∀ sep ∈ separators, sep ≠ "" := by decide

theorem pair_suffix_concat {a b c : Char} {cs : List Char} :
    [a, b] <:+ cs ++ [c] ↔ cs.getLast? = some a ∧ c = b := by
  rw [List.suffix_concat_iff, ← List.singleton_suffix_iff_getLast?_eq_some]
  constructor
  · rintro (empty | ⟨t, pair, ends⟩)
    · cases empty
    · obtain ⟨rfl, last⟩ := List.append_inj' (show [a] ++ [b] = t ++ [c] from pair) rfl
      exact ⟨ends, (List.singleton_inj.mp last).symm⟩
  · rintro ⟨ends, rfl⟩
    exact .inr ⟨[a], rfl, ends⟩

theorem closesSeparator_iff {cs : List Char} {c : Char} :
    closesSeparator cs.getLast? c = true ↔ Divided (cs ++ [c]) := by
  have dot : ['.'] <:+ cs ++ [c] ↔ c = '.' := by
    simp [List.singleton_suffix_iff_getLast?_eq_some]
  have texts : ".".toList = ['.'] ∧ "::".toList = [':', ':'] ∧ "->".toList = ['-', '>'] := by decide
  simp [closesSeparator, Divided, separators, texts, dot, pair_suffix_concat, and_comm, or_assoc]

/-- The first of the two is the second up to the end of its last separator. -/
structure UpToLast (front cs : List Char) : Prop where
  starts : front <+: cs
  divided : front = [] ∨ Divided front
  last : ∀ other, other <+: cs → Divided other → other.length ≤ front.length

theorem UpToLast.concat {front cs : List Char} (upTo : UpToLast front cs) (c : Char) :
    UpToLast (if closesSeparator cs.getLast? c then cs ++ [c] else front) (cs ++ [c]) := by
  split
  · rename_i closes
    exact ⟨List.prefix_refl _, .inr (closesSeparator_iff.mp closes), fun other starts _ => starts.length_le⟩
  · rename_i open_
    refine ⟨upTo.starts.trans (List.prefix_append ..), upTo.divided, ?_⟩
    intro other starts divided
    rcases List.prefix_concat_iff.mp starts with rfl | before
    · exact absurd (closesSeparator_iff.mpr divided) open_
    · exact upTo.last other before divided

/-- Reading on from `cs`, whose last separator ends `front`, leads to the last separator of the whole. -/
theorem afterSeparators_upToLast {front cs best rest : List Char} (upTo : UpToLast front cs)
    (known : front ++ best = cs ++ rest) :
    ∃ pre, UpToLast pre (cs ++ rest) ∧ pre ++ afterSeparators best cs.getLast? rest = cs ++ rest := by
  -- All along, `front` and `best` make the whole text: a step moves characters from `best` to `front`.
  induction rest generalizing front cs best with
  | nil => exact ⟨front, by simpa using upTo, by simpa [afterSeparators] using known⟩
  | cons c rest ih =>
    have next := upTo.concat c
    rw [List.append_cons] at known ⊢
    have last : (cs ++ [c]).getLast? = some c := by simp
    rw [afterSeparators, ← last]
    split at next
    · rename_i closes
      rw [if_pos closes]
      exact ih next rfl
    · rename_i open_
      rw [if_neg open_]
      exact ih next known

theorem UpToLast.eq_nil {front cs : List Char} (upTo : UpToLast front cs)
    (undivided : ∀ sep ∈ separators, ¬ sep.toList <:+: cs) : front = [] := by
  rcases upTo.divided with empty | ⟨sep, known, ends⟩
  · exact empty
  · exact absurd (ends.isInfix.trans upTo.starts.isInfix) (undivided sep known)

theorem UpToLast.undivided {front rest : List Char} (upTo : UpToLast front (front ++ rest)) :
    ∀ sep ∈ separators, ¬ sep.toList <:+: rest := by
  rintro sep known ⟨before, after, inside⟩
  have later : front ++ before ++ sep.toList <+: front ++ rest := ⟨after, by simp [← inside]⟩
  have shorter := upTo.last _ later ⟨sep, known, List.suffix_append ..⟩
  have filled : sep.toList ≠ [] := by simpa using separators_filled sep known
  have positive := List.length_pos_of_ne_nil filled
  simp only [List.length_append] at shorter
  omega

/-- Where the separators end, each at its last place in the text. -/
def separatorEnds (text : String) : List Nat :=
  separators.filterMap fun sep =>
    (Text.lastOffset? (Text.bytes sep) (Text.bytes text)).map (· + sep.utf8ByteSize)

/-- The offset of the last segment: behind the separator that ends last, or at the start of the text. -/
def segmentOffset (text : String) : Nat := (separatorEnds text).max?.getD 0

theorem UpToLast.size_le {front : List Char} {before sep after : String}
    (upTo : UpToLast front (before ++ sep ++ after).toList) (known : sep ∈ separators) :
    before.utf8ByteSize + sep.utf8ByteSize ≤ (String.ofList front).utf8ByteSize := by
  -- A separator ends nowhere in the text behind the last one, in bytes too.
  have starts : (before ++ sep).toList <+: (before ++ sep ++ after).toList :=
    ⟨after.toList, String.toList_append.symm⟩
  have divided : Divided (before ++ sep).toList :=
    ⟨sep, known, before.toList, String.toList_append.symm⟩
  obtain ⟨more, rfl⟩ :=
    List.prefix_of_prefix_length_le starts upTo.starts (upTo.last _ starts divided)
  rw [String.ofList_append, String.ofList_toList, String.utf8ByteSize_append,
    String.utf8ByteSize_append]
  exact Nat.le_add_right ..

theorem UpToLast.le_of_mem {text : String} {front : List Char} (upTo : UpToLast front text.toList)
    {stop : Nat} (member : stop ∈ separatorEnds text) :
    0 < stop ∧ stop ≤ (String.ofList front).utf8ByteSize := by
  obtain ⟨sep, known, ends⟩ := List.mem_filterMap.mp member
  obtain ⟨offset, found, rfl⟩ := Option.map_eq_some_iff.mp ends
  have filled := separators_filled sep known
  obtain ⟨before, after, rfl, rfl⟩ := Text.exists_append_of_lastOffset? filled found
  have size : sep.utf8ByteSize ≠ 0 := fun none => filled (String.utf8ByteSize_eq_zero_iff.mp none)
  exact ⟨by omega, upTo.size_le known⟩

theorem UpToLast.mem_separatorEnds {text : String} {front : List Char}
    (upTo : UpToLast front text.toList) (divided : Divided front) :
    (String.ofList front).utf8ByteSize ∈ separatorEnds text := by
  obtain ⟨sep, known, before, split⟩ := divided
  obtain ⟨rest, whole⟩ := upTo.starts
  have here : text = String.ofList before ++ sep ++ String.ofList rest := by
    rw [← String.toList_inj, ← whole, ← split]
    simp
  have size : (String.ofList front).utf8ByteSize =
      (String.ofList before).utf8ByteSize + sep.utf8ByteSize := by
    rw [← split, String.ofList_append, String.utf8ByteSize_append, String.ofList_toList]
  obtain ⟨offset, found, after⟩ := Text.exists_lastOffset? (String.ofList before) sep (String.ofList rest)
  rw [← here] at found
  have member : offset + sep.utf8ByteSize ∈ separatorEnds text :=
    List.mem_filterMap.mpr ⟨sep, known, by rw [found]; rfl⟩
  have last : offset + sep.utf8ByteSize = (String.ofList front).utf8ByteSize := by
    have inside := upTo.le_of_mem member
    omega
  exact last ▸ member

/-- The search among the bytes cuts where the search among the characters does. -/
theorem UpToLast.segmentOffset_eq {text : String} {front : List Char}
    (upTo : UpToLast front text.toList) :
    segmentOffset text = (String.ofList front).utf8ByteSize := by
  rcases upTo.divided with rfl | divided
  · have none : separatorEnds text = [] := by
      rw [List.eq_nil_iff_forall_not_mem]
      intro stop member
      have inside := upTo.le_of_mem member
      rw [String.ofList_nil, String.utf8ByteSize_empty] at inside
      omega
    simp [segmentOffset, none]
  · have greatest : (separatorEnds text).max? = some (String.ofList front).utf8ByteSize :=
      List.max?_eq_some_iff.mpr
        ⟨upTo.mem_separatorEnds divided, fun stop ends => (upTo.le_of_mem ends).2⟩
    rw [segmentOffset, greatest]
    rfl

/-- What the last segment of a text is: it has no blank at an end and no separator in it. The text without
the blanks around it is a front and the segment, up to blanks; the front is empty or ends with a separator,
and its size is the offset that is found among the bytes. -/
structure IsLastSegment (text segment : String) : Prop where
  trimmed : Text.trim segment = segment
  undivided : ∀ sep ∈ separators, ¬ sep.toList <:+: segment.toList
  behind : ∃ front rest, Text.trim text = front ++ rest ∧ Text.trim rest = segment ∧
    (front = "" ∨ ∃ sep ∈ separators, sep.toList <:+ front.toList) ∧
    front.utf8ByteSize = segmentOffset (Text.trim text)

theorem finalSegment_eq (text : String) :
    ∃ front rest, UpToLast front (Text.trim text).toList ∧ front ++ rest = (Text.trim text).toList ∧
      finalSegment text = Text.trim (String.ofList rest) := by
  have trimmed : (Text.trim text).toList = Text.trimChars text.toList := String.toList_ofList
  have start : UpToLast [] [] := ⟨List.prefix_refl _, .inl rfl, fun _ starts _ => starts.length_le⟩
  obtain ⟨front, upTo, split⟩ := afterSeparators_upToLast start
    (show [] ++ Text.trimChars text.toList = [] ++ Text.trimChars text.toList from rfl)
  rw [List.nil_append, ← trimmed] at upTo split
  refine ⟨front, _, upTo, split, ?_⟩
  rw [Text.trim, String.toList_ofList, trimmed]
  rfl

theorem isInfix_trim (s : String) : (Text.trim s).toList <:+: s.toList := by
  rw [Text.trim, String.toList_ofList]
  exact (Text.trimRight_prefix _).isInfix.trans (List.dropWhile_suffix _).isInfix

theorem finalSegment_isLastSegment (text : String) : IsLastSegment text (finalSegment text) := by
  obtain ⟨front, rest, upTo, split, segment⟩ := finalSegment_eq text
  refine ⟨?_, ?_, String.ofList front, String.ofList rest, ?_, segment.symm, ?_,
    upTo.segmentOffset_eq.symm⟩
  · rw [segment, Text.trim_trim]
  · intro sep known inside
    have bare := (split ▸ upTo).undivided sep known
    rw [segment] at inside
    exact bare (String.toList_ofList (l := rest) ▸ inside.trans (isInfix_trim _))
  · rw [← String.ofList_append, split, String.ofList_toList]
  · rcases upTo.divided with rfl | ⟨sep, known, ends⟩
    · exact .inl rfl
    · exact .inr ⟨sep, known, by rwa [String.toList_ofList]⟩

theorem finalSegment_of_undivided {s : String} (trimmed : Text.trim s = s)
    (undivided : ∀ sep ∈ separators, ¬ sep.toList <:+: s.toList) : finalSegment s = s := by
  obtain ⟨front, rest, upTo, split, segment⟩ := finalSegment_eq s
  rw [trimmed] at upTo split
  rw [upTo.eq_nil undivided, List.nil_append] at split
  rw [segment, split, String.ofList_toList, trimmed]

theorem below_eq {language : Language} {q : Query} (given : language.calls = some q) (src : Source)
    (p : Place) : below language src p = firstPerKey id (called q src p) := by
  rw [below, given]

theorem mem_called {q : Query} {src : Source} {p : Place} {name : String} :
    name ∈ called q src p ↔ name ≠ "" ∧
      ∃ m ∈ q.run p, ∃ c ∈ m, c.name = "callee" ∧ finalSegment (src.text c.place) = name := by
  simp only [called, Match.allNamed, List.mem_filter, List.mem_map, List.mem_flatMap]
  constructor
  · rintro ⟨⟨place, ⟨m, listed, c, ⟨inside, callee⟩, rfl⟩, rfl⟩, filled⟩
    exact ⟨by simpa using filled, m, listed, c, inside, by simpa using callee, rfl⟩
  · rintro ⟨filled, m, listed, c, inside, callee, rfl⟩
    exact ⟨⟨c.place, ⟨m, listed, c, ⟨inside, by simpa using callee⟩, rfl⟩, rfl⟩, by simpa using filled⟩

theorem mem_below {language : Language} {q : Query} (given : language.calls = some q) {src : Source}
    {p : Place} {name : String} : name ∈ below language src p ↔ name ∈ called q src p := by
  rw [below_eq given]
  constructor
  · exact fun member => (firstPerKey_sublist id _).subset member
  · intro member
    obtain ⟨first, kept, same⟩ := exists_mem_firstPerKey id member
    exact (show first = name from same) ▸ kept

/-- The last segment of a text is what follows its last separator, and is its own last segment. What is
called below a place are the last segments of the callees that the query captures there, except empty ones;
each stands once, and they stand in the order in which they are first captured. No separator is in any of
them. -/
theorem below_last_segments :
    (∀ text, IsLastSegment text (finalSegment text) ∧
      finalSegment (finalSegment text) = finalSegment text) ∧
    ∀ (language : Language) (q : Query) (src : Source) (p : Place), language.calls = some q →
      (below language src p).Nodup ∧
      (∀ name, name ∈ below language src p ↔ name ≠ "" ∧
        ∃ m ∈ q.run p, ∃ c ∈ m, c.name = "callee" ∧ finalSegment (src.text c.place) = name) ∧
      (below language src p).Pairwise (fun a b =>
        (called q src p).idxOf a < (called q src p).idxOf b) ∧
      ∀ name ∈ below language src p, ∀ sep ∈ separators, ¬ sep.toList <:+: name.toList := by
  constructor
  · intro text
    have last := finalSegment_isLastSegment text
    exact ⟨last, finalSegment_of_undivided last.trimmed last.undivided⟩
  · intro language q src p given
    refine ⟨below_nodup language src p, ?_, ?_, ?_⟩
    · intro name
      rw [mem_below given, mem_called]
    · rw [below_eq given]
      simpa using firstPerKey_idxOf id (called q src p)
    · intro name member
      obtain ⟨_, m, _, c, _, _, rfl⟩ := mem_called.mp ((mem_below given).mp member)
      exact (finalSegment_isLastSegment (src.text c.place)).undivided

/-- One name qualified in two ways is called once, and a cut behind a character of two bytes is behind both
of them. -/
theorem below_last_segments_qualified :
    let node (kind : String) (field : Option String) (start stop : Nat) (children : List Node) : Node :=
      ⟨kind, field, ⟨start, stop⟩, true, false, false, false, children⟩
    let call (start stop : Nat) : Node :=
      node "call" none start (stop + 2) [node "path" (some "function") start stop []]
    let query : Query := ⟨[.kind "call" [.field "function" (Pattern.anyNamed.as "callee")]]⟩
    let language : Language := ⟨"paths", [], [], none, some query⟩
    let top : Place := .root (node "block" none 0 26 [call 0 4, call 7 8, call 11 16, call 19 24])
    let src := Source.ofText "a->b() c() x:::b() é. d()"
    language.calls = some query ∧
    called query src top = ["b", "c", "b", "d"] ∧ below language src top = ["b", "c", "d"] ∧
    ((below language src top).Nodup ∧ (below language src top).Pairwise fun a b =>
      (called query src top).idxOf a < (called query src top).idxOf b) ∧
    segmentOffset "é. d" = 3 ∧ IsLastSegment "é. d" "d" := by
  intro node call query language top src
  have given : language.calls = some query := rfl
  have run : query.run top = top.subtree.flatMap query.matchesAt := Query.run_of_sorted (by decide +kernel)
  have names : called query src top = ["b", "c", "b", "d"] := by
    rw [called, run]
    decide +kernel
  have distinct : below language src top = ["b", "c", "d"] := by
    rw [below_eq given, names]
    decide +kernel
  obtain ⟨once, _, order, _⟩ := below_last_segments.2 language query src top given
  have last : finalSegment "é. d" = "d" := by decide +kernel
  exact ⟨given, names, distinct, ⟨once, order⟩, by decide +kernel, last ▸ (below_last_segments.1 "é. d").1⟩

end Calls

end SourceOutline

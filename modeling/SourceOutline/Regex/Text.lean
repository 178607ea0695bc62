import SourceOutline.Regex
import SourceOutline.Text

/-! Regular expressions as text: what a pattern means, or that it means nothing. Look-around and
references to groups are not part of the notation. -/
namespace SourceOutline.Regex

structure Flags where
  ignoreCase : Bool := false
  multiLine : Bool := false
  dotAll : Bool := false
  swapGreed : Bool := false
  unicode : Bool := true
  crlf : Bool := false
  extended : Bool := false
deriving DecidableEq, Repr

structure State where
  rest : List Char
  flags : Flags
  names : List String

/-- An expression with its nesting depth. Flag settings are no operand for repetition. -/
structure Piece where
  regex : Regex
  depth : Nat
  operand : Bool

namespace State

def skipFrom : Bool → List Char → List Char
  | _, [] => []
  | inComment, c :: cs =>
    if inComment then skipFrom (c != '\n') cs
    else if Text.isBlank c then skipFrom false cs
    else if c = '#' then skipFrom true cs
    else c :: cs

def skip (st : State) : State :=
  if st.flags.extended then { st with rest := skipFrom false st.rest } else st

def at_ (st : State) (rest : List Char) : State := skip { st with rest }

end State

def isMeta (c : Char) : Bool := "\\.+*?()|[]\x7b\x7d^$#&-~".toList.contains c

def isEscapable (c : Char) : Bool :=
  isMeta c || (c.toNat < 128 && !c.isAlphanum && c != '<' && c != '>')

def isHex (c : Char) : Bool :=
  c.isDigit || ('a' ≤ c && c ≤ 'f') || ('A' ≤ c && c ≤ 'F')

def charOfHex? (digits : List Char) : Option Char :=
  if digits.isEmpty then none
  else
    let n := digits.foldl (fun n d => 16 * n + Unicode.hexValue d.toLower) 0
    if n.isValidChar then some (Char.ofNat n) else none

/-- What one escape or one plain character stands for. `raw` marks a byte written in hexadecimal. -/
inductive Atom where
  | literal (c : Char) (raw : Bool)
  | set (s : CharSet)
  | assertion (condition : Look)
  | dot

def hexDigits? : Nat → List Char → State → Option (List Char × State)
  | 0, read, st => some (read.reverse, st)
  | n + 1, read, st =>
    match st.rest with
    | c :: rest => if isHex c then hexDigits? n (c :: read) (st.at_ rest) else none
    | [] => none

def braced? : Nat → List Char → State → Option (List Char × List Char)
  | 0, _, _ => none
  | fuel + 1, read, st =>
    match st.rest with
    | '\x7d' :: rest => some (read.reverse, rest)
    | c :: rest => braced? fuel (c :: read) (st.at_ rest)
    | [] => none

def hexEscape? (digits : Nat) (st : State) : Option (Atom × State) :=
  match st.rest with
  | '\x7b' :: rest => do
    let inner := st.at_ rest
    let (ds, rest) ← braced? (inner.rest.length + 1) [] inner
    if ds.all isHex then
      let c ← charOfHex? ds
      return (.literal c false, st.at_ rest)
    else none
  | _ => do
    let (ds, st) ← hexDigits? digits [] st
    let c ← charOfHex? ds
    return (.literal c (digits == 2), st)

def cutAt? (mark : List Char) : List Char → Option (List Char × List Char)
  | [] => none
  | c :: cs =>
    match Text.afterHead? mark (c :: cs) with
    | some after => some ([], after)
    | none => (cutAt? mark cs).map fun (before, after) => (c :: before, after)

/-- The set that a property between braces names, and whether it is to be negated. -/
def propertySet? (text : List Char) : Option (CharSet × Bool) :=
  match cutAt? ['!', '='] text with
  | some (p, v) => (Unicode.valued? (String.ofList p) (String.ofList v)).map (·, true)
  | none =>
    match cutAt? [':'] text <|> cutAt? ['='] text with
    | some (p, v) => (Unicode.valued? (String.ofList p) (String.ofList v)).map (·, false)
    | none => (Unicode.named? (String.ofList text)).map (·, false)

/-- Adds the other cases, if the flags ask for them, and then takes the complement. -/
def foldAndNegate (flags : Flags) (negated : Bool) (s : CharSet) : CharSet :=
  let folded :=
    if flags.ignoreCase then if flags.unicode then Unicode.foldCase s else Unicode.foldAscii s
    else s
  if negated then folded.complement else folded

/-- A set is allowed unless it is a set of bytes that are no characters by themselves. -/
def allowed? (flags : Flags) (s : CharSet) : Option CharSet :=
  if flags.unicode || s.isAscii then some s else none

def unicodeClass? (negated : Bool) (st : State) : Option (Atom × State) :=
  if !st.flags.unicode then none
  else
    match st.rest with
    | '\x7b' :: rest => do
      let inner := st.at_ rest
      let (text, rest) ← braced? (inner.rest.length + 1) [] inner
      let (s, flipped) ← propertySet? text
      return (.set (foldAndNegate st.flags (negated != flipped) s), { st with rest })
    | '\\' :: _ => none
    | c :: rest => do
      let (s, _) ← propertySet? [c]
      return (.set (foldAndNegate st.flags negated s), st.at_ rest)
    | [] => none

def asciiDigit : CharSet := ⟨[(48, 57)]⟩

def asciiSpace : CharSet := ⟨[(9, 13), (32, 32)]⟩

def shorthandSet? (flags : Flags) (c : Char) : Option CharSet :=
  let pick (unicode ascii : CharSet) : CharSet := if flags.unicode then unicode else ascii
  match c.toLower with
  | 'd' => allowed? flags (foldNot c (pick Unicode.decimal asciiDigit))
  | 's' => allowed? flags (foldNot c (pick Unicode.space asciiSpace))
  | 'w' => allowed? flags (foldNot c (pick Unicode.word Look.asciiWord))
  | _ => none
where
  foldNot (c : Char) (s : CharSet) : CharSet := if c.isUpper then s.complement else s

/-- A word boundary may name its sort between braces; other braces are a repetition. -/
def boundary? (st : State) : Option (Atom × State) :=
  let u := st.flags.unicode
  let plain : Atom × State := (.assertion (.wordBoundary u), st)
  let isNameChar (c : Char) : Bool := c.isAlpha || c == '-'
  match st.rest with
  | '\x7b' :: rest =>
    let inner := st.at_ rest
    match inner.rest with
    | [] => none
    | c :: _ =>
      if !isNameChar c then some plain
      else do
        let (name, rest) ← braced? (inner.rest.length + 1) [] inner
        let condition ← match String.ofList name with
          | "start" => some (Look.wordStart u)
          | "end" => some (Look.wordEnd u)
          | "start-half" => some (Look.wordStartHalf u)
          | "end-half" => some (Look.wordEndHalf u)
          | _ => none
        return (.assertion condition, { st with rest })
  | _ => some plain

def escape? (st : State) : Option (Atom × State) :=
  match st.rest with
  | [] => none
  | c :: rest =>
    let next : State := { st with rest }
    let spaced : State := st.at_ rest
    let plain (c : Char) : Option (Atom × State) := some (.literal c false, next)
    let hex (digits : Nat) : Option (Atom × State) :=
      if spaced.rest.isEmpty then none else hexEscape? digits spaced
    match c with
    | 'x' => hex 2
    | 'u' => hex 4
    | 'U' => hex 8
    | 'p' => unicodeClass? false spaced
    | 'P' => unicodeClass? true spaced
    | 'd' | 's' | 'w' | 'D' | 'S' | 'W' =>
      (shorthandSet? st.flags c).map fun s => (.set s, next)
    | 'a' => plain '\x07'
    | 'f' => plain '\x0c'
    | 't' => plain '\t'
    | 'n' => plain '\n'
    | 'r' => plain '\r'
    | 'v' => plain '\x0b'
    | 'A' => some (.assertion .textStart, next)
    | 'z' => some (.assertion .textEnd, next)
    | 'b' => boundary? next
    | 'B' => some (.assertion (.notWordBoundary st.flags.unicode), next)
    | '<' => some (.assertion (.wordStart st.flags.unicode), next)
    | '>' => some (.assertion (.wordEnd st.flags.unicode), next)
    | c => if isEscapable c then plain c else none

def literalSet? (flags : Flags) (c : Char) (raw : Bool) : Option CharSet :=
  if !flags.unicode && raw && c.toNat ≥ 128 then none
  else if !flags.ignoreCase then some (.single c)
  else if flags.unicode then some (Unicode.foldCase (.single c))
  else if c.toNat ≥ 128 then none
  else some (Unicode.foldAscii (.single c))

def asciiClasses : List (String × List (Nat × Nat)) := [
  ("alnum", [(48, 57), (65, 90), (97, 122)]),
  ("alpha", [(65, 90), (97, 122)]),
  ("ascii", [(0, 127)]),
  ("blank", [(9, 9), (32, 32)]),
  ("cntrl", [(0, 31), (127, 127)]),
  ("digit", [(48, 57)]),
  ("graph", [(33, 126)]),
  ("lower", [(97, 122)]),
  ("print", [(32, 126)]),
  ("punct", [(33, 47), (58, 64), (91, 96), (123, 126)]),
  ("space", [(9, 13), (32, 32)]),
  ("upper", [(65, 90)]),
  ("word", [(48, 57), (65, 90), (95, 95), (97, 122)]),
  ("xdigit", [(48, 57), (65, 70), (97, 102)])]

def asciiClass? (flags : Flags) (cs : List Char) : Option (CharSet × List Char) := do
  let inner ← Text.afterHead? ['[', ':'] cs
  let (negated, inner) := match inner with
    | '^' :: rest => (true, rest)
    | _ => (false, inner)
  let name := inner.takeWhile (· != ':')
  let rest ← Text.afterHead? [':', ']'] (inner.dropWhile (· != ':'))
  let ranges ← asciiClasses.lookup (String.ofList name)
  return (foldAndNegate flags negated ⟨ranges⟩, rest)

inductive SetOp where
  | inter | diff | symmDiff
deriving DecidableEq, Repr

def setOp? : List Char → Option (SetOp × List Char)
  | '&' :: '&' :: rest => some (.inter, rest)
  | '-' :: '-' :: rest => some (.diff, rest)
  | '~' :: '~' :: rest => some (.symmDiff, rest)
  | _ => none

/-- A class under construction: the items of the current operand, and what stands to the left of it
with its operator. -/
structure ClassBuild where
  items : CharSet
  count : Nat
  left : Option (CharSet × SetOp)
  depth : Nat

namespace ClassBuild

def add (b : ClassBuild) (s : CharSet) : ClassBuild :=
  { b with items := b.items.union s, count := b.count + 1 }

def value (flags : Flags) (b : ClassBuild) : CharSet :=
  match b.left with
  | none => b.items
  | some (lhs, op) =>
    let lhs := foldAndNegate flags false lhs
    let rhs := foldAndNegate flags false b.items
    match op with
    | .inter => lhs.inter rhs
    | .diff => lhs.diff rhs
    | .symmDiff => lhs.symmDiff rhs

def push (flags : Flags) (b : ClassBuild) (op : SetOp) : ClassBuild :=
  { items := .empty, count := 0, left := some (b.value flags, op), depth := b.depth + 1 }

end ClassBuild

def classItem? (st : State) : Option (Atom × State) :=
  match st.rest with
  | '\\' :: rest => escape? { st with rest }
  | c :: rest => some (.literal c false, { st with rest })
  | [] => none

/-- A class holds characters and sets, and no bytes above ASCII when it is a class of bytes. -/
def itemSet? (flags : Flags) : Atom → Option CharSet
  | .literal c _ => allowed? flags (.single c)
  | .set s => some s
  | _ => none

/-- Hyphens at the front of a class stand for themselves. -/
def leadingHyphens : Nat → State → ClassBuild → State × ClassBuild
  | 0, st, b => (st, b)
  | fuel + 1, st, b =>
    match st.rest with
    | '-' :: rest => leadingHyphens fuel (st.at_ rest) (b.add (.single '-'))
    | _ => (st, b)

def classRange? (st : State) : Option (CharSet × State) := do
  let (first, st) ← classItem? st
  let st := st.skip
  match st.rest with
  | '-' :: rest =>
    let after := st.at_ rest
    match after.rest with
    | ']' :: _ | '-' :: _ => return (← itemSet? st.flags first, st)
    | _ =>
      let (last, st) ← classItem? after
      match first, last with
      | .literal a _, .literal b _ =>
        if a.toNat ≤ b.toNat then return (← allowed? st.flags (.range a b), st) else none
      | _, _ => none
  | [] => none
  | _ => return (← itemSet? st.flags first, st)

mutual

def class? : Nat → State → Option (CharSet × Nat × State)
  | 0, _ => none
  | fuel + 1, st =>
    let st := st.skip
    let (negated, st) := match st.rest with
      | '^' :: rest => (true, st.at_ rest)
      | _ => (false, st)
    let (st, b) := leadingHyphens (st.rest.length + 1) st ⟨.empty, 0, none, 0⟩
    let (st, b) := match b.count, st.rest with
      | 0, ']' :: rest => (st.at_ rest, b.add (.single ']'))
      | _, _ => (st, b)
    match classBody? fuel st b with
    | none => none
    | some (b, st) => do
      let s ← allowed? st.flags (foldAndNegate st.flags negated (b.value st.flags))
      return (s, b.depth + 1 + (if b.count > 1 then 1 else 0), st)

def classBody? : Nat → State → ClassBuild → Option (ClassBuild × State)
  | 0, _, _ => none
  | fuel + 1, st, b =>
    let st := st.skip
    match st.rest with
    | [] => none
    | ']' :: rest => some (b, { st with rest })
    | '[' :: rest =>
      match asciiClass? st.flags st.rest with
      | some (s, rest) => classBody? fuel { st with rest } (b.add s)
      | none =>
        match class? fuel (st.at_ rest) with
        | none => none
        | some (s, depth, st) =>
          classBody? fuel st { b.add s with depth := max b.depth (depth + 1) }
    | cs =>
      match setOp? cs with
      | some (op, rest) => classBody? fuel { st with rest } (b.push st.flags op)
      | none =>
        match classRange? st with
        | none => none
        | some (s, st) => classBody? fuel st (b.add s)

end

def Flags.set? (f : Flags) (on : Bool) : Char → Option Flags
  | 'i' => some { f with ignoreCase := on }
  | 'm' => some { f with multiLine := on }
  | 's' => some { f with dotAll := on }
  | 'U' => some { f with swapGreed := on }
  | 'u' => some { f with unicode := on }
  | 'R' => some { f with crlf := on }
  | 'x' => some { f with extended := on }
  | _ => none

/-- The flags up to a colon or a closing parenthesis: each at most once, one minus sign at most, and
a flag after it. Gives the characters read, the flags and the rest from the end mark on. -/
def flags? : (read : List Char) → Flags → List Char → Option (List Char × Flags × List Char)
  | _, _, [] => none
  | read, f, c :: rest =>
    if c = ':' ∨ c = ')' then
      if read.head? = some '-' then none else some (read, f, c :: rest)
    else if read.contains c then none
    else if c = '-' then flags? (c :: read) f rest
    else
      match f.set? (!read.contains '-') c with
      | some f => flags? (c :: read) f rest
      | none => none

def isNameChar (first : Bool) (c : Char) : Bool :=
  c == '_' || Unicode.alphabetic.contains c ||
    (!first && (c == '.' || c == '[' || c == ']' || Unicode.numeric.contains c))

def groupName? (cs : List Char) : Option (String × List Char) :=
  let name := cs.takeWhile (· != '>')
  match cs.dropWhile (· != '>') with
  | '>' :: rest =>
    match name with
    | [] => none
    | first :: others =>
      if isNameChar true first && others.all (isNameChar false) then
        some (String.ofList name, rest)
      else none
  | _ => none

def atomPiece? (flags : Flags) : Atom → Option Piece
  | .literal c raw => (literalSet? flags c raw).map fun s => ⟨.chars s, 0, true⟩
  | .set s => some ⟨.chars s, 0, true⟩
  | .assertion condition => some ⟨.look condition, 0, true⟩
  | .dot =>
    if !flags.unicode then none
    else if flags.dotAll then some ⟨.chars .full, 0, true⟩
    else
      let breaks := if flags.crlf then ⟨[(10, 10), (13, 13)]⟩ else CharSet.single '\n'
      some ⟨.chars breaks.complement, 0, true⟩

def startLook (flags : Flags) : Look :=
  if flags.multiLine then if flags.crlf then .crlfLineStart else .lineStart else .textStart

def endLook (flags : Flags) : Look :=
  if flags.multiLine then if flags.crlf then .crlfLineEnd else .lineEnd else .textEnd

def concat : List Piece → Piece
  | [] => ⟨.empty, 0, false⟩
  | [p] => p
  | ps =>
    ⟨ps.foldl (fun r p => .seq p.regex r) .empty, ps.foldl (fun d p => max d p.depth) 0 + 1, true⟩

def alternate : List Piece → Piece
  | [] => ⟨.empty, 0, false⟩
  | [p] => p
  | p :: ps =>
    ⟨ps.foldl (fun r q => .alt q.regex r) p.regex, ps.foldl (fun d q => max d q.depth) p.depth + 1,
      true⟩

def repeatLast? (least : Nat) (most : Option Nat) : List Piece → Option (List Piece)
  | p :: ps => if p.operand then some (⟨.rep least most p.regex, p.depth + 1, true⟩ :: ps) else none
  | [] => none

/-- A mark for the other greed after a repetition changes nothing about what matches. -/
def skipLazy (st : State) : State :=
  match st.rest with
  | '?' :: rest => { st with rest }
  | _ => st

def dropBlanks (st : State) : State := { st with rest := Text.trimLeft st.rest }

/-- The digits of a count; blanks may stand around it. -/
def countDigits : Nat → List Char → State → List Char × State
  | 0, read, st => (read.reverse, st)
  | fuel + 1, read, st =>
    match st.rest with
    | c :: rest => if c.isDigit then countDigits fuel (c :: read) (st.at_ rest) else (read.reverse, st)
    | [] => (read.reverse, st)

/-- A count of at most 32 bits, none if there are no digits. -/
def count? (st : State) : Option (Option Nat × State) :=
  let st := dropBlanks st
  let (digits, st) := countDigits (st.rest.length + 1) [] st
  let st := (dropBlanks st).skip
  if digits.isEmpty then some (none, st)
  else
    let n := digits.foldl (fun n d => 10 * n + (d.toNat - '0'.toNat)) 0
    if n < 0x100000000 then some (some n, st) else none

def bounds? (st : State) : Option (Nat × Option Nat × State) := do
  let (least?, st) ← count? st
  let least ← least?
  match st.rest with
  | ',' :: rest =>
    let st := st.at_ rest
    match st.rest with
    | '\x7d' :: rest => return (least, none, st.at_ rest)
    | _ =>
      let (most?, st) ← count? st
      let most ← most?
      match st.rest with
      | '\x7d' :: rest => if least ≤ most then return (least, some most, st.at_ rest) else none
      | _ => none
  | '\x7d' :: rest => return (least, some least, st.at_ rest)
  | _ => none

inductive Opening where
  | setFlags (flags : Flags)
  | group (captures : Bool) (flags : Flags) (names : List String)

def opening? (st : State) : Option (Opening × List Char) :=
  let st := st.skip
  let named (rest : List Char) : Option (Opening × List Char) := do
    let (name, rest) ← groupName? rest
    if st.names.contains name then none else return (.group true st.flags (name :: st.names), rest)
  match st.rest with
  | '?' :: '=' :: _ | '?' :: '!' :: _ | '?' :: '<' :: '=' :: _ | '?' :: '<' :: '!' :: _ => none
  | '?' :: 'P' :: '<' :: rest => named rest
  | '?' :: '<' :: rest => named rest
  | '?' :: rest => do
    let (read, flags, rest) ← flags? [] st.flags rest
    match rest with
    | ')' :: rest => if read.isEmpty then none else return (.setFlags flags, rest)
    | ':' :: rest => return (.group false flags st.names, rest)
    | _ => none
  | rest => some (.group true st.flags st.names, rest)

/-- Reads branches up to a closing parenthesis or the end; `branches` and `current` hold what has been
read, last first. -/
def branches? : Nat → State → List Piece → List Piece → Option (Piece × State)
  | 0, _, _, _ => none
  | fuel + 1, st, branches, current =>
    let st := st.skip
    match st.rest with
    | [] | ')' :: _ => some (alternate (concat current :: branches), st)
    | '|' :: rest => branches? fuel { st with rest } (concat current :: branches) []
    | '(' :: rest =>
      match opening? { st with rest } with
      | none => none
      | some (.setFlags flags, rest) =>
        branches? fuel { st with rest, flags } branches (⟨.empty, 0, false⟩ :: current)
      | some (.group captures flags names, rest) =>
        match branches? fuel ⟨rest, flags, names⟩ [] [] with
        | none => none
        | some (inner, after) =>
          match after.rest with
          | ')' :: rest =>
            let regex := if captures then .capture inner.regex else inner.regex
            branches? fuel ⟨rest, st.flags, after.names⟩ branches
              (⟨regex, inner.depth + 1, true⟩ :: current)
          | _ => none
    | '[' :: rest =>
      match class? fuel (st.at_ rest) with
      | none => none
      | some (s, depth, st) => branches? fuel st branches (⟨.chars s, depth, true⟩ :: current)
    | '?' :: rest =>
      match repeatLast? 0 (some 1) current with
      | none => none
      | some current => branches? fuel (skipLazy { st with rest }) branches current
    | '*' :: rest =>
      match repeatLast? 0 none current with
      | none => none
      | some current => branches? fuel (skipLazy { st with rest }) branches current
    | '+' :: rest =>
      match repeatLast? 1 none current with
      | none => none
      | some current => branches? fuel (skipLazy { st with rest }) branches current
    | '\x7b' :: rest =>
      match bounds? (st.at_ rest) with
      | none => none
      | some (least, most, st) =>
        match repeatLast? least most current with
        | none => none
        | some current => branches? fuel (skipLazy st) branches current
    | '.' :: rest => primitive fuel st.flags (some (.dot, { st with rest })) branches current
    | '^' :: rest =>
      primitive fuel st.flags (some (.assertion (startLook st.flags), { st with rest })) branches
        current
    | '$' :: rest =>
      primitive fuel st.flags (some (.assertion (endLook st.flags), { st with rest })) branches
        current
    | '\\' :: rest => primitive fuel st.flags (escape? { st with rest }) branches current
    | c :: rest => primitive fuel st.flags (some (.literal c false, { st with rest })) branches current
where
  primitive (fuel : Nat) (flags : Flags) (atom : Option (Atom × State))
      (branches current : List Piece) : Option (Piece × State) :=
    match atom with
    | none => none
    | some (a, st) =>
      match atomPiece? flags a with
      | none => none
      | some p => branches? fuel st branches (p :: current)

/-- The expression that a pattern denotes; none if it breaks the rules of the notation, nests too deep
or repeats too much. -/
def ofText? (pattern : String) : Option Regex :=
  let cs := pattern.toList
  match branches? (2 * cs.length + 2) ⟨cs, {}, []⟩ [] [] with
  | some (p, st) =>
    if st.rest.isEmpty && p.depth ≤ depthLimit && p.regex.size ≤ sizeLimit then some p.regex
    else none
  | none => none

end SourceOutline.Regex

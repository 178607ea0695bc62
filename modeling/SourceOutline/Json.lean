/-! JSON values, their text and the reader of that text. -/
namespace SourceOutline

/-- Members stay in the order in which they are written. `decimal` keeps the text of a number that
has a fraction or an exponent, or is a negative zero. -/
inductive Json where
  | null
  | bool (b : Bool)
  | int (n : Int)
  | decimal (text : String)
  | str (s : String)
  | arr (items : List Json)
  | obj (members : List (String × Json))
deriving Repr, Inhabited

namespace Json

def nat (n : Nat) : Json := .int n

def hexDigit (n : Nat) : Char := (Nat.toDigits 16 (n % 16)).headD '0'

def escapeChar (c : Char) : List Char :=
  if c = '"' then ['\\', '"']
  else if c = '\\' then ['\\', '\\']
  else if c = '\x08' then ['\\', 'b']
  else if c = '\x0c' then ['\\', 'f']
  else if c = '\n' then ['\\', 'n']
  else if c = '\r' then ['\\', 'r']
  else if c = '\t' then ['\\', 't']
  else if c.toNat < 0x20 then
    ['\\', 'u', '0', '0', hexDigit (c.toNat / 16), hexDigit c.toNat]
  else [c]

def quote (s : String) : String := String.ofList ('"' :: s.toList.flatMap escapeChar ++ ['"'])

def indent (depth : Nat) : String := String.ofList (List.replicate (2 * depth) ' ')

def block (opening closing : String) (depth : Nat) : List String → String
  | [] => opening ++ closing
  | line :: lines =>
    opening ++ "\n" ++ ",\n".intercalate (line :: lines) ++ "\n" ++ indent depth ++ closing

mutual

/-- The text of a value with two spaces per level and one item or member per line. -/
def prettyAt (depth : Nat) : Json → String
  | null => "null"
  | bool b => if b then "true" else "false"
  | int n => toString n
  | decimal text => text
  | str s => quote s
  | arr items => block "[" "]" depth (prettyItems (depth + 1) items)
  | obj members => block "\x7b" "\x7d" depth (prettyMembers (depth + 1) members)

def prettyItems (depth : Nat) : List Json → List String
  | [] => []
  | v :: vs => (indent depth ++ prettyAt depth v) :: prettyItems depth vs

def prettyMembers (depth : Nat) : List (String × Json) → List String
  | [] => []
  | (k, v) :: ms =>
    (indent depth ++ quote k ++ ": " ++ prettyAt depth v) :: prettyMembers depth ms

end

def pretty (v : Json) : String := prettyAt 0 v

mutual

def compact : Json → String
  | null => "null"
  | bool b => if b then "true" else "false"
  | int n => toString n
  | decimal text => text
  | str s => quote s
  | arr items => "[" ++ ",".intercalate (compactItems items) ++ "]"
  | obj members => "\x7b" ++ ",".intercalate (compactMembers members) ++ "\x7d"

def compactItems : List Json → List String
  | [] => []
  | v :: vs => compact v :: compactItems vs

def compactMembers : List (String × Json) → List String
  | [] => []
  | (k, v) :: ms => (quote k ++ ":" ++ compact v) :: compactMembers ms

end

def isSpace (c : Char) : Bool := c = ' ' || c = '\t' || c = '\n' || c = '\r'

def hexValue? (c : Char) : Option Nat :=
  if '0' ≤ c ∧ c ≤ '9' then some (c.toNat - '0'.toNat)
  else if 'a' ≤ c ∧ c ≤ 'f' then some (c.toNat - 'a'.toNat + 10)
  else if 'A' ≤ c ∧ c ≤ 'F' then some (c.toNat - 'A'.toNat + 10)
  else none

def hex4? (a b c d : Char) : Option Nat := do
  return (← hexValue? a) * 4096 + (← hexValue? b) * 256 + (← hexValue? c) * 16 + (← hexValue? d)

def unescape? : Char → Option Char
  | '"' => some '"'
  | '\\' => some '\\'
  | '/' => some '/'
  | 'b' => some '\x08'
  | 'f' => some '\x0c'
  | 'n' => some '\n'
  | 'r' => some '\r'
  | 't' => some '\t'
  | _ => none

/-- Reads the inside of a string up to its closing quote; `read` holds the characters so far, last
first. Surrogates count only in pairs. -/
def parseChars (read : List Char) : List Char → Option (String × List Char)
  | '"' :: rest => some (String.ofList read.reverse, rest)
  | '\\' :: 'u' :: a :: b :: c :: d :: '\\' :: 'u' :: a' :: b' :: c' :: d' :: rest =>
    match hex4? a b c d with
    | none => none
    | some high =>
      if 0xD800 ≤ high ∧ high < 0xDC00 then
        match hex4? a' b' c' d' with
        | none => none
        | some low =>
          if 0xDC00 ≤ low ∧ low < 0xE000 then
            parseChars (Char.ofNat (0x10000 + (high - 0xD800) * 0x400 + (low - 0xDC00)) :: read) rest
          else none
      else if 0xDC00 ≤ high ∧ high < 0xE000 then none
      else parseChars (Char.ofNat high :: read) ('\\' :: 'u' :: a' :: b' :: c' :: d' :: rest)
  | '\\' :: 'u' :: a :: b :: c :: d :: rest =>
    match hex4? a b c d with
    | none => none
    | some n =>
      if 0xD800 ≤ n ∧ n < 0xE000 then none else parseChars (Char.ofNat n :: read) rest
  | '\\' :: e :: rest =>
    match unescape? e with
    | none => none
    | some c => parseChars (c :: read) rest
  | c :: rest => if c = '\\' ∨ c.toNat < 0x20 then none else parseChars (c :: read) rest
  | [] => none

def digitsValue (ds : List Char) : Nat := ds.foldl (fun n d => 10 * n + (d.toNat - '0'.toNat)) 0

def parseTail (marks : List Char) (signs : List Char) (cs : List Char) :
    Option (List Char × List Char) :=
  match cs with
  | m :: rest =>
    if marks.contains m then
      let (sign, rest) := match rest with
        | s :: after => if signs.contains s then ([s], after) else ([], rest)
        | [] => ([], rest)
      let digits := rest.takeWhile Char.isDigit
      if digits.isEmpty then none
      else some (m :: sign ++ digits, rest.dropWhile Char.isDigit)
    else some ([], cs)
  | [] => some ([], cs)

def parseNumber (negative : Bool) (cs : List Char) : Option (Json × List Char) :=
  let digits := cs.takeWhile Char.isDigit
  if digits.isEmpty || (digits.length > 1 && digits.head? == some '0') then none
  else
    match parseTail ['.'] [] (cs.dropWhile Char.isDigit) with
    | none => none
    | some (fraction, rest) =>
      match parseTail ['e', 'E'] ['+', '-'] rest with
      | none => none
      | some (exponent, rest) =>
        let n := digitsValue digits
        if fraction.isEmpty && exponent.isEmpty && !(negative && n == 0) then
          some (.int (if negative then -(n : Int) else n), rest)
        else
          let sign := if negative then ['-'] else []
          some (.decimal (String.ofList (sign ++ digits ++ fraction ++ exponent)), rest)

mutual

/-- Reads one value from the front; `fuel` bounds the number of values and separators. -/
def parseValue : Nat → List Char → Option (Json × List Char)
  | 0, _ => none
  | fuel + 1, cs =>
    match cs.dropWhile isSpace with
    | 'n' :: 'u' :: 'l' :: 'l' :: rest => some (.null, rest)
    | 't' :: 'r' :: 'u' :: 'e' :: rest => some (.bool true, rest)
    | 'f' :: 'a' :: 'l' :: 's' :: 'e' :: rest => some (.bool false, rest)
    | '"' :: rest => (parseChars [] rest).map fun (s, rest) => (.str s, rest)
    | '-' :: rest => parseNumber true rest
    | '[' :: rest =>
      match rest.dropWhile isSpace with
      | ']' :: rest => some (.arr [], rest)
      | rest => (parseItems fuel rest).map fun (items, rest) => (.arr items, rest)
    | '\x7b' :: rest =>
      match rest.dropWhile isSpace with
      | '\x7d' :: rest => some (.obj [], rest)
      | rest => (parseMembers fuel rest).map fun (members, rest) => (.obj members, rest)
    | c :: rest => if c.isDigit then parseNumber false (c :: rest) else none
    | [] => none

def parseItems : Nat → List Char → Option (List Json × List Char)
  | 0, _ => none
  | fuel + 1, cs =>
    match parseValue fuel cs with
    | none => none
    | some (v, rest) =>
      match rest.dropWhile isSpace with
      | ']' :: rest => some ([v], rest)
      | ',' :: rest => (parseItems fuel rest).map fun (vs, rest) => (v :: vs, rest)
      | _ => none

def parseMembers : Nat → List Char → Option (List (String × Json) × List Char)
  | 0, _ => none
  | fuel + 1, cs =>
    match cs.dropWhile isSpace with
    | '"' :: rest =>
      match parseChars [] rest with
      | none => none
      | some (key, rest) =>
        match rest.dropWhile isSpace with
        | ':' :: rest =>
          match parseValue fuel rest with
          | none => none
          | some (v, rest) =>
            match rest.dropWhile isSpace with
            | '\x7d' :: rest => some ([(key, v)], rest)
            | ',' :: rest => (parseMembers fuel rest).map fun (ms, rest) => ((key, v) :: ms, rest)
            | _ => none
        | _ => none
    | _ => none

end

def parse (s : String) : Option Json :=
  let cs := s.toList
  match parseValue (2 * cs.length + 2) cs with
  | some (v, rest) => if rest.all isSpace then some v else none
  | none => none

/-- The value of the last member with this key. -/
def member? (key : String) : Json → Option Json
  | obj members => (members.findRev? (·.1 == key)).map (·.2)
  | _ => none

def toStr? : Json → Option String
  | str s => some s
  | _ => none

def toArr? : Json → Option (List Json)
  | arr items => some items
  | _ => none

def toObj? : Json → Option (List (String × Json))
  | obj members => some members
  | _ => none

def toNatBelow? (bound : Nat) : Json → Option Nat
  | int (.ofNat n) => if n < bound then some n else none
  | _ => none

def toNat64? : Json → Option Nat := toNatBelow? 0x10000000000000000

def toNat32? : Json → Option Nat := toNatBelow? 0x100000000

def toListOf? (read : Json → Option α) (v : Json) : Option (List α) := do
  (← v.toArr?).mapM read

def toStrs? : Json → Option (List String) := toListOf? toStr?

end Json

end SourceOutline

import SourceOutline.Query

/-! Queries as text: a node in parentheses, a wildcard as an underscore, alternatives in brackets, a
field with a colon before a child, a question mark after an optional child, captures after an at
sign. -/
namespace SourceOutline.Query

inductive Token where
  | opening | closing | openingAlternatives | closingAlternatives | optional
  | word (text : String)
  | field (name : String)
  | capture (name : String)
deriving DecidableEq, Repr

def isWordChar (c : Char) : Bool := c.isAlphanum || c == '_' || c == '-' || c == '.'

/-- The tokens of a text; a semicolon starts a comment up to the end of the line. -/
def tokens? : Nat → List Char → Option (List Token)
  | 0, _ => none
  | _, [] => some []
  | fuel + 1, c :: cs =>
    if Text.isBlank c then tokens? fuel cs
    else if c = ';' then tokens? fuel (cs.dropWhile (· != '\n'))
    else if c = '(' then (tokens? fuel cs).map (.opening :: ·)
    else if c = ')' then (tokens? fuel cs).map (.closing :: ·)
    else if c = '[' then (tokens? fuel cs).map (.openingAlternatives :: ·)
    else if c = ']' then (tokens? fuel cs).map (.closingAlternatives :: ·)
    else if c = '?' then (tokens? fuel cs).map (.optional :: ·)
    else if c = '@' then
      let name := cs.takeWhile isWordChar
      if name.isEmpty then none
      else (tokens? fuel (cs.dropWhile isWordChar)).map (.capture (String.ofList name) :: ·)
    else if isWordChar c then
      let name := String.ofList ((c :: cs).takeWhile isWordChar)
      match (c :: cs).dropWhile isWordChar with
      | ':' :: rest => (tokens? fuel rest).map (.field name :: ·)
      | rest => (tokens? fuel rest).map (.word name :: ·)
    else none

def unknownKind : String := "no_such_node"

def nodeTest? (word : String) : Option NodeTest :=
  if word == "_" then some .named
  else if word == unknownKind then none
  else some (.kind word)

/-- The marks after a pattern: a question mark and captures, in any order. -/
def marks : List Token → Bool × List String × List Token
  | .optional :: ts => let (_, names, rest) := marks ts; (true, names, rest)
  | .capture name :: ts => let (optional, names, rest) := marks ts; (optional, name :: names, rest)
  | ts => (false, [], ts)

def withCaptures (names : List String) (p : Pattern) : Pattern :=
  names.foldl (fun p name => p.as name) p

mutual

def part? : Nat → List Token → Option (ChildPattern × List Token)
  | 0, _ => none
  | fuel + 1, ts => do
    let (field, ts) := match ts with
      | .field name :: ts => (some name, ts)
      | ts => (none, ts)
    let (pattern, ts) ← match ts with
      | .word "_" :: ts => some (Pattern.node .any [] [], ts)
      | .opening :: .word word :: ts => do
        let test ← nodeTest? word
        let (parts, ts) ← parts? fuel .closing ts
        some (Pattern.node test [] parts, ts)
      | .openingAlternatives :: ts => do
        let (parts, ts) ← parts? fuel .closingAlternatives ts
        if parts.isEmpty then none
        else some (Pattern.oneOf [] (parts.map fun | .part _ _ pattern => pattern), ts)
      | _ => none
    let (optional, names, ts) := marks ts
    return (.part field optional (withCaptures names pattern), ts)

def parts? : Nat → Token → List Token → Option (List ChildPattern × List Token)
  | 0, _, _ => none
  | _, _, [] => none
  | fuel + 1, close, t :: ts =>
    if t = close then some ([], ts)
    else do
      let (p, ts) ← part? fuel (t :: ts)
      let (ps, ts) ← parts? fuel close ts
      return (p :: ps, ts)

end

def patterns? : Nat → List Token → Option (List Pattern)
  | 0, _ => none
  | _, [] => some []
  | fuel + 1, ts => do
    let (.part _ _ pattern, rest) ← part? fuel ts
    return pattern :: (← patterns? fuel rest)

/-- The query that a text describes; none for a blank text, unbalanced brackets or an unknown kind
of node. -/
def ofText? (text : String) : Option Query := do
  let cs := text.toList
  let ts ← tokens? (cs.length + 1) cs
  if ts.isEmpty then none
  else return ⟨← patterns? (2 * ts.length + 2) ts⟩

end SourceOutline.Query

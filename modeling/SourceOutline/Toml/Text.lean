import SourceOutline.Toml

/-! The text of TOML documents. Every reader takes what is left of a text and returns what it read with
the rest, or nothing. -/
namespace SourceOutline.Toml

abbrev Reader (α : Type) := List Char → Option (α × List Char)

def isBlank (c : Char) : Bool := c == ' ' || c == '\t'

def skipBlanks (cs : List Char) : List Char := cs.dropWhile isBlank

/-- A character that may stand in comments and strings: no control character but the tab. -/
def isPlain (c : Char) : Bool :=
  c == '\t' || (0x20 ≤ c.toNat && c.toNat ≤ 0x7E) || 0x80 ≤ c.toNat

def afterNewline? : List Char → Option (List Char)
  | '\n' :: rest => some rest
  | '\r' :: '\n' :: rest => some rest
  | _ => none

def lineEnd? (cs : List Char) : Option (List Char) :=
  let rest := match skipBlanks cs with
    | '#' :: comment => comment.dropWhile isPlain
    | rest => rest
  if rest.isEmpty then some [] else afterNewline? rest

def skipLayout (inComment : Bool) : List Char → List Char
  | [] => []
  | '\n' :: rest => skipLayout false rest
  | '\r' :: '\n' :: rest => skipLayout false rest
  | c :: rest =>
    if inComment then if isPlain c then skipLayout true rest else c :: rest
    else if isBlank c then skipLayout false rest
    else if c == '#' then skipLayout true rest
    else c :: rest

def escape? : Char → Option Char
  | 'b' => some '\x08'
  | 't' => some '\t'
  | 'n' => some '\n'
  | 'f' => some '\x0c'
  | 'r' => some '\r'
  | '"' => some '"'
  | '\\' => some '\\'
  | _ => none

def codePoint? (digits : List Char) : Option Char := do
  let values ← digits.mapM Json.hexValue?
  let n := values.foldl (fun n d => 16 * n + d) 0
  if n < 0xD800 || (0xE000 ≤ n && n < 0x110000) then some (Char.ofNat n) else none

def escaped? : Reader Char
  | 'u' :: rest =>
    if rest.length < 4 then none
    else (codePoint? (rest.take 4)).map fun c => (c, rest.drop 4)
  | 'U' :: rest =>
    if rest.length < 8 then none
    else (codePoint? (rest.take 8)).map fun c => (c, rest.drop 8)
  | e :: rest => (escape? e).map fun c => (c, rest)
  | [] => none

/-- The inside of a basic string on one line, up to its closing quote; `read` holds the characters so
far, last first. Each step reads a character, so `fuel` of their number is enough. -/
def basic? (fuel : Nat) (read : List Char) (cs : List Char) : Option (String × List Char) :=
  match fuel, cs with
  | _, '"' :: rest => some (String.ofList read.reverse, rest)
  | 0, _ => none
  | fuel + 1, '\\' :: rest => do
    let (c, rest) ← escaped? rest
    basic? fuel (c :: read) rest
  | fuel + 1, c :: rest => if isPlain c then basic? fuel (c :: read) rest else none
  | _, [] => none

def skipLines : List Char → List Char
  | '\n' :: rest => skipLines rest
  | '\r' :: '\n' :: rest => skipLines rest
  | c :: rest => if isBlank c then skipLines rest else c :: rest
  | [] => []

/-- What follows a backslash at the end of a line, and the blanks and newlines after it. -/
def joinedLine? (cs : List Char) : Option (List Char) :=
  (afterNewline? (skipBlanks cs)).map skipLines

/-- The inside of a basic string of several lines, up to its three closing quotes. One or two quotes may
stand right before these. A newline is a line feed, however written. -/
def multiBasic? (fuel : Nat) (read : List Char) (cs : List Char) : Option (String × List Char) :=
  match fuel, cs with
  | _, '"' :: '"' :: '"' :: '"' :: '"' :: rest =>
    some (String.ofList ('"' :: '"' :: read).reverse, rest)
  | _, '"' :: '"' :: '"' :: '"' :: rest => some (String.ofList ('"' :: read).reverse, rest)
  | _, '"' :: '"' :: '"' :: rest => some (String.ofList read.reverse, rest)
  | 0, _ => none
  | fuel + 1, '\\' :: rest =>
    match joinedLine? rest with
    | some rest => multiBasic? fuel read rest
    | none => do
      let (c, rest) ← escaped? rest
      multiBasic? fuel (c :: read) rest
  | fuel + 1, '\n' :: rest => multiBasic? fuel ('\n' :: read) rest
  | fuel + 1, '\r' :: '\n' :: rest => multiBasic? fuel ('\n' :: read) rest
  | fuel + 1, c :: rest => if isPlain c then multiBasic? fuel (c :: read) rest else none
  | _, [] => none

def literal? (cs : List Char) : Option (String × List Char) :=
  match cs.dropWhile fun c => isPlain c && c != '\'' with
  | '\'' :: rest => some (String.ofList (cs.takeWhile fun c => isPlain c && c != '\''), rest)
  | _ => none

def multiLiteral? (read : List Char) : Reader String
  | '\'' :: '\'' :: '\'' :: '\'' :: '\'' :: rest =>
    some (String.ofList ('\'' :: '\'' :: read).reverse, rest)
  | '\'' :: '\'' :: '\'' :: '\'' :: rest => some (String.ofList ('\'' :: read).reverse, rest)
  | '\'' :: '\'' :: '\'' :: rest => some (String.ofList read.reverse, rest)
  | '\n' :: rest => multiLiteral? ('\n' :: read) rest
  | '\r' :: '\n' :: rest => multiLiteral? ('\n' :: read) rest
  | c :: rest => if isPlain c then multiLiteral? (c :: read) rest else none
  | [] => none

def dropNewline (cs : List Char) : List Char := (afterNewline? cs).getD cs

def lineString? : Reader String
  | '"' :: rest => basic? rest.length [] rest
  | '\'' :: rest => literal? rest
  | _ => none

def string? : Reader String
  | '"' :: '"' :: '"' :: rest => multiBasic? rest.length [] (dropNewline rest)
  | '\'' :: '\'' :: '\'' :: rest => multiLiteral? [] (dropNewline rest)
  | cs => lineString? cs

def isBare (c : Char) : Bool := c.isAlphanum || c == '_' || c == '-'

def keyPart? (cs : List Char) : Option (String × List Char) :=
  match cs with
  | '"' :: _ | '\'' :: _ => lineString? cs
  | _ =>
    let bare := cs.takeWhile isBare
    if bare.isEmpty then none else some (String.ofList bare, cs.dropWhile isBare)

/-- Parts with dots between them, and blanks around each. -/
def keyParts? : Nat → Reader (List String)
  | 0, _ => none
  | fuel + 1, cs => do
    let (part, rest) ← keyPart? (skipBlanks cs)
    match skipBlanks rest with
    | '.' :: rest => do
      let (parts, rest) ← keyParts? fuel rest
      return (part :: parts, rest)
    | rest => return ([part], rest)

/-- The number of parts of a key, and of levels of nested values, stays below this. -/
def depthLimit : Nat := 80

def key? : Reader (List String) := keyParts? (depthLimit - 1)

/-- Digits from the front, with single underscores before some of them. An underscore without a digit
after it is left. -/
def moreDigits (isDigit : Char → Bool) : List Char → List Char × List Char
  | [] => ([], [])
  | '_' :: d :: rest =>
    if isDigit d then let (ds, rest) := moreDigits isDigit rest; (d :: ds, rest)
    else ([], '_' :: d :: rest)
  | d :: rest =>
    if isDigit d then let (ds, rest) := moreDigits isDigit rest; (d :: ds, rest)
    else ([], d :: rest)

def digits? (isDigit : Char → Bool) : Reader (List Char)
  | [] => none
  | d :: rest =>
    if isDigit d then let (ds, rest) := moreDigits isDigit rest; some (d :: ds, rest) else none

def isHex (c : Char) : Bool := (Json.hexValue? c).isSome

def isOctal (c : Char) : Bool := '0' ≤ c && c ≤ '7'

def isBinary (c : Char) : Bool := c == '0' || c == '1'

def valueOf (base : Nat) (ds : List Char) : Nat :=
  ds.foldl (fun n d => base * n + (Json.hexValue? d).getD 0) 0

def signed? (n : Int) : Option Toml :=
  if -0x8000000000000000 ≤ n ∧ n < 0x8000000000000000 then some (.int n) else none

def based? (base : Nat) (isDigit : Char → Bool) (cs : List Char) : Option (Toml × List Char) := do
  let (ds, rest) ← digits? isDigit cs
  return (← signed? (valueOf base ds), rest)

def decimal? : Reader (List Char)
  | '0' :: rest => some (['0'], rest)
  | cs => digits? Char.isDigit cs

/-- The digits after a point, or none where there is no point. -/
def fraction? : Reader (List Char)
  | '.' :: rest => digits? Char.isDigit rest
  | cs => some ([], cs)

def exponent? (cs : List Char) : Option (Option Int × List Char) :=
  match cs with
  | m :: rest =>
    if m == 'e' || m == 'E' then do
      let (negative, rest) := match rest with
        | '+' :: rest => (false, rest)
        | '-' :: rest => (true, rest)
        | rest => (false, rest)
      let (ds, rest) ← digits? Char.isDigit rest
      let n := (valueOf 10 ds : Int)
      return (some (if negative then -n else n), rest)
    else some (none, cs)
  | [] => some (none, cs)

/-- The decimal `digits · 10 ^ exponent` is too large for a double: it is at least the midpoint between
the largest one and the next power of two. -/
def overflows (digits : Nat) (exponent : Int) : Bool :=
  let midpoint := Nat.pow 2 1024 - Nat.pow 2 970
  if digits == 0 then false
  else if exponent > 400 then true
  else if exponent ≥ 0 then midpoint ≤ digits * Nat.pow 10 exponent.toNat
  else midpoint ≤ digits && midpoint * Nat.pow 10 (-exponent).toNat ≤ digits

def readFrom (cs rest : List Char) : String := String.ofList (cs.take (cs.length - rest.length))

/-- A decimal number after its sign; `all` is the text with the sign. -/
def number? (negative : Bool) (all cs : List Char) : Option (Toml × List Char) := do
  let (whole, rest) ← decimal? cs
  let (fraction, rest) ← fraction? rest
  let (exponent, rest) ← exponent? rest
  if fraction.isEmpty && exponent.isNone then
    let n := (valueOf 10 whole : Int)
    return (← signed? (if negative then -n else n), rest)
  else if !negative &&
      overflows (valueOf 10 (whole ++ fraction)) (exponent.getD 0 - fraction.length) then none
  else return (.float (readFrom all rest), rest)

def special? (all : List Char) : List Char → Option (Toml × List Char)
  | 'i' :: 'n' :: 'f' :: rest => some (.float (readFrom all rest), rest)
  | 'n' :: 'a' :: 'n' :: rest => some (.float (readFrom all rest), rest)
  | _ => none

def anyNumber? (cs : List Char) : Option (Toml × List Char) :=
  match cs with
  | '0' :: 'x' :: rest => based? 16 isHex rest
  | '0' :: 'o' :: rest => based? 8 isOctal rest
  | '0' :: 'b' :: rest => based? 2 isBinary rest
  | '+' :: rest => (special? cs rest).orElse fun _ => number? false cs rest
  | '-' :: rest => (special? cs rest).orElse fun _ => number? true cs rest
  | _ => (special? cs cs).orElse fun _ => number? false cs cs

def field? (count least most : Nat) (cs : List Char) : Option (Nat × List Char) :=
  let ds := cs.take count
  let n := valueOf 10 ds
  if ds.length == count && ds.all Char.isDigit && least ≤ n && n ≤ most then some (n, cs.drop count)
  else none

def afterChar? (c : Char) : List Char → Option (List Char)
  | d :: rest => if c == d then some rest else none
  | [] => none

def daysIn (year month : Nat) : Nat :=
  if month == 2 then
    if year % 4 == 0 && (year % 100 != 0 || year % 400 == 0) then 29 else 28
  else if month == 4 || month == 6 || month == 9 || month == 11 then 30
  else 31

def afterDay? (cs : List Char) : Option (List Char) := do
  let (year, rest) ← field? 4 0 9999 cs
  let (month, rest) ← field? 2 1 12 (← afterChar? '-' rest)
  let (_, rest) ← field? 2 1 (daysIn year month) (← afterChar? '-' rest)
  return rest

def afterTime? (cs : List Char) : Option (List Char) := do
  let (_, rest) ← field? 2 0 23 cs
  let (_, rest) ← field? 2 0 59 (← afterChar? ':' rest)
  let (_, rest) ← field? 2 0 60 (← afterChar? ':' rest)
  match rest with
  | '.' :: d :: more => if d.isDigit then return more.dropWhile Char.isDigit else return rest
  | _ => return rest

/-- What follows a distance from universal time, or the text itself where there is none. -/
def afterOffset? (cs : List Char) : Option (List Char) :=
  match cs with
  | 'Z' :: rest | 'z' :: rest => some rest
  | '+' :: rest | '-' :: rest => do
    let (_, rest) ← field? 2 0 23 rest
    let (_, rest) ← field? 2 0 59 (← afterChar? ':' rest)
    return rest
  | _ => some cs

/-- A day, a time, or both. A blank after a day need not lead to a time. -/
def date? (cs : List Char) : Option (Toml × List Char) :=
  match afterDay? cs with
  | some rest =>
    let after := match rest with
      | c :: time =>
        if c == 'T' || c == 't' || c == ' ' then ((afterTime? time).bind afterOffset?).getD rest
        else rest
      | [] => rest
    some (.date (readFrom cs after), after)
  | none => (afterTime? cs).map fun rest => (.date (readFrom cs rest), rest)

def scalar? (cs : List Char) : Option (Toml × List Char) :=
  match cs with
  | '"' :: _ | '\'' :: _ => (string? cs).map fun (s, rest) => (.str s, rest)
  | 't' :: 'r' :: 'u' :: 'e' :: rest => some (.bool true, rest)
  | 'f' :: 'a' :: 'l' :: 's' :: 'e' :: rest => some (.bool false, rest)
  | _ => (date? cs).orElse fun _ => anyNumber? cs

mutual

/-- A value with at most `depth` levels of arrays and tables; `fuel` bounds the number of values and
separators. -/
def value? : Nat → Nat → Reader Toml
  | fuel + 1, depth + 1, '[' :: rest => do
    let (items, rest) ← items? fuel depth rest
    return (.arr items, rest)
  | fuel + 1, depth + 1, '\x7b' :: rest => do
    match skipBlanks rest with
    | '\x7d' :: rest => return (.table [], rest)
    | rest => do
      let (pairs, rest) ← pairs? fuel depth rest
      return (← ofPairs? pairs, rest)
  | _, _, '[' :: _ => none
  | _, _, '\x7b' :: _ => none
  | _, _, cs => scalar? cs

def items? : Nat → Nat → Reader (List Toml)
  | 0, _, _ => none
  | fuel + 1, depth, cs =>
    match skipLayout false cs with
    | ']' :: rest => some ([], rest)
    | cs => do
      let (v, rest) ← value? fuel depth cs
      match skipLayout false rest with
      | ']' :: rest => return ([v], rest)
      | ',' :: rest => do
        let (vs, rest) ← items? fuel depth rest
        return (v :: vs, rest)
      | _ => none

def pairs? : Nat → Nat → Reader (List (List String × Toml))
  | 0, _, _ => none
  | fuel + 1, depth, cs => do
    let (key, rest) ← key? cs
    let rest ← afterChar? '=' rest
    let (v, rest) ← value? fuel depth (skipBlanks rest)
    match skipBlanks rest with
    | '\x7d' :: rest => return ([(key, v)], rest)
    | ',' :: rest => do
      let (pairs, rest) ← pairs? fuel depth rest
      return ((key, v) :: pairs, rest)
    | _ => none

end

def header? (rest : List Char) : Option (Statement × List Char) := do
  let (path, rest) ← key? rest
  let rest ← lineEnd? (← afterChar? ']' rest)
  return (.table path, rest)

def rowHeader? (rest : List Char) : Option (Statement × List Char) := do
  let (path, rest) ← key? rest
  let rest ← lineEnd? (← afterChar? ']' (← afterChar? ']' rest))
  return (.row path, rest)

def pair? (cs : List Char) : Option (Statement × List Char) := do
  let (key, rest) ← key? cs
  let rest ← afterChar? '=' rest
  let (v, rest) ← value? (3 * rest.length + 3) (depthLimit - 1) (skipBlanks rest)
  let rest ← lineEnd? rest
  return (.value key v, rest)

/-- The statements of a text, one a line; `fuel` bounds the number of lines. -/
def statements? : Nat → List Char → Option (List Statement)
  | 0, _ => none
  | fuel + 1, cs =>
    match skipBlanks cs with
    | [] => some []
    | '[' :: '[' :: rest => do
      let (s, rest) ← rowHeader? rest
      return s :: (← statements? fuel rest)
    | '[' :: rest => do
      let (s, rest) ← header? rest
      return s :: (← statements? fuel rest)
    | cs =>
      match lineEnd? cs with
      | some rest => statements? fuel rest
      | none => do
        let (s, rest) ← pair? cs
        return s :: (← statements? fuel rest)

/-- The document of a text, which may start with a byte order mark. -/
def ofText? (text : String) : Option Toml := do
  let cs := match text.toList with
    | '\uFEFF' :: rest => rest
    | cs => cs
  ofStatements? (← statements? (cs.length + 1) cs)

end SourceOutline.Toml

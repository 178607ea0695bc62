import SourceOutline.Text

/-! Globs: patterns for paths and file names. `?` is one character, `*` any text, also across
separators, `**` any number of whole components, and brackets list characters. -/
namespace SourceOutline

namespace Glob

inductive Item where
  | char (c : Char)
  | range (first last : Char)
deriving DecidableEq, Repr, Inhabited

inductive Token where
  | char (c : Char)
  | anyChar
  | anyText
  | anyComponents
  | oneOf (items : List Item)
  | noneOf (items : List Item)
deriving DecidableEq, Repr, Inhabited

/-- Why a text is no glob, with the position of the fault in characters. -/
inductive Fault where
  | stars (position : Nat)
  | components (position : Nat)
  | brackets (position : Nat)
deriving DecidableEq, Repr

namespace Fault

def position : Fault → Nat
  | stars n | components n | brackets n => n

def reason : Fault → String
  | stars _ => "wildcards are either regular `*` or recursive `**`"
  | components _ => "recursive wildcards must form a single path component"
  | brackets _ => "invalid range pattern"

def message (f : Fault) : String :=
  "Pattern syntax error near position " ++ toString f.position ++ ": " ++ f.reason

end Fault

def Item.accepts (c : Char) : Item → Bool
  | char d => c == d
  | range first last => first ≤ c && c ≤ last

/-- The inside of brackets: three characters with a hyphen between them are a range. -/
def itemsOf : List Char → List Item
  | first :: '-' :: last :: rest => .range first last :: itemsOf rest
  | c :: rest => .char c :: itemsOf rest
  | [] => []

/-- The list up to the closing bracket and what follows it. A bracket right at the start is a member of
the list, so the list is not empty. -/
def bracketed? : List Char → Option (List Char × List Char)
  | [] => none
  | first :: rest =>
    match rest.dropWhile (· != ']') with
    | [] => none
    | _ :: after => some (first :: rest.takeWhile (· != ']'), after)

def bracketToken? : List Char → Option (Token × List Char)
  | '!' :: rest => (bracketed? rest).map fun (inside, after) => (.noneOf (itemsOf inside), after)
  | rest => (bracketed? rest).map fun (inside, after) => (.oneOf (itemsOf inside), after)

/-- The tokens of the text that is left at `position`; `previous` is the character before it. Each
step reads at least one character, so `fuel` of their number is enough. -/
def tokensFrom : Nat → Nat → Option Char → List Char → Except Fault (List Token)
  | 0, _, _, _ => .ok []
  | _, _, _, [] => .ok []
  | fuel + 1, position, previous, '*' :: rest =>
    match rest with
    | '*' :: '*' :: _ => .error (.stars (position + 2))
    | '*' :: after =>
      if previous == none || previous == some '/' then
        match after with
        | [] => .ok [.anyComponents]
        | '/' :: below => (tokensFrom fuel (position + 3) (some '/') below).map (.anyComponents :: ·)
        | _ => .error (.components (position + 2))
      else .error (.components (position - 1))
    | _ => (tokensFrom fuel (position + 1) (some '*') rest).map (.anyText :: ·)
  | fuel + 1, position, _, '[' :: rest =>
    match bracketToken? rest with
    | none => .error (.brackets position)
    | some (token, after) =>
      (tokensFrom fuel (position + 1 + (rest.length - after.length)) (some ']') after).map (token :: ·)
  | fuel + 1, position, _, '?' :: rest =>
    (tokensFrom fuel (position + 1) (some '?') rest).map (.anyChar :: ·)
  | fuel + 1, position, _, c :: rest =>
    (tokensFrom fuel (position + 1) (some c) rest).map (.char c :: ·)

def Token.accepts (c : Char) : Token → Bool
  | char d => c == d
  | anyChar => true
  | oneOf items => items.any (Item.accepts c)
  | noneOf items => !items.any (Item.accepts c)
  | anyText | anyComponents => false

/-- What may be left of a text after some of its characters, longest first. -/
def rests : List Char → List (List Char)
  | [] => [[]]
  | c :: cs => (c :: cs) :: rests cs

/-- What may be left of a text after some of its components, and nothing. -/
def componentRests : List Char → List (List Char)
  | [] => [[]]
  | '/' :: rest => rest :: componentRests rest
  | _ :: rest => componentRests rest

/-- What may be left after a token, given what may be left before it, longest first. A token for whole
components stands at the start of one, so everything that can be left follows from the longest rest. -/
def Token.after (t : Token) (before : List (List Char)) : List (List Char) :=
  match t, before with
  | _, [] => []
  | anyText, longest :: _ => rests longest
  | anyComponents, longest :: _ => longest :: componentRests longest
  | t, before => before.filterMap fun
    | c :: rest => if t.accepts c then some rest else none
    | [] => none

end Glob

structure Glob where
  text : String
  tokens : List Glob.Token
deriving DecidableEq, Repr, Inhabited

namespace Glob

def ofText (text : String) : Except Fault Glob :=
  let cs := text.toList
  (tokensFrom cs.length 0 none cs).map fun tokens => { text, tokens }

def accepts (g : Glob) (text : String) : Bool :=
  (g.tokens.foldl (fun before t => t.after before) [text.toList]).any List.isEmpty

end Glob

end SourceOutline

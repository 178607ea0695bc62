/-! Text as lists of characters: blanks, words, cuts. Names, types and values that come from
source code are trimmed and split by these rules. -/
namespace SourceOutline.Text

/-- The characters with the Unicode property White_Space. -/
def isBlank (c : Char) : Bool :=
  let n := c.toNat
  (9 ≤ n && n ≤ 13) || n == 0x20 || n == 0x85 || n == 0xA0 || n == 0x1680 ||
    (0x2000 ≤ n && n ≤ 0x200A) || n == 0x2028 || n == 0x2029 || n == 0x202F ||
    n == 0x205F || n == 0x3000

def trimLeft (cs : List Char) : List Char := cs.dropWhile isBlank

def trimRight (cs : List Char) : List Char := (cs.reverse.dropWhile isBlank).reverse

def trimChars (cs : List Char) : List Char := trimRight (trimLeft cs)

def trim (s : String) : String := String.ofList (trimChars s.toList)

/-- The maximal runs of characters that are not blank, in order. -/
def wordsOf (cs : List Char) : List (List Char) :=
  (cs.splitOnP isBlank).filter fun run => !run.isEmpty

def words (s : String) : List String := (wordsOf s.toList).map String.ofList

/-- The words of a text with one space between neighbours. -/
def flatten (s : String) : String := " ".intercalate (words s)

/-- What follows `head` in `cs`, if `cs` starts with it. -/
def afterHead? : List Char → List Char → Option (List Char)
  | [], cs => some cs
  | _ :: _, [] => none
  | h :: hs, c :: cs => if h = c then afterHead? hs cs else none

def beforeLast? (last : Char) (cs : List Char) : Option (List Char) :=
  if cs.getLast? = some last then some cs.dropLast else none

def before (c : Char) (cs : List Char) : List Char := cs.takeWhile (· != c)

def lower (s : String) : String := s.map Char.toLower

def sameIgnoringCase (s t : String) : Bool := lower s == lower t

def nonempty? (s : String) : Option String := if s.isEmpty then none else some s

def replicate (count : Nat) (s : String) : String := String.join (List.replicate count s)

end SourceOutline.Text

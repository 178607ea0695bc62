import SourceOutline.CharSet
import SourceOutline.Text
import SourceOutline.Unicode.Category
import SourceOutline.Unicode.Fold
import SourceOutline.Unicode.Property
import SourceOutline.Unicode.Script

/-! Sets of characters by their Unicode properties, and case folding of sets. -/
namespace SourceOutline.Unicode

def hexValue (c : Char) : Nat :=
  if c.isDigit then c.toNat - '0'.toNat else c.toNat - 'a'.toNat + 10

def numbers (table : String) : List Nat :=
  (Text.wordsOf table.toList).map fun ds => ds.foldl (fun n d => 16 * n + hexValue d) 0

/-- Ranges from pairs of what to skip and what to take. -/
def rangesFrom (start : Nat) : List Nat → List (Nat × Nat)
  | skip :: more :: rest =>
    (start + skip, start + skip + more) :: rangesFrom (start + skip + more + 1) rest
  | _ => []

def decode (table : String) : CharSet :=
  if table.isEmpty then .empty else ⟨rangesFrom 0 (numbers table)⟩

def lookup? (tables : List (List String × String)) (name : String) : Option CharSet :=
  (tables.find? (·.1.contains name)).map fun t => decode t.2

def unionAll (sets : List CharSet) : CharSet :=
  CharSet.normalize ⟨sets.flatMap (·.ranges)⟩

/-- A general category, a group of categories, or one of the names for all, assigned and ASCII code
points. -/
def category? (name : String) : Option CharSet :=
  match name with
  | "any" => some .full
  | "ascii" => some ⟨[(0, 127)]⟩
  | "assigned" => (lookup? categories "cn").map CharSet.complement
  | _ =>
    lookup? categories name <|>
      (categoryGroups.find? (·.1.contains name)).map fun g =>
        unionAll (g.2.filterMap (lookup? categories))

def script? (name : String) : Option CharSet := lookup? scripts name

/-- Names of properties that are at the same time names of categories mean the categories. -/
def property? (name : String) : Option CharSet :=
  if name == "cf" || name == "sc" || name == "lc" then none else lookup? properties name

/-- Lower case, without spaces, hyphens, underscores and a leading `is`. The short name of the one
property that would then be taken for another keeps that start. -/
def normalizeName (name : String) : String :=
  let lowered := name.toList.map Char.toLower
  let (marked, body) := match lowered with
    | 'i' :: 's' :: rest => (true, rest)
    | _ => (false, lowered)
  let bare := body.filter fun c => c != ' ' && c != '_' && c != '-' && c.toNat < 128
  if marked && bare == ['c'] then "isc" else String.ofList bare

def named? (name : String) : Option CharSet :=
  let name := normalizeName name
  property? name <|> category? name <|> script? name

def valued? (property value : String) : Option CharSet :=
  let value := normalizeName value
  match normalizeName property with
  | "gc" | "generalcategory" => category? value
  | "sc" | "script" => script? value
  | _ => none

def nameOrEmpty (set : Option CharSet) : CharSet := set.getD .empty

def decimal : CharSet := nameOrEmpty (lookup? categories "nd")

def space : CharSet := nameOrEmpty (lookup? properties "whitespace")

def alphabetic : CharSet := nameOrEmpty (lookup? properties "alphabetic")

def numeric : CharSet := nameOrEmpty (category? "n")

/-- The characters of words: letters, marks, digits, connectors and joiners. -/
def word : CharSet :=
  unionAll [alphabetic, nameOrEmpty (category? "m"), decimal,
    nameOrEmpty (lookup? categories "pc"), nameOrEmpty (lookup? properties "joincontrol")]

def foldPairsOf : List Nat → List (Nat × Nat)
  | source :: target :: count :: stride :: rest =>
    (List.range count).map (fun i => (source + stride * i, target + stride * i)) ++ foldPairsOf rest
  | _ => []

def foldPairs : List (Nat × Nat) := foldPairsOf (numbers foldRuns)

def holds (ranges : List (Nat × Nat)) (n : Nat) : Bool := ranges.any fun r => r.1 ≤ n && n ≤ r.2

def foldCase (s : CharSet) : CharSet :=
  let targets := foldPairs.filter fun p => holds s.ranges p.1
  let folded := CharSet.union s ⟨targets.map fun p => (p.2, p.2)⟩
  let sources := foldPairs.filter fun p => holds folded.ranges p.2
  CharSet.union folded ⟨sources.map fun p => (p.1, p.1)⟩

def foldAscii (s : CharSet) : CharSet :=
  let letters := (List.range 26).flatMap fun i => [(65 + i, 97 + i), (97 + i, 65 + i)]
  let added := letters.filter fun p => holds s.ranges p.1
  CharSet.union s ⟨added.map fun p => (p.2, p.2)⟩

end SourceOutline.Unicode

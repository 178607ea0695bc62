import SourceOutline.Unicode

/-! Regular expressions over characters, and search in a text. -/
namespace SourceOutline

/-- Conditions on a position of the text. `unicode` tells which characters make words. -/
inductive Look where
  | textStart | textEnd
  | lineStart | lineEnd
  /-- Lines end with a carriage return, a line feed, or both together. -/
  | crlfLineStart | crlfLineEnd
  | wordBoundary (unicode : Bool) | notWordBoundary (unicode : Bool)
  | wordStart (unicode : Bool) | wordEnd (unicode : Bool)
  | wordStartHalf (unicode : Bool) | wordEndHalf (unicode : Bool)
deriving DecidableEq, Repr, Inhabited

inductive Regex where
  | empty
  | chars (set : CharSet)
  | look (condition : Look)
  | capture (r : Regex)
  | seq (a b : Regex)
  | alt (a b : Regex)
  /-- Between `least` and `most` times, or without limit. -/
  | rep (least : Nat) (most : Option Nat) (r : Regex)
deriving Repr, Inhabited

namespace Look

def asciiWord : CharSet := ⟨[(48, 57), (65, 90), (95, 95), (97, 122)]⟩

def isWord (unicode : Bool) (c : Option Char) : Bool :=
  match c with
  | none => false
  | some c => if unicode then Unicode.word.contains c else asciiWord.contains c

/-- The condition at position `i`, between the characters `i - 1` and `i`. -/
def holds (text : Array Char) (i : Nat) : Look → Bool :=
  let before := if i = 0 then none else text[i - 1]?
  let after := text[i]?
  fun
  | textStart => before.isNone
  | textEnd => after.isNone
  | lineStart => before.isNone || before == some '\n'
  | lineEnd => after.isNone || after == some '\n'
  | crlfLineStart =>
    before.isNone || before == some '\n' || (before == some '\r' && after != some '\n')
  | crlfLineEnd =>
    after.isNone || after == some '\r' || (after == some '\n' && before != some '\r')
  | wordBoundary u => isWord u before != isWord u after
  | notWordBoundary u => isWord u before == isWord u after
  | wordStart u => !isWord u before && isWord u after
  | wordEnd u => isWord u before && !isWord u after
  | wordStartHalf u => !isWord u before
  | wordEndHalf u => !isWord u after

end Look

namespace Regex

def unionPositions (a b : List Nat) : List Nat := a ++ b.filter fun i => !a.contains i

def iterate (f : List Nat → List Nat) : Nat → List Nat → List Nat
  | 0, s => s
  | n + 1, s => iterate f n (f s)

/-- The positions after at most this many further applications of `f`, where `latest` are those of
`reached` that no application has started from. -/
def spread (f : List Nat → List Nat) : Nat → List Nat → List Nat → List Nat
  | 0, reached, _ => reached
  | n + 1, reached, latest =>
    match (f latest).filter fun i => !reached.contains i with
    | [] => reached
    | i :: found => spread f n (reached ++ i :: found) (i :: found)

/-- The positions where a match can end that starts at one of the given positions. A repetition needs
at most one round more than the text has characters: what later rounds reach, that many reach. -/
def ends (text : Array Char) : Regex → List Nat → List Nat
  | empty, s => s
  | chars set, s => s.filterMap fun i =>
    match text[i]? with
    | some c => if set.contains c then some (i + 1) else none
    | none => none
  | look condition, s => s.filter fun i => condition.holds text i
  | capture r, s => r.ends text s
  | seq a b, s => b.ends text (a.ends text s)
  | alt a b, s => unionPositions (a.ends text s) (b.ends text s)
  | rep least most r, s =>
    let rounds := text.size + 1
    let started := iterate (r.ends text) (min least rounds) s
    let further := match most with
      | some m => min (m - least) rounds
      | none => rounds
    spread (r.ends text) further started started

def isMatch (r : Regex) (text : String) : Bool :=
  let cs := text.toList.toArray
  !(r.ends cs (List.range (cs.size + 1))).isEmpty

/-- Matches only ever consume nothing. -/
def zeroWidth : Regex → Bool
  | empty => true
  | chars _ => false
  | look _ => true
  | capture r => r.zeroWidth
  | seq a b => a.zeroWidth && b.zeroWidth
  | alt a b => a.zeroWidth && b.zeroWidth
  | rep _ most r => most == some 0 || r.zeroWidth

def setSize (set : CharSet) : Nat :=
  match set.ranges with
  | [(a, b)] =>
    if a = b then
      32 * (if a < 0x80 then 1 else if a < 0x800 then 2 else if a < 0x10000 then 3 else 4)
    else if b < 0x80 then 64 else 220
  | ranges => if set.isAscii then 64 + 8 * ranges.length else 64 + 60 * ranges.length

/-- How many bytes the automaton of an expression takes: counted repetitions are written out. -/
def size : Regex → Nat
  | empty => 32
  | chars set => setSize set
  | look _ => 32
  | capture r => 64 + r.size
  | seq a b => a.size + b.size
  | alt a b => 72 + a.size + b.size
  | rep least most r =>
    let once := r.size
    if r.zeroWidth then 40 + once
    else
      match most with
      | none => if least = 0 then 80 + once else 40 + least * once
      | some m => least * once + (m - least) * (once + 40)

def sizeLimit : Nat := 10 * 1024 * 1024

def depthLimit : Nat := 250

end Regex

end SourceOutline

import SourceOutline.Distinct
import SourceOutline.Language

/-! The names that a callable calls. -/
namespace SourceOutline.Calls

/-- A separator ends between these two characters: `.`, `::` or `->`. -/
def closesSeparator (before : Option Char) (c : Char) : Bool :=
  c == '.' || (c == ':' && before == some ':') || (c == '>' && before == some '-')

/-- What follows the last separator, or `best` if there is none. -/
def afterSeparators (best : List Char) : Option Char → List Char → List Char
  | _, [] => best
  | before, c :: rest =>
    afterSeparators (if closesSeparator before c then rest else best) (some c) rest

def finalSegment (text : String) : String :=
  let cs := Text.trimChars text.toList
  String.ofList (Text.trimChars (afterSeparators cs none cs))

def called (q : Query) (src : Source) (p : Place) : List String :=
  let callees := (q.run p).flatMap fun m => m.allNamed "callee"
  (callees.map fun c => finalSegment (src.text c)).filter fun n => !n.isEmpty

/-- The names called below a place, each where it is called first. -/
def below (language : Language) (src : Source) (p : Place) : List String :=
  match language.calls with
  | none => []
  | some q => firstPerKey id (called q src p)

end SourceOutline.Calls

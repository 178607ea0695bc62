import SourceOutline.Kind

/-! One catalogued element of a source file. The definitions of a file form a flat list; `parent`
and `children` are ids of that list. -/
namespace SourceOutline

structure Parameter where
  name : String
  type : Option String
deriving DecidableEq, Repr, Inhabited

/-- The first and the last line of something, counted from one, both included. -/
structure LineSpan where
  first : Nat
  last : Nat
deriving DecidableEq, Repr, Inhabited

namespace LineSpan

/-- `a` spans at least the lines of `b`. -/
def contains (a b : LineSpan) : Bool := a.first ≤ b.first && b.last ≤ a.last

end LineSpan

structure Definition where
  id : Nat
  kind : Kind
  name : String
  startLine : Nat
  endLine : Nat
  loc : Nat
  modifier : Option String := none
  dataType : Option String := none
  value : Option String := none
  returnType : Option String := none
  parameters : List Parameter := []
  calls : List String := []
  complexity : Nat := 1
  parameterCount : Nat := 0
  parent : Option Nat := none
  children : List Nat := []
deriving DecidableEq, Repr, Inhabited

namespace Definition

def ofSpan (id : Nat) (kind : Kind) (name : String) (span : LineSpan) : Definition :=
  { id, kind, name, startLine := span.first, endLine := span.last,
    loc := span.last - span.first + 1 }

/-- An entry that stands for no line of the file. -/
def report (id : Nat) (kind : Kind) (text : String) : Definition :=
  { id, kind, name := text, startLine := 0, endLine := 0, loc := 0 }

def error (id : Nat) (text : String) : Definition := report id .error text

def metadata (id : Nat) (text : String) : Definition := report id .metadata text

def span (d : Definition) : LineSpan := ⟨d.startLine, d.endLine⟩

def modifierTokens (d : Definition) : List String := Text.words (d.modifier.getD "")

def containsSpan (d e : Definition) : Bool := d.span.contains e.span

def unlink (d : Definition) : Definition := { d with parent := none, children := [] }

end Definition

def lastWithId? (defs : List Definition) (id : Nat) : Option Definition :=
  defs.findRev? (·.id == id)

end SourceOutline

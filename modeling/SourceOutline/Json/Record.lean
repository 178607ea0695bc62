import SourceOutline.Json

/-! Records in JSON. A record is an object, read by member names, or an array, read by position in
the order of its fields. -/
namespace SourceOutline.Json

inductive Record where
  | named (members : List (String × Json))
  | positional (items : List Json)

/-- A record with at most `arity` fields; further members are ignored, further items are not. -/
def toRecord? (arity : Nat) : Json → Option Record
  | obj members => some (.named members)
  | arr items => if items.length ≤ arity then some (.positional items) else none
  | _ => none

namespace Record

def get? (r : Record) (position : Nat) (key : String) : Option Json :=
  match r with
  | named members => (members.findRev? (·.1 == key)).map (·.2)
  | positional items => items[position]?

def required (r : Record) (position : Nat) (key : String) (read : Json → Option α) : Option α := do
  read (← r.get? position key)

/-- A field that may be null, or left out of an object. -/
def optional (r : Record) (position : Nat) (key : String) (read : Json → Option α) :
    Option (Option α) :=
  match r.get? position key, r with
  | some .null, _ => some none
  | some v, _ => (read v).map some
  | none, named _ => some none
  | none, positional _ => none

/-- A field that may be left out, and then is `default`. -/
def defaulted (r : Record) (position : Nat) (key : String) (default : α) (read : Json → Option α) :
    Option α :=
  match r.get? position key with
  | some v => read v
  | none => some default

def nullable (read : Json → Option α) : Json → Option (Option α)
  | .null => some none
  | v => (read v).map some

end Record

end SourceOutline.Json

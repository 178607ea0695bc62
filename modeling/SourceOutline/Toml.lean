import SourceOutline.Json

/-! TOML documents: values, and the tables that headers and keys build up. A table is given in one place
only, so every addition is checked against how the table came to be. -/
namespace SourceOutline

/-- Floats and dates keep their text. -/
inductive Toml where
  | str (s : String)
  | int (n : Int)
  | float (text : String)
  | bool (b : Bool)
  | date (text : String)
  | arr (items : List Toml)
  | table (members : List (String × Toml))
deriving Repr, Inhabited

namespace Toml

/-- How a table came to be: by a header of its own, by a header below it, or by a dotted key. -/
inductive Origin where
  | declared
  | implied
  | dotted
deriving DecidableEq, Repr, Inhabited

inductive Item where
  | value (v : Toml)
  | table (origin : Origin) (members : List (String × Item))
  | rows (tables : List (List (String × Item)))
deriving Inhabited

abbrev Members := List (String × Item)

namespace Members

def get? (ms : Members) (key : String) : Option Item := (ms.find? (·.1 == key)).map (·.2)

/-- The members with `item` under `key`, in its old place or at the end. -/
def put (key : String) (item : Item) : Members → Members
  | [] => [(key, item)]
  | (k, old) :: rest => if k == key then (key, item) :: rest else (k, old) :: put key item rest

/-- Changes the table at the end of a path, making the tables on the way. A path goes into the last row
of an array of tables. Dotted keys do not reach into a table with a header of its own. -/
def change (viaDots : Bool) (f : Origin → Members → Option Members) (origin : Origin) :
    List String → Members → Option Members
  | [], ms => f origin ms
  | key :: path, ms =>
    match get? ms key with
    | none => do
      let made := if viaDots then Origin.dotted else Origin.implied
      return put key (.table made (← change viaDots f made path [])) ms
    | some (.value _) => none
    | some (.table o inner) =>
      if viaDots && o == .declared then none
      else do return put key (.table o (← change viaDots f o path inner)) ms
    | some (.rows tables) =>
      match tables.getLast? with
      | none => none
      | some last => do
        return put key (.rows (tables.dropLast ++ [← change viaDots f .declared path last])) ms

/-- Adds a value under a dotted key. All but the last part of the key name tables that only dotted keys
have made. -/
def addValue (key : List String) (v : Toml) (origin : Origin) (ms : Members) : Option Members :=
  match key.getLast? with
  | none => none
  | some last =>
    change true (fun o ms =>
      if (o == .dotted) == key.dropLast.isEmpty then none
      else if (get? ms last).isSome then none
      else some (put last (.value v) ms)) origin key.dropLast ms

/-- Adds a table with a header of its own. Headers below it may have come first. -/
def addTable (path : List String) (ms : Members) : Option Members :=
  match path.getLast? with
  | none => none
  | some last =>
    change false (fun _ ms =>
      match get? ms last with
      | none => some (put last (.table .declared []) ms)
      | some (.table .implied inner) => some (put last (.table .declared inner) ms)
      | some _ => none) .declared path.dropLast ms

def addRow (path : List String) (ms : Members) : Option Members :=
  match path.getLast? with
  | none => none
  | some last =>
    change false (fun _ ms =>
      match get? ms last with
      | none => some (put last (.rows [[]]) ms)
      | some (.rows tables) => some (put last (.rows (tables ++ [[]])) ms)
      | some _ => none) .declared path.dropLast ms

end Members

mutual

def Item.finish : Item → Toml
  | .value v => v
  | .table _ members => .table (finishMembers members)
  | .rows tables => .arr (finishRows tables)

def finishMembers : List (String × Item) → List (String × Toml)
  | [] => []
  | (key, item) :: rest => (key, item.finish) :: finishMembers rest

def finishRows : List (List (String × Item)) → List Toml
  | [] => []
  | ms :: rest => .table (finishMembers ms) :: finishRows rest

end

inductive Statement where
  | table (path : List String)
  | row (path : List String)
  | value (key : List String) (v : Toml)

structure Reading where
  members : Members := []
  path : List String := []

def Reading.step (r : Reading) : Statement → Option Reading
  | .table path => do return { members := ← Members.addTable path r.members, path }
  | .row path => do return { members := ← Members.addRow path r.members, path }
  | .value key v => do
    return { r with members := ← Members.change false (Members.addValue key v) .declared r.path r.members }

def ofStatements? (statements : List Statement) : Option Toml := do
  return .table (finishMembers (← statements.foldlM Reading.step {}).members)

def ofPairs? (pairs : List (List String × Toml)) : Option Toml := do
  return .table (finishMembers
    (← pairs.foldlM (fun ms (key, v) => Members.addValue key v .declared ms) []))

mutual

/-- The same value in JSON. A date is a record without members that anyone asks for. -/
def toJson : Toml → Json
  | str s => .str s
  | int n => .int n
  | float text => .decimal text
  | bool b => .bool b
  | date _ => .obj []
  | arr items => .arr (itemsJson items)
  | table members => .obj (membersJson members)

def itemsJson : List Toml → List Json
  | [] => []
  | v :: vs => v.toJson :: itemsJson vs

def membersJson : List (String × Toml) → List (String × Json)
  | [] => []
  | (k, v) :: rest => (k, v.toJson) :: membersJson rest

end

end Toml

end SourceOutline

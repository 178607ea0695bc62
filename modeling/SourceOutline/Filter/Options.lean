import SourceOutline.Error
import SourceOutline.Json.Record

/-! What a filter asks of a definition, as the user writes it. -/
namespace SourceOutline

/-- Empty lists and absent bounds ask for nothing; all else must hold together. -/
structure FilterOptions where
  includeTypes : List String := []
  excludeTypes : List String := []
  includeModifiers : List String := []
  excludeModifiers : List String := []
  namePattern : Option String := none
  excludeNamePattern : Option String := none
  minComplexity : Option Nat := none
  maxComplexity : Option Nat := none
  minParameters : Option Nat := none
  maxParameters : Option Nat := none
deriving DecidableEq, Repr, Inhabited

namespace FilterOptions

def crossedBounds (what : String) (least most : Nat) : ScanError :=
  .invalidArgument ("min" ++ what ++ " (" ++ toString least ++ ") is greater than max" ++ what ++
    " (" ++ toString most ++ ")")

def checkBounds (what : String) : Option Nat → Option Nat → Except ScanError Unit
  | some least, some most =>
    if least > most then .error (crossedBounds what least most) else .ok ()
  | _, _ => .ok ()

def validate (o : FilterOptions) : Except ScanError Unit := do
  checkBounds "Complexity" o.minComplexity o.maxComplexity
  checkBounds "Parameters" o.minParameters o.maxParameters

def strings (xs : List String) : Json := .arr (xs.map Json.str)

def orNull (write : α → Json) : Option α → Json
  | some a => write a
  | none => .null

def toValues (o : FilterOptions) : List Json :=
  [strings o.includeTypes, strings o.excludeTypes, strings o.includeModifiers,
    strings o.excludeModifiers, orNull Json.str o.namePattern, orNull Json.str o.excludeNamePattern,
    orNull Json.nat o.minComplexity, orNull Json.nat o.maxComplexity, orNull Json.nat o.minParameters,
    orNull Json.nat o.maxParameters]

def keys : List String :=
  ["includeTypes", "excludeTypes", "includeModifiers", "excludeModifiers", "namePattern",
    "excludeNamePattern", "minComplexity", "maxComplexity", "minParameters", "maxParameters"]

def toJson (o : FilterOptions) : Json := .obj (keys.zip o.toValues)

/-- Every field may be left out, also from the end of an array; only lists may not be null. -/
def ofJson? (v : Json) : Option FilterOptions := do
  let r ← v.toRecord? 10
  let str := Json.Record.nullable Json.toStr?
  let nat32 := Json.Record.nullable Json.toNat32?
  let nat64 := Json.Record.nullable Json.toNat64?
  return { includeTypes := ← r.defaulted 0 "includeTypes" [] Json.toStrs?
           excludeTypes := ← r.defaulted 1 "excludeTypes" [] Json.toStrs?
           includeModifiers := ← r.defaulted 2 "includeModifiers" [] Json.toStrs?
           excludeModifiers := ← r.defaulted 3 "excludeModifiers" [] Json.toStrs?
           namePattern := ← r.defaulted 4 "namePattern" none str
           excludeNamePattern := ← r.defaulted 5 "excludeNamePattern" none str
           minComplexity := ← r.defaulted 6 "minComplexity" none nat32
           maxComplexity := ← r.defaulted 7 "maxComplexity" none nat32
           minParameters := ← r.defaulted 8 "minParameters" none nat64
           maxParameters := ← r.defaulted 9 "maxParameters" none nat64 }

end FilterOptions

end SourceOutline

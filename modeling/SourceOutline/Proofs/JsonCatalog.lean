import SourceOutline.Proofs.Bytes
import SourceOutline.Proofs.Records
import SourceOutline.Render.Json

/-! Catalogues come back from their JSON. A view is read by the keys that it shows: a key that is not
there is a field that is not shown, and without the key `children` there are none. -/
namespace SourceOutline

open Json (Record)

def Json.toNat? : Json → Option Nat
  | .int (.ofNat n) => some n
  | _ => none

namespace View

/-- First and last line, which are shown together. -/
def spanOf? : Option Nat → Option Nat → Option (Option LineSpan)
  | some first, some last => some (some ⟨first, last⟩)
  | none, none => some none
  | _, _ => none

theorem spanOf?_ends (lines : Option LineSpan) :
    spanOf? (lines.map (·.first)) (lines.map (·.last)) = some lines := by
  cases lines <;> rfl

mutual

def ofJson? : Json → Option View
  | .obj members => do
    let r := Record.named members
    return { kind := ← r.required 0 "type" fun k => k.toStr?.bind Kind.ofName?
             name := ← r.required 1 "name" Json.toStr?
             lines := ← spanOf? (← r.optional 2 "startLine" Json.toNat?)
               (← r.optional 3 "endLine" Json.toNat?)
             modifier := ← r.optional 4 "modifier" Json.toStr?
             dataType := ← r.optional 5 "dataType" Json.toStr?
             value := ← r.optional 6 "value" Json.toStr?
             returnType := ← r.optional 7 "returnType" Json.toStr?
             parameters := ← r.defaulted 8 "parameters" [] (Json.toListOf? Parameter.ofJson?)
             calls := ← r.defaulted 9 "calls" [] Json.toStrs?
             complexity := ← r.optional 10 "complexity" Json.toNat?
             children := ← childrenOf? members }
  | _ => none

def childrenOf? : List (String × Json) → Option (List View)
  | [] => some []
  | (key, .arr items) :: rest => if key = "children" then ofJsons? items else childrenOf? rest
  | (key, _) :: rest => if key = "children" then none else childrenOf? rest

def ofJsons? : List Json → Option (List View)
  | [] => some []
  | v :: vs => do return (← ofJson? v) :: (← ofJsons? vs)

end

def ofArray? : Json → Option (List View)
  | .arr items => ofJsons? items
  | _ => none

theorem toJson_eq (v : View) : v.toJson = .obj (v.ownMembers ++ childMembers (toJsons v.children)) := by
  cases v
  rw [toJson]

theorem childrenOf?_append {members : List (String × Json)} (others : List (String × Json))
    (apart : "children" ∉ members.map (·.1)) :
    childrenOf? (members ++ others) = childrenOf? others := by
  induction members with
  | nil => rfl
  | cons m members ih =>
    obtain ⟨key, v⟩ := m
    rw [List.map_cons, List.mem_cons, not_or] at apart
    have skipped : childrenOf? ((key, v) :: (members ++ others)) = childrenOf? (members ++ others) := by
      cases v <;> rw [childrenOf?, if_neg (Ne.symm apart.1)] <;> simp
    rw [List.cons_append, skipped, ih apart.2]

@[simp] theorem member?_linesMembers (lines : Option LineSpan) (key : String) :
    (Json.obj (linesMembers lines)).member? key =
      if "startLine" = key then lines.map fun l => .nat l.first
      else if "endLine" = key then lines.map fun l => .nat l.last else none := by
  cases lines with
  | none => simp [linesMembers]
  | some l =>
    by_cases first : "startLine" = key
    · simp [linesMembers, ← first]
    · by_cases last : "endLine" = key <;> simp [linesMembers, first, last]

@[simp] theorem member?_childMembers (children : List Json) (key : String) :
    (Json.obj (childMembers children)).member? key =
      if "children" = key ∧ children ≠ [] then some (.arr children) else none := by
  cases children <;> simp [childMembers]

theorem childrenOf?_members (v : View) :
    childrenOf? (v.ownMembers ++ childMembers (toJsons v.children)) = ofJsons? (toJsons v.children) := by
  have apart : "children" ∉ v.ownMembers.map (·.1) := by
    rw [← Json.member?_eq_none_iff]
    simp [ownMembers]
  rw [childrenOf?_append _ apart, childMembers]
  cases v.children with
  | nil => rfl
  | cons child children => simp [childrenOf?, toJsons]

/-- An object has each field of the view, its children apart, under its own convention. -/
structure HeldBy (v : View) (object : Json) : Prop where
  kind : object.member? "type" = some (.str v.kind.name)
  name : object.member? "name" = some (.str v.name)
  startLine : Json.HoldsOptional object "startLine" .nat (v.lines.map (·.first))
  endLine : Json.HoldsOptional object "endLine" .nat (v.lines.map (·.last))
  modifier : Json.HoldsOptional object "modifier" .str v.modifier
  dataType : Json.HoldsOptional object "dataType" .str v.dataType
  value : Json.HoldsOptional object "value" .str v.value
  returnType : Json.HoldsOptional object "returnType" .str v.returnType
  parameters : Json.HoldsList object "parameters" Parameter.toJson v.parameters
  calls : Json.HoldsList object "calls" .str v.calls
  complexity : Json.HoldsOptional object "complexity" .nat v.complexity

theorem heldBy_members (v : View) : v.HeldBy (.obj (v.ownMembers ++ childMembers (toJsons v.children))) where
  kind := by simp [ownMembers]
  name := by simp [ownMembers]
  startLine := .inl (by simp [ownMembers, Function.comp_def])
  endLine := .inl (by simp [ownMembers, Function.comp_def])
  modifier := .inl (by simp [ownMembers])
  dataType := .inl (by simp [ownMembers])
  value := .inl (by simp [ownMembers])
  returnType := .inl (by simp [ownMembers])
  parameters := by
    by_cases empty : v.parameters = []
    · exact .inr ⟨empty, by simp [ownMembers, empty]⟩
    · exact .inl (by simp [ownMembers, empty])
  calls := by
    by_cases empty : v.calls = []
    · exact .inr ⟨empty, by simp [ownMembers, empty]⟩
    · exact .inl (by simp [ownMembers, empty])
  complexity := .inl (by simp [ownMembers])

theorem HeldBy.ofJson? {v : View} {members : List (String × Json)} (held : v.HeldBy (.obj members))
    (below : childrenOf? members = some v.children) : ofJson? (.obj members) = some v := by
  have number {position : Nat} {key : String} {n : Option Nat}
      (holds : Json.HoldsOptional (.obj members) key .nat n) :
      (Record.named members).optional position key Json.toNat? = some n :=
    Json.optional_eq holds nofun fun _ _ => rfl
  have kind : (Record.named members).required 0 "type" (fun k => k.toStr?.bind Kind.ofName?) =
      some v.kind := Json.required_eq held.kind v.kind.ofName?_name
  have name : (Record.named members).required 1 "name" Json.toStr? = some v.name :=
    Json.required_eq held.name rfl
  rw [View.ofJson?]
  simp only [Option.bind_eq_bind, Option.bind_some, Option.pure_def, kind, name,
    number held.startLine, number held.endLine, spanOf?_ends,
    Json.optional_text held.modifier, Json.optional_text held.dataType, Json.optional_text held.value,
    Json.optional_text held.returnType, Json.defaulted_eq held.parameters fun p _ => p.ofJson?_toJson,
    Json.defaulted_texts held.calls, number held.complexity, below]
  cases v
  rfl

mutual

theorem ofJson?_toJson : ∀ v : View, ofJson? v.toJson = some v
  | ⟨kind, name, lines, modifier, dataType, value, returnType, parameters, calls, complexity,
      children⟩ => by
    rw [toJson_eq]
    refine (heldBy_members _).ofJson? ?_
    rw [childrenOf?_members]
    exact ofJsons?_toJsons children

theorem ofJsons?_toJsons : ∀ vs : List View, ofJsons? (toJsons vs) = some vs
  | [] => rfl
  | v :: vs => by
    rw [toJsons, ofJsons?, ofJson?_toJson v, ofJsons?_toJsons vs]
    rfl

end

mutual

theorem toJson_plain : ∀ v : View, v.toJson.Plain
  | ⟨kind, name, lines, modifier, dataType, value, returnType, parameters, calls, complexity,
      children⟩ => by
    have linesPlain : Json.PlainMembers (linesMembers lines) := by
      cases lines <;> simp [linesMembers, Json.PlainMembers]
    have below : Json.PlainMembers (childMembers (toJsons children)) := by
      cases children with
      | nil => trivial
      | cons child children => exact ⟨toJsons_plain (child :: children), trivial⟩
    rw [toJson_eq]
    simp [Json.Plain, ownMembers, linesPlain, below, Json.PlainMembers, Parameter.toJson_plain]

theorem toJsons_plain : ∀ vs : List View, Json.PlainItems (toJsons vs)
  | [] => trivial
  | v :: vs => ⟨toJson_plain v, toJsons_plain vs⟩

end

end View

namespace Render

theorem jsonValue_plain (catalog : Catalog) (detail : Detail) : (jsonValue catalog detail).Plain := by
  rw [jsonValue, Json.Plain, Json.plainMembers_iff]
  intro m member
  obtain ⟨file, _, rfl⟩ := List.mem_map.mp member
  exact View.toJsons_plain _

/-- The JSON of a catalogue is an object with the paths as keys, in the order of their bytes; under each
path stands what is shown of its file. -/
theorem json_recovers_forests (catalog : Catalog) (detail : Detail)
    (ordered : (catalog.map (·.1)).Pairwise (· < ·)) :
    ∃ members, Json.parse (json catalog detail) = some (.obj members) ∧
      members.map (·.1) = catalog.map (·.1) ∧
      (members.map (·.1)).Pairwise (fun a b => Text.bytes a < Text.bytes b) ∧
      ∀ path defs, (path, defs) ∈ catalog →
        ((Json.obj members).member? path).bind View.ofArray? = some (View.forest detail defs) := by
  have keys : (catalog.map fun file =>
      (file.1, Json.arr (View.toJsons (View.forest detail file.2)))).map (·.1) =
        catalog.map (·.1) := by simp [Function.comp_def]
  refine ⟨_, Json.parse_pretty (jsonValue_plain catalog detail), keys, ?_, ?_⟩
  · rw [keys]
    exact ordered.imp Text.bytes_lt_bytes
  · intro path defs member
    have distinct : (catalog.map (·.1)).Nodup := ordered.imp (fun less => String.ne_of_lt less)
    rw [Json.member?_of_mem (keys ▸ distinct) (List.mem_map.mpr ⟨_, member, rfl⟩)]
    exact View.ofJsons?_toJsons _

/-- A method in a class, with quotes, a backslash and control characters in names and paths. -/
theorem json_recovers_forests_quoted :
    let defs : List Definition :=
      [{ id := 1, kind := .classDef, name := "C\t", startLine := 1, endLine := 4, loc := 4,
         children := [2] },
       { id := 2, kind := .method, name := "a\"\\\n\x01é", startLine := 2, endLine := 3, loc := 2,
         value := some "", parameters := [⟨"x", none⟩], calls := ["\\u0022"], parent := some 1 }]
    let catalog : Catalog := [("a\"b.js", defs), ("é\\.js", [])]
    (catalog.map (·.1)).Pairwise (· < ·) ∧
      ∃ members, Json.parse (json catalog .detailed) = some (.obj members) ∧
        members.map (·.1) = ["a\"b.js", "é\\.js"] ∧
        ((Json.obj members).member? "a\"b.js").bind View.ofArray? =
          some (View.forest .detailed defs) := by
  intro defs catalog
  have ordered : (catalog.map (·.1)).Pairwise (· < ·) := by
    simp only [catalog, List.map_cons, List.map_nil]
    decide
  obtain ⟨members, parsed, keys, -, read⟩ := json_recovers_forests catalog .detailed ordered
  exact ⟨ordered, members, parsed, keys, read _ _ List.mem_cons_self⟩

end Render

end SourceOutline

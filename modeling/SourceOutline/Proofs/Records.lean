import SourceOutline.Filter.Options
import SourceOutline.Proofs.Members

/-! Definitions and filter options come back from JSON as they were written. Each field follows one of
four conventions: always written, left out when absent, left out when empty, or null when absent. A
reader that knows the field's convention recovers it, so that the conventions of all fields together
give back the record. -/
namespace SourceOutline

open Json (Record)

theorem bind_eq_some_of {α β : Type} {x : Option α} {next : α → Option β} {a : α} {b : β}
    (first : x = some a) (rest : next a = some b) : (x >>= next) = some b := by
  rw [first]
  exact rest

namespace Json

variable {α : Type} {object : Json} {members : List (String × Json)} {position : Nat} {key : String}
  {read : Json → Option α}

/-- An optional member: what is there is written, what is absent is left out or null. -/
def HoldsOptional (object : Json) (key : String) (write : α → Json) (a : Option α) : Prop :=
  object.member? key = a.map write ∨ a = none ∧ object.member? key = some .null

/-- A list that is left out when it is empty. -/
def HoldsList (object : Json) (key : String) (write : α → Json) (items : List α) : Prop :=
  object.member? key = some (.arr (items.map write)) ∨ items = [] ∧ object.member? key = none

theorem required_eq {v : Json} {a : α} (found : (obj members).member? key = some v)
    (back : read v = some a) : (Record.named members).required position key read = some a := by
  simp [Record.required, get?_named, found, back]

theorem optional_eq {write : α → Json} {a : Option α}
    (holds : HoldsOptional (obj members) key write a) (filled : ∀ x, write x ≠ .null)
    (back : ∀ x ∈ a, read (write x) = some x) :
    (Record.named members).optional position key read = some a := by
  simp only [Record.optional, get?_named]
  cases a with
  | none => rcases holds with found | ⟨_, found⟩ <;> simp [found]
  | some x =>
    have found : (obj members).member? key = some (write x) := by simpa [HoldsOptional] using holds
    rw [found]
    cases written : write x with
    | null => exact absurd written (filled x)
    | _ => simp [← written, back x rfl]

theorem defaulted_eq {write : α → Json} {items : List α}
    (holds : HoldsList (obj members) key write items) (back : ∀ x ∈ items, read (write x) = some x) :
    (Record.named members).defaulted position key [] (toListOf? read) = some items := by
  simp only [Record.defaulted, get?_named]
  rcases holds with found | ⟨rfl, found⟩
  · rw [found]
    exact toListOf?_map back
  · rw [found]

theorem optional_text {text : Option String} (holds : HoldsOptional (obj members) key str text) :
    (Record.named members).optional position key toStr? = some text :=
  optional_eq holds nofun fun _ _ => rfl

theorem defaulted_texts {texts : List String} (holds : HoldsList (obj members) key str texts) :
    (Record.named members).defaulted position key [] toStrs? = some texts :=
  defaulted_eq holds fun _ _ => rfl

/-- The value, and its text on one line and on many, are read as `a`. -/
def ReadAs (v : Json) (read : Json → Option α) (a : α) : Prop :=
  read v = some a ∧ (parse v.compact).bind read = some a ∧ (parse v.pretty).bind read = some a

theorem Plain.readAs {v : Json} (plain : v.Plain) {a : α} (back : read v = some a) :
    v.ReadAs read a := by
  rw [ReadAs, parse_compact plain, parse_pretty plain]
  exact ⟨back, back, back⟩

end Json

theorem Kind.ofName?_name (k : Kind) : ofName? k.name = some k := by
  cases k <;> rfl

theorem Parameter.ofJson?_toJson (p : Parameter) : ofJson? p.toJson = some p := by
  obtain ⟨name, type⟩ := p
  cases type <;> rfl

theorem Parameter.toJson_plain (p : Parameter) : p.toJson.Plain := by
  simp [toJson, Json.Plain]

namespace Definition

/-- The numbers have the width in which they are kept. -/
structure Fits (d : Definition) : Prop where
  wide : ∀ n ∈ [d.id, d.startLine, d.endLine, d.loc, d.parameterCount] ++ d.parent.toList ++ d.children,
    n < UInt64.size
  narrow : d.complexity < UInt32.size

/-- An object has each field of the definition under its own convention. -/
structure HeldBy (d : Definition) (object : Json) : Prop where
  id : object.member? "id" = some (.nat d.id)
  kind : object.member? "kind" = some (.str d.kind.name)
  name : object.member? "name" = some (.str d.name)
  startLine : object.member? "startLine" = some (.nat d.startLine)
  endLine : object.member? "endLine" = some (.nat d.endLine)
  loc : object.member? "loc" = some (.nat d.loc)
  modifier : Json.HoldsOptional object "modifier" .str d.modifier
  dataType : Json.HoldsOptional object "dataType" .str d.dataType
  value : Json.HoldsOptional object "value" .str d.value
  returnType : Json.HoldsOptional object "returnType" .str d.returnType
  parameters : Json.HoldsList object "parameters" Parameter.toJson d.parameters
  calls : Json.HoldsList object "calls" .str d.calls
  complexity : object.member? "complexity" = some (.nat d.complexity)
  parameterCount : object.member? "parameterCount" = some (.nat d.parameterCount)
  parent : Json.HoldsOptional object "parentId" .nat d.parent
  children : Json.HoldsList object "children" .nat d.children

variable {d : Definition}

theorem HeldBy.ofJson? {members : List (String × Json)} (held : d.HeldBy (.obj members))
    (fits : d.Fits) : ofJson? (.obj members) = some d := by
  have wide (n : Nat) (listed : n ∈ [d.id, d.startLine, d.endLine, d.loc, d.parameterCount] ++
      d.parent.toList ++ d.children) : Json.toNat64? (.nat n) = some n :=
    Json.toNatBelow?_nat (fits.wide n listed)
  have narrow : Json.toNat32? (.nat d.complexity) = some d.complexity :=
    Json.toNatBelow?_nat fits.narrow
  have parent : (Record.named members).optional 14 "parentId" Json.toNat64? = some d.parent :=
    Json.optional_eq held.parent nofun fun p member => wide p (by simp_all)
  have children : (Record.named members).defaulted 15 "children" [] (Json.toListOf? Json.toNat64?) =
      some d.children :=
    Json.defaulted_eq held.children fun c member => wide c (by simp [member])
  unfold Definition.ofJson?
  refine bind_eq_some_of rfl ?_
  refine bind_eq_some_of (Json.required_eq held.id (wide d.id (by simp))) ?_
  refine bind_eq_some_of (Json.required_eq held.kind d.kind.ofName?_name) ?_
  refine bind_eq_some_of (Json.required_eq held.name rfl) ?_
  refine bind_eq_some_of (Json.required_eq held.startLine (wide d.startLine (by simp))) ?_
  refine bind_eq_some_of (Json.required_eq held.endLine (wide d.endLine (by simp))) ?_
  refine bind_eq_some_of (Json.required_eq held.loc (wide d.loc (by simp))) ?_
  refine bind_eq_some_of (Json.optional_text held.modifier) ?_
  refine bind_eq_some_of (Json.optional_text held.dataType) ?_
  refine bind_eq_some_of (Json.optional_text held.value) ?_
  refine bind_eq_some_of (Json.optional_text held.returnType) ?_
  refine bind_eq_some_of (Json.defaulted_eq held.parameters fun p _ => p.ofJson?_toJson) ?_
  refine bind_eq_some_of (Json.defaulted_texts held.calls) ?_
  refine bind_eq_some_of (Json.required_eq held.complexity narrow) ?_
  refine bind_eq_some_of (Json.required_eq held.parameterCount (wide d.parameterCount (by simp))) ?_
  refine bind_eq_some_of parent ?_
  exact bind_eq_some_of children rfl

def lacks (d : Definition) : String → Bool
  | "modifier" => d.modifier.isNone
  | "dataType" => d.dataType.isNone
  | "value" => d.value.isNone
  | "returnType" => d.returnType.isNone
  | "parentId" => d.parent.isNone
  | _ => false

theorem member?_of_lacks {key : String} (lacks : d.lacks key = true) :
    (Json.obj d.members).member? key = none := by
  unfold Definition.lacks at lacks
  split at lacks
  case h_6 => contradiction
  all_goals simp [members, Option.isNone_iff_eq_none.mp lacks]

theorem members_keys_nodup (d : Definition) : (d.members.map (·.1)).Nodup := by
  have text (key : String) (text : Option String) :
      ((optionalText key text).map (·.1)).Sublist [key] := by
    cases text <;> simp [optionalText]
  have list {α : Type} (key : String) (items : List α) (write : α → Json) :
      ((nonemptyList key items write).map (·.1)).Sublist [key] := by
    cases items <;> simp [nonemptyList]
  have parent : ((d.parent.map fun p => ("parentId", Json.nat p)).toList.map (·.1)).Sublist
      ["parentId"] := by
    cases d.parent <;> simp
  have keys : (d.members.map (·.1)).Sublist
      (["id", "kind", "name", "startLine", "endLine", "loc"] ++ ["modifier"] ++ ["dataType"] ++
        ["value"] ++ ["returnType"] ++ ["parameters"] ++ ["calls"] ++
        ["complexity", "parameterCount"] ++ ["parentId"] ++ ["children"]) := by
    simp only [members, List.map_append]
    exact (((((((((List.Sublist.refl _).append (text ..)).append (text ..)).append (text ..)).append
      (text ..)).append (list ..)).append (list ..)).append (.refl _)).append parent).append (.refl _)
  exact keys.nodup (by decide)

variable {nulls : List String}

theorem with_nulls_nodup (once : nulls.Nodup) (absent : ∀ key ∈ nulls, d.lacks key = true) :
    ((d.members ++ nulls.map fun key => (key, Json.null)).map (·.1)).Nodup := by
  rw [List.map_append, List.map_map, List.nodup_append]
  refine ⟨d.members_keys_nodup, by simpa [Function.comp_def] using once, ?_⟩
  rintro key listed other null rfl
  have gone := member?_of_lacks (absent key (by simpa using null))
  exact Json.member?_eq_none_iff.mp gone listed

theorem heldBy_of_perm (once : nulls.Nodup) (absent : ∀ key ∈ nulls, d.lacks key = true)
    {members : List (String × Json)}
    (perm : members.Perm (d.members ++ nulls.map fun key => (key, .null))) :
    d.HeldBy (.obj members) := by
  have lookup (key : String) : (Json.obj members).member? key =
      (if key ∈ nulls then some .null else none).or ((Json.obj d.members).member? key) := by
    rw [Json.member?_perm (with_nulls_nodup once absent) perm.symm, Json.member?_append,
      Json.member?_nulls]
  have present {key : String} (other : d.lacks key = false) :
      (Json.obj members).member? key = (Json.obj d.members).member? key := by
    rw [lookup, if_neg fun listed => by simp [absent key listed] at other, Option.none_or]
  have optional {α : Type} {key : String} {write : α → Json} {a : Option α}
      (written : (Json.obj d.members).member? key = a.map write)
      (gone : d.lacks key = true → a = none) : Json.HoldsOptional (.obj members) key write a := by
    by_cases listed : key ∈ nulls
    · exact .inr ⟨gone (absent key listed), by rw [lookup, if_pos listed, Option.some_or]⟩
    · exact .inl (by rw [lookup, if_neg listed, written, Option.none_or])
  have list {α : Type} {key : String} {write : α → Json} {items : List α} (other : d.lacks key = false)
      (written : (Json.obj d.members).member? key =
        if items = [] then none else some (.arr (items.map write))) :
      Json.HoldsList (.obj members) key write items := by
    rw [Json.HoldsList, present other, written]
    by_cases empty : items = [] <;> simp [empty]
  constructor
  case modifier => exact optional (by simp [Definition.members]) (by simp [lacks])
  case dataType => exact optional (by simp [Definition.members]) (by simp [lacks])
  case value => exact optional (by simp [Definition.members]) (by simp [lacks])
  case returnType => exact optional (by simp [Definition.members]) (by simp [lacks])
  case parent => exact optional (by simp [Definition.members]) (by simp [lacks])
  case parameters => exact list (by simp [lacks]) (by simp [Definition.members])
  case calls => exact list (by simp [lacks]) (by simp [Definition.members])
  case children => exact .inl ((present (by simp [lacks])).trans (by simp [Definition.members]))
  all_goals exact (present (by simp [lacks])).trans (by simp [Definition.members])

def listFields : List (Nat × String) := [(10, "parameters"), (11, "calls"), (15, "children")]

theorem lists_of_ofJson? {v : Json} (read : ofJson? v = some d) :
    ∃ r, v.toRecord? 16 = some r ∧
      r.defaulted 10 "parameters" [] (Json.toListOf? Parameter.ofJson?) = some d.parameters ∧
      r.defaulted 11 "calls" [] Json.toStrs? = some d.calls ∧
      r.defaulted 15 "children" [] (Json.toListOf? Json.toNat64?) = some d.children := by
  unfold Definition.ofJson? at read
  obtain ⟨r, record, read⟩ := Option.bind_eq_some_iff.mp read
  iterate 10 obtain ⟨_, _, read⟩ := Option.bind_eq_some_iff.mp read
  obtain ⟨_, parameters, read⟩ := Option.bind_eq_some_iff.mp read
  obtain ⟨_, calls, read⟩ := Option.bind_eq_some_iff.mp read
  iterate 3 obtain ⟨_, _, read⟩ := Option.bind_eq_some_iff.mp read
  obtain ⟨_, children, read⟩ := Option.bind_eq_some_iff.mp read
  obtain rfl := Option.some.inj read
  exact ⟨r, record, parameters, calls, children⟩

theorem ofJson?_of_null {v : Json} {r : Record} (record : v.toRecord? 16 = some r)
    {field : Nat × String} (list : field ∈ listFields) (null : r.get? field.1 field.2 = some .null) :
    ofJson? v = none := by
  have refused {α : Type} (read : Json → Option α) :
      r.defaulted field.1 field.2 [] (Json.toListOf? read) = none := by
    simp [Record.defaulted, null, Json.toListOf?, Json.toArr?]
  by_contra some_
  obtain ⟨d, read⟩ := Option.ne_none_iff_exists'.mp some_
  obtain ⟨other, recordToo, parameters, calls, children⟩ := lists_of_ofJson? read
  obtain rfl : r = other := Option.some.inj (record.symm.trans recordToo)
  simp only [listFields, List.mem_cons, List.not_mem_nil, or_false] at list
  rcases list with rfl | rfl | rfl
  · simp [refused] at parameters
  · simp [Json.toStrs?, refused] at calls
  · simp [refused] at children

theorem members_plain (d : Definition) : Json.PlainMembers d.members := by
  simp [members, Parameter.toJson_plain, Json.PlainMembers]

theorem toJson_plain (d : Definition) : d.toJson.Plain := d.members_plain

end Definition

namespace FilterOptions

/-- The bounds have the width in which they are kept. -/
structure Fits (o : FilterOptions) : Prop where
  complexity : ∀ n ∈ o.minComplexity.toList ++ o.maxComplexity.toList, n < UInt32.size
  parameters : ∀ n ∈ o.minParameters.toList ++ o.maxParameters.toList, n < UInt64.size

variable {o : FilterOptions}

theorem strings_back (texts : List String) : Json.toStrs? (strings texts) = some texts :=
  Json.toStrs?_map texts

theorem nullable_orNull {α : Type} {read : Json → Option α} {write : α → Json} {a : Option α}
    (filled : ∀ x, write x ≠ .null) (back : ∀ x ∈ a, read (write x) = some x) :
    Record.nullable read (orNull write a) = some a := by
  cases a with
  | none => rfl
  | some x =>
    rw [orNull]
    cases written : write x with
    | null => exact absurd written (filled x)
    | _ => simp [Record.nullable, ← written, back x rfl]

theorem ofJson?_of_values (fits : o.Fits) {v : Json} {r : Record} (record : v.toRecord? 10 = some r)
    (holds : ∀ position key, keys[position]? = some key →
      r.get? position key = o.toValues[position]?) : ofJson? v = some o := by
  have value {α : Type} {position : Nat} {key : String} {written : Json} {default a : α}
      {read : Json → Option α} (found : r.get? position key = some written)
      (back : read written = some a) : r.defaulted position key default read = some a := by
    simp [Record.defaulted, found, back]
  have text {a : Option String} : Record.nullable Json.toStr? (orNull .str a) = some a :=
    nullable_orNull nofun fun _ _ => rfl
  have narrow {a : Option Nat} (small : ∀ n ∈ a, n < UInt32.size) :
      Record.nullable Json.toNat32? (orNull .nat a) = some a :=
    nullable_orNull nofun fun n member => Json.toNatBelow?_nat (small n member)
  have wide {a : Option Nat} (small : ∀ n ∈ a, n < UInt64.size) :
      Record.nullable Json.toNat64? (orNull .nat a) = some a :=
    nullable_orNull nofun fun n member => Json.toNatBelow?_nat (small n member)
  have complexity {a : Option Nat}
      (bound : ∀ n ∈ a, n ∈ o.minComplexity.toList ++ o.maxComplexity.toList) :=
    narrow fun n member => fits.complexity n (bound n member)
  have parameters {a : Option Nat}
      (bound : ∀ n ∈ a, n ∈ o.minParameters.toList ++ o.maxParameters.toList) :=
    wide fun n member => fits.parameters n (bound n member)
  unfold ofJson?
  refine bind_eq_some_of record ?_
  refine bind_eq_some_of (value (holds 0 "includeTypes" rfl) (strings_back _)) ?_
  refine bind_eq_some_of (value (holds 1 "excludeTypes" rfl) (strings_back _)) ?_
  refine bind_eq_some_of (value (holds 2 "includeModifiers" rfl) (strings_back _)) ?_
  refine bind_eq_some_of (value (holds 3 "excludeModifiers" rfl) (strings_back _)) ?_
  refine bind_eq_some_of (value (holds 4 "namePattern" rfl) text) ?_
  refine bind_eq_some_of (value (holds 5 "excludeNamePattern" rfl) text) ?_
  refine bind_eq_some_of (value (holds 6 "minComplexity" rfl) (complexity (by simp_all))) ?_
  refine bind_eq_some_of (value (holds 7 "maxComplexity" rfl) (complexity (by simp_all))) ?_
  refine bind_eq_some_of (value (holds 8 "minParameters" rfl) (parameters (by simp_all))) ?_
  exact bind_eq_some_of (value (holds 9 "maxParameters" rfl) (parameters (by simp_all))) rfl

theorem ofJson?_toJson (fits : o.Fits) : ofJson? o.toJson = some o :=
  ofJson?_of_values fits rfl fun _ _ place => Json.member?_zip (by decide) rfl place

theorem ofJson?_toValues (fits : o.Fits) : ofJson? (.arr o.toValues) = some o :=
  ofJson?_of_values fits rfl fun _ _ _ => rfl

theorem toValues_plain (o : FilterOptions) : Json.PlainItems o.toValues := by
  have orNull {α : Type} {write : α → Json} (plain : ∀ x, (write x).Plain) (a : Option α) :
      (orNull write a).Plain := by
    cases a with
    | none => trivial
    | some x => exact plain x
  simp [toValues, Json.PlainItems, strings, orNull]

theorem toJson_plain (o : FilterOptions) : o.toJson.Plain := by
  rw [toJson, Json.Plain, Json.plainMembers_iff]
  intro m member
  exact Json.plainItems_iff.mp o.toValues_plain _ (List.of_mem_zip member).2

end FilterOptions

/-- A definition is read back from its JSON, with null for any of its absent fields and the members in
any order, but never with null for a list; filter options are read back from the object of their ten
values and from the array of them. -/
theorem records_read_back :
    (∀ d : Definition, d.Fits → d.toJson.ReadAs Definition.ofJson? d ∧
      ∀ nulls : List String, nulls.Nodup → (∀ key ∈ nulls, d.lacks key = true) →
        ∀ members : List (String × Json),
          members.Perm (d.members ++ nulls.map fun key => (key, .null)) →
          (Json.obj members).ReadAs Definition.ofJson? d) ∧
    (∀ (v : Json) (r : Record), v.toRecord? 16 = some r → ∀ field ∈ Definition.listFields,
      r.get? field.1 field.2 = some .null → Definition.ofJson? v = none) ∧
    ∀ o : FilterOptions, o.Fits → o.toJson.ReadAs FilterOptions.ofJson? o ∧
      (Json.arr o.toValues).ReadAs FilterOptions.ofJson? o := by
  refine ⟨fun d fits => ⟨?_, ?_⟩, ?_, fun o fits => ⟨?_, ?_⟩⟩
  · have held : d.HeldBy (.obj d.members) :=
      Definition.heldBy_of_perm List.nodup_nil nofun (by simp)
    exact d.toJson_plain.readAs (held.ofJson? fits)
  · intro nulls once absent members perm
    have plain : (Json.obj members).Plain := by
      rw [Json.Plain, Json.plainMembers_iff]
      intro m member
      rcases List.mem_append.mp (perm.mem_iff.mp member) with written | null
      · exact Json.plainMembers_iff.mp d.members_plain m written
      · obtain ⟨key, _, rfl⟩ := List.mem_map.mp null
        trivial
    exact plain.readAs ((Definition.heldBy_of_perm once absent perm).ofJson? fits)
  · intro v r record field list null
    exact Definition.ofJson?_of_null record list null
  · exact o.toJson_plain.readAs (FilterOptions.ofJson?_toJson fits)
  · have plain : (Json.arr o.toValues).Plain := o.toValues_plain
    exact plain.readAs (FilterOptions.ofJson?_toValues fits)

/-- A name with quotes and control characters, an empty value, absent fields as null. -/
theorem records_read_back_nulls :
    let d : Definition :=
      { id := 7, kind := .method, name := "a\"\\\n\x01é", startLine := 3, endLine := 4, loc := 2,
        value := some "", parameters := [⟨"x", none⟩], children := [9] }
    let o : FilterOptions := { includeTypes := ["class"], maxParameters := some 3 }
    d.Fits ∧ o.Fits ∧ d.toJson.ReadAs Definition.ofJson? d ∧
    (Json.obj (("parentId", .null) :: d.members)).ReadAs Definition.ofJson? d ∧
    Definition.ofJson? (.obj (d.members ++ [("calls", .null)])) = none ∧
    (Json.arr o.toValues).ReadAs FilterOptions.ofJson? o := by
  intro d o
  have fits : d.Fits := ⟨by decide, by decide⟩
  have fitsToo : o.Fits := ⟨by decide, by decide⟩
  obtain ⟨definitions, nulls, options⟩ := records_read_back
  obtain ⟨plainly, withNulls⟩ := definitions d fits
  refine ⟨fits, fitsToo, plainly, ?_, ?_, (options o fitsToo).2⟩
  · exact withNulls ["parentId"] (by decide) (by decide) _ (List.perm_append_singleton _ _).symm
  · exact nulls _ _ rfl (11, "calls") (by decide) (by simp [Json.get?_named])

end SourceOutline

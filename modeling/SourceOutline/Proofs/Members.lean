import Mathlib.Data.List.Nodup
import SourceOutline.Definition.Json
import SourceOutline.Proofs.JsonText
import SourceOutline.Proofs.Lookup

/-! What stands under a key of an object. Writers put members together piece by piece; a key is looked
up piece by piece too, from the last. Where keys are distinct their order does not matter. -/
namespace SourceOutline.Json

variable {members others : List (String × Json)} {key : String} {v : Json}

theorem get?_named (members : List (String × Json)) (position : Nat) (key : String) :
    (Record.named members).get? position key = (obj members).member? key := rfl

@[simp] theorem member?_nil (key : String) : (obj []).member? key = none := rfl

@[simp] theorem member?_append (members others : List (String × Json)) (key : String) :
    (obj (members ++ others)).member? key =
      ((obj others).member? key).or ((obj members).member? key) := by
  simp only [member?, List.findRev?_eq_find?_reverse, List.reverse_append, List.find?_append,
    Option.map_or]

@[simp] theorem member?_cons (k : String) (v : Json) (members : List (String × Json))
    (key : String) :
    (obj ((k, v) :: members)).member? key =
      ((obj members).member? key).or (if k = key then some v else none) := by
  have single : (obj [(k, v)]).member? key = if k = key then some v else none := by
    by_cases same : k = key <;> simp [member?, List.findRev?, same]
  rw [← single, ← member?_append]
  rfl

theorem member?_eq_none_iff : (obj members).member? key = none ↔ key ∉ members.map (·.1) := by
  simp only [member?, List.findRev?_eq_find?_reverse, Option.map_eq_none_iff, List.find?_eq_none,
    List.mem_reverse, beq_iff_eq, List.mem_map, not_exists, not_and]

theorem member?_of_mem (distinct : (members.map (·.1)).Nodup) (member : (key, v) ∈ members) :
    (obj members).member? key = some v := by
  rw [member?, List.findRev?_eq_find?_reverse, find?_eq_some_of_unique (x := (key, v))]
  · rfl
  · simpa using member
  · simp
  · intro other listed same
    exact List.inj_on_of_nodup_map distinct (by simpa using listed) member (by simpa using same)

/-- The members of an object may be written in any order. -/
theorem member?_perm (distinct : (members.map (·.1)).Nodup) (perm : members.Perm others)
    (key : String) : (obj others).member? key = (obj members).member? key := by
  have distinctToo : (others.map (·.1)).Nodup := (perm.map _).nodup_iff.mp distinct
  by_cases listed : key ∈ members.map (·.1)
  · obtain ⟨⟨k, v⟩, member, rfl⟩ := List.mem_map.mp listed
    rw [member?_of_mem distinct member, member?_of_mem distinctToo (perm.mem_iff.mp member)]
  · rw [member?_eq_none_iff.mpr listed, member?_eq_none_iff.mpr ((perm.map _).mem_iff.not.mp listed)]

@[simp] theorem member?_optionalText (k : String) (text : Option String) (key : String) :
    (obj (Definition.optionalText k text)).member? key = if k = key then text.map str else none := by
  cases text <;> simp [Definition.optionalText]

@[simp] theorem member?_nonemptyList {α : Type} (k : String) (items : List α) (write : α → Json)
    (key : String) :
    (obj (Definition.nonemptyList k items write)).member? key =
      if k = key ∧ items ≠ [] then some (arr (items.map write)) else none := by
  cases items <;> simp [Definition.nonemptyList]

@[simp] theorem member?_option {α : Type} (k : String) (a : Option α) (write : α → Json)
    (key : String) :
    (obj (a.map fun x => (k, write x)).toList).member? key =
      if k = key then a.map write else none := by
  cases a <;> simp

@[simp] theorem member?_nulls (keys : List String) (key : String) :
    (obj (keys.map fun k => (k, null))).member? key = if key ∈ keys then some null else none := by
  induction keys with
  | nil => rfl
  | cons k keys ih =>
    rw [List.map_cons, member?_cons, ih]
    split_ifs <;> simp_all

/-- Values under a list of keys stand at the places of their keys. -/
theorem member?_zip {keys : List String} {values : List Json} (distinct : keys.Nodup)
    (same : keys.length = values.length) {position : Nat} (place : keys[position]? = some key) :
    (obj (keys.zip values)).member? key = values[position]? := by
  obtain ⟨inside, _⟩ := List.getElem?_eq_some_iff.mp place
  have value : values[position]? = some values[position] := List.getElem?_eq_getElem (same ▸ inside)
  have member : (key, values[position]) ∈ keys.zip values :=
    List.mem_of_getElem? (List.getElem?_zip_eq_some.mpr ⟨place, value⟩)
  rw [value]
  exact member?_of_mem (by rwa [List.map_fst_zip (by omega)]) member

theorem toListOf?_map {α : Type} {read : Json → Option α} {write : α → Json} {xs : List α}
    (back : ∀ x ∈ xs, read (write x) = some x) :
    toListOf? read (arr (xs.map write)) = some xs := by
  simp only [toListOf?, toArr?, Option.bind_eq_bind, Option.bind_some]
  exact mapM_map_eq_some back

theorem toStrs?_map (texts : List String) : toStrs? (arr (texts.map str)) = some texts :=
  toListOf?_map fun _ _ => rfl

theorem toNatBelow?_nat {bound n : Nat} (less : n < bound) : toNatBelow? bound (nat n) = some n := by
  change (if n < bound then some n else none) = some n
  rw [if_pos less]

theorem plainItems_iff {vs : List Json} : PlainItems vs ↔ ∀ v ∈ vs, v.Plain := by
  induction vs with
  | nil => simp [PlainItems]
  | cons v vs ih => simp [PlainItems, ih]

theorem plainMembers_iff : PlainMembers members ↔ ∀ m ∈ members, m.2.Plain := by
  induction members with
  | nil => simp [PlainMembers]
  | cons m members ih => simp [PlainMembers, ih]

@[simp] theorem plain_str (s : String) : (str s).Plain := trivial

@[simp] theorem plain_nat (n : Nat) : (nat n).Plain := trivial

@[simp] theorem plain_map {α : Type} (items : List α) (write : α → Json) :
    (arr (items.map write)).Plain ↔ ∀ x ∈ items, (write x).Plain := by
  rw [Plain, plainItems_iff]
  simp

@[simp] theorem plainMembers_cons (k : String) (v : Json) (members : List (String × Json)) :
    PlainMembers ((k, v) :: members) ↔ v.Plain ∧ PlainMembers members := Iff.rfl

@[simp] theorem plainMembers_append (members others : List (String × Json)) :
    PlainMembers (members ++ others) ↔ PlainMembers members ∧ PlainMembers others := by
  simp [plainMembers_iff, or_imp, forall_and]

@[simp] theorem plainMembers_option {α : Type} (k : String) (a : Option α) (write : α → Json) :
    PlainMembers (a.map fun x => (k, write x)).toList ↔ ∀ x ∈ a, (write x).Plain := by
  cases a <;> simp [PlainMembers]

@[simp] theorem plainMembers_optionalText (k : String) (text : Option String) :
    PlainMembers (Definition.optionalText k text) := by
  simp [Definition.optionalText]

@[simp] theorem plainMembers_nonemptyList {α : Type} (k : String) (items : List α)
    (write : α → Json) :
    PlainMembers (Definition.nonemptyList k items write) ↔ ∀ x ∈ items, (write x).Plain := by
  cases items <;> simp [Definition.nonemptyList, PlainMembers, Plain, plainItems_iff]

end SourceOutline.Json

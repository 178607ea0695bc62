import Mathlib.Data.List.Find
import SourceOutline.Proofs.Links
import SourceOutline.Proofs.StableSort

/-! Linking in place: one definition after the other, each search on the list with the links that were made
before. A search reads lines, kinds and ids, which no link changes, so all searches could as well be made
first, and the links be put in afterwards. -/
namespace SourceOutline

/-- A navigator that goes by the id and the lines of a definition. -/
def Navigator.Locates (nav : Navigator) : Prop :=
  ∀ d e : Definition, d.id = e.id → d.span = e.span → nav d = nav e

namespace Hierarchy

def positions (defs : List Definition) (span : LineSpan) : List Nat :=
  (defs.zipIdx.filter fun e => e.1.kind.container && e.1.span == span).map (·.2)

def parentAt? (nav : Navigator) (table : LineSpan → List Nat) (now : List Definition) (e : Entry) :
    Option Nat :=
  (nav e.1).findSome? fun span => (table span).find? fun j => now[j]?.any fun c => mayHold (c, j) e

def setParent (id : Option Nat) (d : Definition) : Definition := { d with parent := id }

def addChild (id : Nat) (d : Definition) : Definition := { d with children := d.children ++ [id] }

def linkAt (nav : Navigator) (table : LineSpan → List Nat) (now : List Definition) (i : Nat) :
    List Definition :=
  match now[i]? with
  | none => now
  | some d =>
    if d.parent.isSome then now
    else
      match parentAt? nav table now (d, i) with
      | none => now
      | some j => (now.modify i (setParent (now[j]?.map (·.id)))).modify j (addChild d.id)

def order (defs : List Definition) : List Entry :=
  (defs.zipIdx.filter fun e => !e.1.kind.passthrough).mergeSort fun a b =>
    a.1.nestingKey.le b.1.nestingKey

/-- Links the definitions one after the other. -/
def buildInPlace (nav : Navigator) (defs : List Definition) : List Definition :=
  ((order defs).map (·.2)).foldl (linkAt nav (positions defs)) defs

variable {nav : Navigator} {defs : List Definition} {ls : List (Entry × Entry)} {e c : Entry}

def linked (defs : List Definition) (ls : List (Entry × Entry)) : List Definition :=
  defs.zipIdx.map (applyLinks ls)

@[simp] theorem applyLinks_nil (e : Entry) : applyLinks [] e = e.1 := by
  simp [applyLinks]

theorem linked_nil (defs : List Definition) : linked defs [] = defs := by
  rw [linked, show applyLinks [] = Prod.fst from funext applyLinks_nil, List.zipIdx_map_fst]

theorem getElem?_linked (member : e ∈ defs.zipIdx) : (linked defs ls)[e.2]? = some (applyLinks ls e) := by
  rw [linked, List.getElem?_map, List.getElem?_zipIdx, List.mem_zipIdx_iff_getElem?.mp member]
  simp

theorem mayHold_applyLinks (ls : List (Entry × Entry)) (c e : Entry) :
    mayHold (applyLinks ls c, c.2) (applyLinks ls e, e.2) = mayHold c e := rfl

theorem parentAt?_linked (locates : nav.Locates) (e : Entry) :
    parentAt? nav (positions defs) (linked defs ls) (applyLinks ls e, e.2) =
      (parentOf? nav (defs.zipIdx.filter (·.1.kind.container)) e).map (·.2) := by
  -- The links made so far do not change what a search finds.
  have around : nav (applyLinks ls e) = nav e.1 := locates _ _ rfl rfl
  rw [parentAt?, parentOf?, List.map_findSome?, around]
  congr 1
  funext span
  rw [Function.comp_apply, holderOn?, positions, List.find?_map, List.find?_filter, List.find?_filter]
  congr 1
  apply List.find?_congr
  intro c member
  simp only [Function.comp_apply, getElem?_linked member, Option.any_some, mayHold_applyLinks,
    Bool.and_eq_true, and_assoc]

theorem applyLinks_parent_of_fresh (fresh : ∀ l ∈ ls, l.1.2 ≠ e.2) :
    (applyLinks ls e).parent = e.1.parent := by
  have none : (ls.find? fun l => l.1.2 == e.2) = none := by simpa using fresh
  simp [applyLinks, none]

theorem applyLinks_concat (ls : List (Entry × Entry)) (l : Entry × Entry) (e : Entry) :
    applyLinks (ls ++ [l]) e = { applyLinks ls e with
      parent := (applyLinks ls e).parent <|> if l.1.2 = e.2 then some l.2.1.id else none
      children := (applyLinks ls e).children ++ if l.2.2 = e.2 then [l.1.1.id] else [] } := by
  by_cases source : l.1.2 = e.2 <;> by_cases target : l.2.2 = e.2 <;>
    simp [applyLinks, List.find?_append, List.filter_append, source, target]

theorem linked_concat (member : e ∈ defs.zipIdx) (free : (applyLinks ls e).parent = none) (c : Entry) :
    linked defs (ls ++ [(e, c)]) =
      ((linked defs ls).modify e.2 (setParent (some c.1.id))).modify c.2 (addChild e.1.id) := by
  apply List.ext_getElem?
  intro k
  rw [List.getElem?_modify, List.getElem?_modify]
  cases at_ : defs[k]? with
  | none => simp [linked, at_]
  | some d =>
    have here : (d, k) ∈ defs.zipIdx := List.mem_zipIdx_iff_getElem?.mpr at_
    have now : (linked defs ls)[k]? = some (applyLinks ls (d, k)) := getElem?_linked here
    have next : (linked defs (ls ++ [(e, c)]))[k]? = some (applyLinks (ls ++ [(e, c)]) (d, k)) :=
      getElem?_linked here
    rw [now, next, applyLinks_concat]
    by_cases source : e.2 = k
    · obtain rfl := entry_ext member here source
      by_cases target : c.2 = k <;> simp [target, free, setParent, addChild]
    · by_cases target : c.2 = k
      · simp [source, target, addChild]
      · simp only [if_neg source, if_neg target, Option.orElse_eq_orElse, Option.orElse_eq_or,
          Option.or_none, List.append_nil]
        rfl

/-- The invariant of the loop: after a step the list has the link that the step is for, if there is one. -/
theorem linkAt_linked (locates : nav.Locates) (member : e ∈ defs.zipIdx)
    (plain : e.1.kind.passthrough = false) (fresh : ∀ l ∈ ls, l.1.2 ≠ e.2) :
    linkAt nav (positions defs) (linked defs ls) e.2 =
      linked defs (ls ++ ((newParent? nav defs e).map (e, ·)).toList) := by
  have parent := applyLinks_parent_of_fresh fresh
  simp only [linkAt, getElem?_linked member, parentAt?_linked locates, parent]
  cases old : e.1.parent with
  | some id => simp [newParent?, old]
  | none =>
    have search : newParent? nav defs e =
        parentOf? nav (defs.zipIdx.filter (·.1.kind.container)) e := if_pos ⟨plain, old⟩
    rw [← search]
    cases found : newParent? nav defs e with
    | none => simp
    | some c =>
      have target : (linked defs ls)[c.2]? = some (applyLinks ls c) :=
        getElem?_linked (newParent?_some found).2.2.1
      simp only [Option.map_some, Option.toList_some, target, Option.isSome_none]
      exact (linked_concat member (parent.trans old) c).symm

theorem foldl_linkAt (locates : nav.Locates) {todo : List Entry}
    (members : ∀ e ∈ todo, e ∈ defs.zipIdx ∧ e.1.kind.passthrough = false)
    (once : (todo.map (·.2)).Nodup) (fresh : ∀ l ∈ ls, ∀ e ∈ todo, l.1.2 ≠ e.2) :
    (todo.map (·.2)).foldl (linkAt nav (positions defs)) (linked defs ls) =
      linked defs (ls ++ todo.filterMap fun e => (newParent? nav defs e).map (e, ·)) := by
  induction todo generalizing ls with
  | nil => simp
  | cons e todo ih =>
    obtain ⟨member, plain⟩ := members e List.mem_cons_self
    rw [List.map_cons, List.nodup_cons] at once
    rw [List.map_cons, List.foldl_cons,
      linkAt_linked locates member plain fun l listed => fresh l listed e List.mem_cons_self]
    have step : (e :: todo).filterMap (fun e => (newParent? nav defs e).map (e, ·)) =
        ((newParent? nav defs e).map (e, ·)).toList ++
          todo.filterMap fun e => (newParent? nav defs e).map (e, ·) := by
      rw [List.filterMap_cons]
      cases newParent? nav defs e <;> rfl
    rw [step, ← List.append_assoc]
    refine ih (fun x later => members x (List.mem_cons_of_mem _ later)) once.2 ?_
    intro l listed x later
    rcases List.mem_append.mp listed with old | new
    · exact fresh l old x (List.mem_cons_of_mem _ later)
    · obtain ⟨c, _, rfl⟩ := Option.map_eq_some_iff.mp (Option.mem_toList.mp new)
      exact fun same => once.1 (List.mem_map.mpr ⟨x, later, same.symm⟩)

/-- The links in the order of the loop, which passes over what has a parent when it gets there. -/
theorem links_eq_filterMap (nav : Navigator) (defs : List Definition) :
    links nav defs = (order defs).filterMap fun e => (newParent? nav defs e).map (e, ·) := by
  have free : (defs.zipIdx.filter fun e => !e.1.kind.passthrough && e.1.parent.isNone) =
      (defs.zipIdx.filter fun e => !e.1.kind.passthrough).filter (·.1.parent.isNone) := by
    simp only [List.filter_filter, Bool.and_comm]
  have late : (order defs).filter (·.1.parent.isNone) =
      ((defs.zipIdx.filter fun e => !e.1.kind.passthrough).filter (·.1.parent.isNone)).mergeSort
        fun a b => a.1.nestingKey.le b.1.nestingKey := by
    apply filter_mergeSort
    · exact fun _ _ _ => NestingKey.le_trans
    · exact fun _ _ => NestingKey.le_total _ _
  rw [links, free, ← late, List.filterMap_filter]
  apply List.filterMap_congr
  intro e listed
  have plain : e.1.kind.passthrough = false := by
    simpa using (List.mem_filter.mp (List.mem_mergeSort.mp listed)).2
  cases old : e.1.parent with
  | some id => simp [newParent?, old]
  | none => simp [newParent?, old, plain]

theorem buildInPlace_eq_build (locates : nav.Locates) (defs : List Definition) :
    buildInPlace nav defs = build nav defs := by
  have members : ∀ e ∈ order defs, e ∈ defs.zipIdx ∧ e.1.kind.passthrough = false := by
    intro e listed
    simpa [order] using listed
  have once : ((order defs).map (·.2)).Nodup := by
    rw [order, ((List.mergeSort_perm _ _).map _).nodup_iff]
    refine List.Nodup.sublist (List.filter_sublist.map _) ?_
    rw [List.zipIdx_map_snd]
    exact List.nodup_range'
  have none : ∀ l ∈ ([] : List (Entry × Entry)), ∀ e ∈ order defs, l.1.2 ≠ e.2 := by simp
  have run := foldl_linkAt locates members once none
  rw [linked_nil, List.nil_append, ← links_eq_filterMap] at run
  exact run

end Hierarchy

end SourceOutline

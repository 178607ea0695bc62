import Mathlib.Logic.Relation
import Mathlib.Order.Bounds.Defs
import SourceOutline.Filter
import SourceOutline.Proofs.Lookup

/-! What a filter keeps: the least set of ids that holds the accepted candidates and, with each id, the
parent of the definition that stands for it unless the parent's name is excluded. The climbs may start
in any order, and links may dangle or run in circles. -/
namespace SourceOutline.Filter

/-- As `apply`, with the climbs from the accepted ids in the given order. -/
def applyInOrder (f : Filter) (order : List Nat) (defs : List Definition) : List Definition :=
  keep (climbAll f (candidates defs) (f.accepted (candidates defs)) order) defs

theorem apply_eq_keep (f : Filter) (defs : List Definition) :
    f.apply defs = keep (f.survivors (candidates defs)) defs := rfl

def Keepable (f : Filter) (cands : List Definition) (id : Nat) : Prop :=
  ∃ d, lastWithId? cands id = some d ∧ f.excludesName d.name = false

/-- Whatever keeps `id` has to keep its parent `p`. -/
def Pulls (f : Filter) (cands : List Definition) (id p : Nat) : Prop :=
  (∃ d, lastWithId? cands id = some d ∧ d.parent = some p) ∧ Keepable f cands p

/-- A set of ids that misses no accepted candidate and no ancestor. -/
structure Closed (f : Filter) (cands : List Definition) (S : Set Nat) : Prop where
  accepted : ∀ d ∈ cands, f.accepts d = true → d.id ∈ S
  parent : ∀ id ∈ S, ∀ p, Pulls f cands id p → p ∈ S

/-- The ids with a reason to stay. -/
inductive Survives (f : Filter) (cands : List Definition) : Nat → Prop where
  | accepted {d : Definition} : d ∈ cands → f.accepts d = true → Survives f cands d.id
  | parent {id p : Nat} : Survives f cands id → Pulls f cands id p → Survives f cands p

theorem survives_isLeast (f : Filter) (cands : List Definition) :
    IsLeast {S | Closed f cands S} {id | Survives f cands id} := by
  constructor
  · exact ⟨fun _ member accepts => .accepted member accepts, fun _ kept _ pulls => .parent kept pulls⟩
  · intro S closed id survives
    induction survives with
    | accepted member accepts => exact closed.accepted _ member accepts
    | parent _ pulls ih => exact closed.parent _ ih _ pulls

theorem mem_accepted {f : Filter} {cands : List Definition} {id : Nat} :
    id ∈ f.accepted cands ↔ ∃ d ∈ cands, f.accepts d = true ∧ d.id = id := by
  simp [accepted, and_assoc]

theorem Survives.mem {f : Filter} {cands : List Definition} {id : Nat}
    (survives : Survives f cands id) : ∃ d ∈ cands, d.id = id := by
  cases survives with
  | accepted member _ => exact ⟨_, member, rfl⟩
  | parent _ pulls =>
    obtain ⟨d, found, _⟩ := pulls.2
    exact ⟨d, lastWithId?_some found⟩

/-- A climb under way: the ids kept so far, and the id to look at next. -/
structure Climb where
  kept : List Nat
  next : Option Nat

namespace Climb

/-- One round keeps the next id, if a candidate stands for it that may stay and is not yet kept. -/
inductive Step (f : Filter) (cands : List Definition) : Climb → Climb → Prop where
  | up {kept : List Nat} {id : Nat} {d : Definition} (found : lastWithId? cands id = some d)
      (named : f.excludesName d.name = false) (fresh : id ∉ kept) :
      Step f cands ⟨kept, some id⟩ ⟨id :: kept, d.parent⟩

theorem Step.unseen_lt {f : Filter} {cands : List Definition} {s t : Climb}
    (step : Step f cands s t) : unseen cands t.kept < unseen cands s.kept := by
  cases step with
  | up found named fresh =>
    obtain ⟨member, rfl⟩ := lastWithId?_some found
    exact unseen_cons_lt member fresh

/-- No climb goes on forever, also not along a circle of parents. -/
theorem step_wellFounded (f : Filter) (cands : List Definition) :
    WellFounded fun t s => Step f cands s t :=
  Subrelation.wf (fun step => Step.unseen_lt step) (measure fun s : Climb => unseen cands s.kept).wf

end Climb

/-- The climb runs until no round is left: `fuel` cuts it short only where there is nothing to do. -/
theorem climb_runs (f : Filter) (cands : List Definition) (fuel : Nat) (kept : List Nat)
    (start : Option Nat) (enough : unseen cands kept ≤ fuel) :
    ∃ next, Relation.ReflTransGen (Climb.Step f cands) ⟨kept, start⟩
        ⟨climb f cands fuel kept start, next⟩ ∧
      ∀ s, ¬ Climb.Step f cands ⟨climb f cands fuel kept start, next⟩ s := by
  induction fuel generalizing kept start with
  | zero =>
    refine ⟨start, .refl, ?_⟩
    intro s step
    have := step.unseen_lt
    simp only [climb] at this
    omega
  | succ fuel ih =>
    cases start with
    | none => exact ⟨none, .refl, fun s step => nomatch step⟩
    | some id =>
      cases found : lastWithId? cands id with
      | none =>
        simp only [climb, found]
        refine ⟨some id, .refl, ?_⟩
        rintro s ⟨here, _, _⟩
        rw [found] at here
        contradiction
      | some d =>
        by_cases stop : f.excludesName d.name = true ∨ id ∈ kept
        · simp only [climb, found]
          rw [if_pos (by simpa using stop)]
          refine ⟨some id, .refl, ?_⟩
          rintro s ⟨here, named, fresh⟩
          rw [found] at here
          cases here
          simp [named, fresh] at stop
        · simp only [climb, found]
          rw [if_neg (by simpa using stop)]
          simp only [not_or, Bool.not_eq_true] at stop
          have step : Climb.Step f cands ⟨kept, some id⟩ ⟨id :: kept, d.parent⟩ :=
            .up found stop.1 stop.2
          have less := step.unseen_lt
          simp only at less
          obtain ⟨next, run, stuck⟩ := ih (id :: kept) d.parent (by omega)
          exact ⟨next, run.head step, stuck⟩

/-- The invariant of a climb, with the ids in `rest` still to be climbed from: what is kept has a reason
to stay, and a parent that is missing is the next one or belongs to an id of `rest`. A climb that ends
early at a kept id leaves that id's ancestors to one of these. -/
structure Pending (f : Filter) (cands : List Definition) (rest : List Nat) (s : Climb) : Prop where
  kept_survives : ∀ id ∈ s.kept, Survives f cands id
  next_survives : ∀ p, s.next = some p → Keepable f cands p → Survives f cands p
  missing : ∀ id ∈ s.kept, ∀ p, Pulls f cands id p → p ∈ s.kept ∨ id ∈ rest ∨ s.next = some p

theorem step_pending {f : Filter} {cands : List Definition} {rest : List Nat} {s t : Climb}
    (step : Climb.Step f cands s t) (pending : Pending f cands rest s) :
    Pending f cands rest t := by
  cases step with
  | @up kept id d found named fresh =>
    have survives : Survives f cands id := pending.next_survives id rfl ⟨d, found, named⟩
    constructor
    · intro other member
      rcases List.mem_cons.mp member with rfl | old
      · exact survives
      · exact pending.kept_survives other old
    · intro p next keepable
      exact survives.parent ⟨⟨d, found, next⟩, keepable⟩
    · intro other member p pulls
      rcases List.mem_cons.mp member with rfl | old
      · obtain ⟨⟨e, same, parent⟩, _⟩ := pulls
        rw [found] at same
        cases same
        exact .inr (.inr parent)
      · rcases pending.missing other old p pulls with here | later | next
        · exact .inl (List.mem_cons_of_mem _ here)
        · exact .inr (.inl later)
        · cases next
          exact .inl List.mem_cons_self

theorem steps_pending {f : Filter} {cands : List Definition} {rest : List Nat} {s t : Climb}
    (run : Relation.ReflTransGen (Climb.Step f cands) s t) (pending : Pending f cands rest s) :
    Pending f cands rest t := by
  induction run with
  | refl => exact pending
  | tail _ step ih => exact step_pending step ih

theorem steps_subset {f : Filter} {cands : List Definition} {s t : Climb}
    (run : Relation.ReflTransGen (Climb.Step f cands) s t) : s.kept ⊆ t.kept := by
  induction run with
  | refl => exact List.Subset.refl _
  | tail _ step ih =>
    cases step with
    | up => exact fun id member => List.mem_cons_of_mem _ (ih member)

/-- What holds between climbs, with those from `rest` still to come. -/
structure Partial (f : Filter) (cands : List Definition) (rest kept : List Nat) : Prop where
  rest_kept : rest ⊆ kept
  kept_survives : ∀ id ∈ kept, Survives f cands id
  missing : ∀ id ∈ kept, ∀ p, Pulls f cands id p → p ∈ kept ∨ id ∈ rest

theorem climb_partial {f : Filter} {cands : List Definition} {id : Nat} {rest kept : List Nat}
    (invariant : Partial f cands (id :: rest) kept) :
    Partial f cands rest
      (climb f cands cands.length kept ((lastWithId? cands id).bind (·.parent))) := by
  obtain ⟨next, run, stuck⟩ := climb_runs f cands cands.length kept
    ((lastWithId? cands id).bind (·.parent)) (unseen_le_length _ _)
  have start : Pending f cands rest ⟨kept, (lastWithId? cands id).bind (·.parent)⟩ := by
    refine ⟨invariant.kept_survives, ?_, ?_⟩
    · intro p next keepable
      have survives := invariant.kept_survives id (invariant.rest_kept List.mem_cons_self)
      exact survives.parent ⟨Option.bind_eq_some_iff.mp next, keepable⟩
    · intro other member p pulls
      rcases invariant.missing other member p pulls with here | later
      · exact .inl here
      · rcases List.mem_cons.mp later with rfl | tail
        · exact .inr (.inr (Option.bind_eq_some_iff.mpr pulls.1))
        · exact .inr (.inl tail)
  have finish := steps_pending run start
  have grown := steps_subset run
  refine ⟨fun other member => grown (invariant.rest_kept (List.mem_cons_of_mem _ member)),
    finish.kept_survives, ?_⟩
  intro other member p pulls
  rcases finish.missing other member p pulls with here | later | last
  · exact .inl here
  · exact .inr later
  · -- The climb ended before `p`, which may stay: so `p` was kept already.
    obtain ⟨d, found, named⟩ := pulls.2
    simp only at last
    subst last
    by_contra lost
    exact stuck _ (.up found named fun here => lost (.inl here))

theorem climbAll_partial {f : Filter} {cands : List Definition} {order kept : List Nat}
    (invariant : Partial f cands order kept) :
    Partial f cands [] (climbAll f cands kept order) := by
  induction order generalizing kept with
  | nil => exact invariant
  | cons id rest ih => exact ih (climb_partial invariant)

theorem subset_climbAll (f : Filter) (cands : List Definition) (order kept : List Nat) :
    kept ⊆ climbAll f cands kept order := by
  induction order generalizing kept with
  | nil => exact List.Subset.refl _
  | cons id rest ih =>
    obtain ⟨_, run, _⟩ := climb_runs f cands cands.length kept
      ((lastWithId? cands id).bind (·.parent)) (unseen_le_length _ _)
    exact List.Subset.trans (steps_subset run) (ih _)

theorem mem_climbAll {f : Filter} {cands : List Definition} {order : List Nat} {id : Nat}
    (iterates : ∀ id, id ∈ order ↔ id ∈ f.accepted cands) :
    id ∈ climbAll f cands (f.accepted cands) order ↔ Survives f cands id := by
  have start : Partial f cands order (f.accepted cands) := by
    refine ⟨fun id member => (iterates id).mp member, ?_, ?_⟩
    · intro id member
      obtain ⟨d, candidate, accepts, rfl⟩ := mem_accepted.mp member
      exact .accepted candidate accepts
    · exact fun id member _ _ => .inr ((iterates id).mpr member)
  have finish := climbAll_partial start
  refine ⟨finish.kept_survives id, ?_⟩
  intro survives
  induction survives with
  | accepted member accepts =>
    exact subset_climbAll _ _ _ _ (mem_accepted.mpr ⟨_, member, accepts, rfl⟩)
  | parent _ pulls ih =>
    rcases finish.missing _ ih _ pulls with here | none
    · exact here
    · cases none

theorem mem_survivors {f : Filter} {cands : List Definition} {id : Nat} :
    id ∈ f.survivors cands ↔ Survives f cands id :=
  mem_climbAll fun _ => Iff.rfl

@[simp] theorem prune_id (kept : List Nat) (d : Definition) : (prune kept d).id = d.id := rfl
@[simp] theorem prune_kind (kept : List Nat) (d : Definition) : (prune kept d).kind = d.kind := rfl

@[simp] theorem prune_children (kept : List Nat) (d : Definition) :
    (prune kept d).children = d.children.filter kept.contains := rfl

theorem prune_parent_eq_some {kept : List Nat} {d : Definition} {id : Nat} :
    (prune kept d).parent = some id ↔ d.parent = some id ∧ id ∈ kept := by
  simp [prune, Option.filter_eq_some_iff]

theorem mem_candidates {defs : List Definition} {d : Definition} :
    d ∈ candidates defs ↔ d ∈ defs ∧ d.kind.passthrough = false := by
  simp [candidates]

theorem mem_keep {kept : List Nat} {defs : List Definition} {d : Definition} :
    d ∈ keep kept defs ↔
      (∃ e ∈ candidates defs, e.id ∈ kept ∧ prune kept e = d) ∨
      (d ∈ defs ∧ d.kind.passthrough = true) := by
  simp [keep, and_assoc]

theorem keep_congr {kept others : List Nat} (same : ∀ id, id ∈ kept ↔ id ∈ others)
    (defs : List Definition) : keep kept defs = keep others defs := by
  have contains (id : Nat) : kept.contains id = others.contains id := by
    simp [same id]
  have pruned : prune kept = prune others := by
    funext d
    simp only [prune, funext contains]
  simp only [keep, contains, pruned]

def keptIds (defs : List Definition) : Set Nat :=
  {id | ∃ d ∈ defs, d.kind.passthrough = false ∧ d.id = id}

theorem keptIds_keep {kept : List Nat} {defs : List Definition}
    (known : ∀ id ∈ kept, ∃ d ∈ candidates defs, d.id = id) :
    keptIds (keep kept defs) = {id | id ∈ kept} := by
  ext id
  constructor
  · rintro ⟨d, member, plain, rfl⟩
    rcases mem_keep.mp member with ⟨e, _, here, rfl⟩ | ⟨_, report⟩
    · exact here
    · rw [plain] at report
      contradiction
  · intro member
    obtain ⟨d, candidate, rfl⟩ := known id member
    exact ⟨prune kept d, mem_keep.mpr (.inl ⟨d, candidate, member, rfl⟩),
      (mem_candidates.mp candidate).2, rfl⟩

/-- Every climb ends, and in whatever order the accepted ids are climbed from, the filter keeps the
candidates whose ids are in the least closed set. -/
theorem apply_keeps_least_closed (f : Filter) (defs : List Definition) (order : List Nat)
    (iterates : ∀ id, id ∈ order ↔ id ∈ f.accepted (candidates defs)) :
    WellFounded (fun t s => Climb.Step f (candidates defs) s t) ∧
    (∀ kept start, ∃ next, Relation.ReflTransGen (Climb.Step f (candidates defs)) ⟨kept, start⟩
        ⟨climb f (candidates defs) (candidates defs).length kept start, next⟩ ∧
      ∀ s, ¬ Climb.Step f (candidates defs)
        ⟨climb f (candidates defs) (candidates defs).length kept start, next⟩ s) ∧
    IsLeast {S | Closed f (candidates defs) S} (keptIds (f.applyInOrder order defs)) ∧
    f.applyInOrder order defs = f.apply defs := by
  refine ⟨Climb.step_wellFounded f _, ?_, ?_, ?_⟩
  · exact fun kept start => climb_runs f _ _ kept start (unseen_le_length _ _)
  · have same : keptIds (f.applyInOrder order defs) = {id | Survives f (candidates defs) id} := by
      rw [applyInOrder, keptIds_keep]
      · ext id
        exact mem_climbAll iterates
      · exact fun id member => ((mem_climbAll iterates).mp member).mem
    rw [same]
    exact survives_isLeast f (candidates defs)
  · rw [apply_eq_keep, applyInOrder]
    exact keep_congr (fun id => (mem_climbAll iterates).trans mem_survivors.symm) defs

/-- Two definitions that are each other's parent, one of them listed twice: a filter on complexity
accepts one, and the climb from it ends where it started. -/
theorem apply_keeps_least_closed_circle :
    let f : Filter := ⟨{ minComplexity := some 2 }, .unset, none⟩
    let outer : Definition := { Definition.ofSpan 1 .classDef "outer" ⟨1, 9⟩ with parent := some 2 }
    let inner : Definition := { Definition.ofSpan 2 .method "inner" ⟨2, 5⟩ with
      parent := some 1, complexity := 3 }
    let defs := [outer, inner, Definition.error 4 "broken", outer]
    (∀ id, id ∈ [2] ↔ id ∈ f.accepted (candidates defs)) ∧
    IsLeast {S | Closed f (candidates defs) S} (keptIds (f.applyInOrder [2] defs)) := by
  intro f outer inner defs
  have iterates : ∀ id, id ∈ [2] ↔ id ∈ f.accepted (candidates defs) := by
    have accepted : f.accepted (candidates defs) = [2] := by decide
    simp [accepted]
  exact ⟨iterates, (apply_keeps_least_closed f defs [2] iterates).2.2.1⟩

end SourceOutline.Filter

import Mathlib.Data.List.Nodup
import Mathlib.Data.List.Perm.Subperm
import Mathlib.Order.WellFoundedSet
import SourceOutline.Proofs.Catalogue
import SourceOutline.View

/-! Forests show every definition of a well linked list once: below its parent, in the place that the
parent's children give it, or as a root. The walk marks the ids that it has shown; no mark ever hides a
definition that has not been shown where it belongs. -/
namespace SourceOutline

namespace Branch

mutual

def preorder : Branch → List Branch
  | ⟨d, children⟩ => ⟨d, children⟩ :: preorderAll children

def preorderAll : List Branch → List Branch
  | [] => []
  | b :: bs => preorder b ++ preorderAll bs

end

theorem preorder_eq (b : Branch) : b.preorder = b :: preorderAll b.children := by
  cases b
  rw [preorder]

theorem preorderAll_append (bs cs : List Branch) :
    preorderAll (bs ++ cs) = preorderAll bs ++ preorderAll cs := by
  induction bs with
  | nil => rfl
  | cons b bs ih => rw [List.cons_append, preorderAll, preorderAll, ih, List.append_assoc]

theorem preorderAll_singleton (b : Branch) : preorderAll [b] = b :: preorderAll b.children := by
  rw [preorderAll, preorderAll, List.append_nil, preorder_eq]

theorem mem_preorderAll {bs : List Branch} {b : Branch} :
    b ∈ preorderAll bs ↔ ∃ c ∈ bs, b ∈ c.preorder := by
  induction bs with
  | nil => simp [preorderAll]
  | cons c bs ih => simp [preorderAll, ih]

theorem subset_preorderAll (bs : List Branch) : bs ⊆ preorderAll bs := by
  intro b member
  exact mem_preorderAll.mpr ⟨b, member, by simp [preorder_eq]⟩

mutual

theorem children_subset_preorder {b : Branch} :
    ∀ t : Branch, b ∈ t.preorder → b.children ⊆ t.preorder
  | ⟨d, children⟩, member => by
    rw [preorder_eq] at member ⊢
    rcases List.mem_cons.mp member with rfl | below
    · exact fun c hangs => List.mem_cons_of_mem _ (subset_preorderAll _ hangs)
    · exact fun c hangs => List.mem_cons_of_mem _ (children_subset_preorderAll children below hangs)

theorem children_subset_preorderAll {b : Branch} :
    ∀ bs : List Branch, b ∈ preorderAll bs → b.children ⊆ preorderAll bs
  | [], member => by cases member
  | t :: bs, member => by
    rw [preorderAll] at member ⊢
    rcases List.mem_append.mp member with first | later
    · exact fun c hangs => List.mem_append_left _ (children_subset_preorder t first hangs)
    · exact fun c hangs => List.mem_append_right _ (children_subset_preorderAll bs later hangs)

end

mutual

/-- Every branch is the top one, or hangs directly below another. -/
theorem preorder_cases {b : Branch} :
    ∀ t : Branch, b ∈ t.preorder → b = t ∨ ∃ c ∈ t.preorder, b ∈ c.children
  | ⟨d, children⟩, member => by
    rw [preorder_eq] at member ⊢
    rcases List.mem_cons.mp member with top | below
    · exact .inl top
    · rcases preorderAll_cases children below with direct | ⟨c, inside, hangs⟩
      · exact .inr ⟨⟨d, children⟩, List.mem_cons_self, direct⟩
      · exact .inr ⟨c, List.mem_cons_of_mem _ inside, hangs⟩

theorem preorderAll_cases {b : Branch} :
    ∀ bs : List Branch, b ∈ preorderAll bs → b ∈ bs ∨ ∃ c ∈ preorderAll bs, b ∈ c.children
  | [], member => by cases member
  | t :: bs, member => by
    rw [preorderAll] at member ⊢
    rcases List.mem_append.mp member with first | later
    · rcases preorder_cases t first with rfl | ⟨c, inside, hangs⟩
      · exact .inl List.mem_cons_self
      · exact .inr ⟨c, List.mem_append_left _ inside, hangs⟩
    · rcases preorderAll_cases bs later with direct | ⟨c, inside, hangs⟩
      · exact .inl (List.mem_cons_of_mem _ direct)
      · exact .inr ⟨c, List.mem_append_right _ inside, hangs⟩

end

end Branch

namespace Forest

open Branch

def shownIds (bs : List Branch) : List Nat := (preorderAll bs).map (·.definition.id)

/-- The walk over `ds` with the ids in `shown` marked, without a bound on its depth: a marked id is passed
over, any other is marked before its children are walked. It ends with the branches `bs` and the marks
`after`. -/
inductive Walk (defs : List Definition) :
    List Nat → List Definition → List Branch → List Nat → Prop where
  | done {shown : List Nat} : Walk defs shown [] [] shown
  | skip {shown after : List Nat} {d : Definition} {ds : List Definition} {bs : List Branch}
      (marked : d.id ∈ shown) (rest : Walk defs shown ds bs after) : Walk defs shown (d :: ds) bs after
  | visit {shown between after : List Nat} {d : Definition} {ds : List Definition}
      {bs cs : List Branch} (fresh : d.id ∉ shown)
      (below : Walk defs (d.id :: shown) (childrenOf defs d) cs between)
      (rest : Walk defs between ds bs after) : Walk defs shown (d :: ds) (⟨d, cs⟩ :: bs) after

/-- What a walk over `ds` leaves: it marks what it shows and nothing else, shows no marked id, reaches
every start and every child of what it shows, and hangs each branch where a child is listed. -/
structure Grown (defs : List Definition) (shown : List Nat) (ds : List Definition) (bs : List Branch)
    (after : List Nat) : Prop where
  marks : after.Perm (shownIds bs ++ shown)
  nodup : shown.Nodup → after.Nodup
  reached : ∀ d ∈ ds, d.id ∈ after
  closed : ∀ b ∈ preorderAll bs, ∀ c ∈ childrenOf defs b.definition, c.id ∈ after
  below : ∀ b ∈ preorderAll bs,
    (b.children.map (·.definition)).Sublist (childrenOf defs b.definition)
  heads : (bs.map (·.definition)).Sublist ds

section

variable {defs ds es : List Definition} {d : Definition} {shown between after : List Nat}
  {bs cs : List Branch}

theorem Grown.subset (grown : Grown defs shown ds bs after) : shown ⊆ after := by
  intro id member
  exact grown.marks.mem_iff.mpr (List.mem_append_right _ member)

theorem grown_skip (marked : ∀ d ∈ ds, d.id ∈ shown) : Grown defs shown ds [] shown where
  marks := List.Perm.refl _
  nodup := id
  reached := marked
  closed b member := by cases member
  below b member := by cases member
  heads := List.nil_sublist _

theorem grown_show (fresh : d.id ∉ shown)
    (grown : Grown defs (d.id :: shown) (childrenOf defs d) bs after) :
    Grown defs shown [d] [⟨d, bs⟩] after where
  marks := by
    rw [shownIds, preorderAll_singleton, List.map_cons, List.cons_append]
    exact grown.marks.trans List.perm_middle
  nodup unique := grown.nodup (List.nodup_cons.mpr ⟨fresh, unique⟩)
  reached e member := by
    rw [List.mem_singleton.mp member]
    exact grown.subset List.mem_cons_self
  closed b member := by
    rw [preorderAll_singleton] at member
    rcases List.mem_cons.mp member with rfl | inside
    · exact grown.reached
    · exact grown.closed b inside
  below b member := by
    rw [preorderAll_singleton] at member
    rcases List.mem_cons.mp member with rfl | inside
    · exact grown.heads
    · exact grown.below b inside
  heads := List.Sublist.refl _

theorem Grown.append (first : Grown defs shown ds bs between) (second : Grown defs between es cs after) :
    Grown defs shown (ds ++ es) (bs ++ cs) after where
  marks := by
    rw [shownIds, preorderAll_append, List.map_append, List.append_assoc]
    refine second.marks.trans ((first.marks.append_left _).trans ?_)
    rw [← List.append_assoc, ← List.append_assoc]
    exact List.perm_append_comm.append_right _
  nodup unique := second.nodup (first.nodup unique)
  reached d member := by
    rcases List.mem_append.mp member with left | right
    · exact second.subset (first.reached d left)
    · exact second.reached d right
  closed b member c named := by
    rw [preorderAll_append] at member
    rcases List.mem_append.mp member with left | right
    · exact second.subset (first.closed b left c named)
    · exact second.closed b right c named
  below b member := by
    rw [preorderAll_append] at member
    rcases List.mem_append.mp member with left | right
    · exact first.below b left
    · exact second.below b right
  heads := by
    rw [List.map_append]
    exact first.heads.append second.heads

theorem Walk.append (first : Walk defs shown ds bs between) (second : Walk defs between es cs after) :
    Walk defs shown (ds ++ es) (bs ++ cs) after := by
  induction first with
  | done => exact second
  | skip marked _ ih => exact .skip marked (ih second)
  | visit fresh below _ _ ih => exact .visit fresh below (ih second)

theorem Walk.grown (walk : Walk defs shown ds bs after) : Grown defs shown ds bs after := by
  induction walk with
  | done => exact grown_skip fun d member => by cases member
  | skip marked _ ih => exact (grown_skip (List.forall_mem_singleton.mpr marked)).append ih
  | visit fresh _ _ above later => exact (grown_show fresh above).append later

end

theorem mem_childrenOf {defs : List Definition} {d c : Definition} :
    c ∈ childrenOf defs d ↔ ∃ id ∈ d.children, lastWithId? defs id = some c :=
  List.mem_filterMap

theorem childrenOf_subset (defs : List Definition) (d : Definition) : childrenOf defs d ⊆ defs := by
  intro c member
  obtain ⟨_, _, found⟩ := mem_childrenOf.mp member
  exact (lastWithId?_some found).1

theorem growAll_walk {defs : List Definition} {fuel : Nat}
    {step : List Nat → Definition → Option Branch × List Nat}
    (walks : ∀ shown, unseen defs shown ≤ fuel → ∀ d ∈ defs,
      Walk defs shown [d] (step shown d).1.toList (step shown d).2)
    (ds : List Definition) (inside : ds ⊆ defs) (shown : List Nat)
    (enough : unseen defs shown ≤ fuel) :
    Walk defs shown ds (growAll step shown ds).1 (growAll step shown ds).2 := by
  induction ds generalizing shown with
  | nil => exact .done
  | cons d ds ih =>
    have first := walks shown enough d (inside List.mem_cons_self)
    have less : unseen defs (step shown d).2 ≤ unseen defs shown := unseen_mono first.grown.subset
    exact first.append (ih (fun e later => inside (List.mem_cons_of_mem _ later)) _ (by omega))

/-- Each level marks an id of the list, so the walk ends before its fuel does. -/
theorem grow_walk {defs : List Definition} (fuel : Nat) (shown : List Nat)
    (enough : unseen defs shown ≤ fuel) (d : Definition) (member : d ∈ defs) :
    Walk defs shown [d] (grow defs fuel shown d).1.toList (grow defs fuel shown d).2 := by
  induction fuel generalizing shown d with
  | zero =>
    refine .skip ?_ .done
    by_contra fresh
    have := unseen_cons_lt member fresh
    omega
  | succ fuel ih =>
    rw [grow]
    by_cases marked : d.id ∈ shown
    · rw [if_pos (by simpa using marked)]
      exact .skip marked .done
    · rw [if_neg (by simpa using marked)]
      have less := unseen_cons_lt member marked
      have below := growAll_walk ih (childrenOf defs d) (childrenOf_subset defs d) (d.id :: shown)
        (by omega)
      exact .visit marked below .done

theorem build_walk (defs : List Definition) :
    ∃ after, Walk defs [] (defs.filter (isRoot defs)) (build defs) after :=
  ⟨_, growAll_walk (grow_walk defs.length) _ (List.filter_subset_self _) [] (unseen_le_length defs [])⟩

/-- The marks of the whole walk are the ids of its forest. -/
theorem build_grown (defs : List Definition) :
    Grown defs [] (defs.filter (isRoot defs)) (build defs) (shownIds (build defs)) := by
  obtain ⟨after, walk⟩ := build_walk defs
  have grown := walk.grown
  have marks := grown.marks
  rw [List.append_nil] at marks
  refine ⟨by rw [List.append_nil], ?_, ?_, ?_, grown.below, grown.heads⟩
  · exact fun unique => marks.nodup_iff.mp (grown.nodup unique)
  · exact fun d member => marks.mem_iff.mp (grown.reached d member)
  · exact fun b member c named => marks.mem_iff.mp (grown.closed b member c named)

theorem shownIds_nodup (defs : List Definition) : (shownIds (build defs)).Nodup :=
  (build_grown defs).nodup .nil

theorem branch_eq_of_id {defs : List Definition} {b c : Branch} (left : b ∈ preorderAll (build defs))
    (right : c ∈ preorderAll (build defs)) (same : b.definition.id = c.definition.id) : b = c :=
  List.inj_on_of_nodup_map (shownIds_nodup defs) left right same

section

variable {defs : List Definition}

theorem definition_cases {b : Branch} (member : b ∈ preorderAll (build defs)) :
    (b ∈ build defs ∧ b.definition ∈ defs.filter (isRoot defs)) ∨
    ∃ c ∈ preorderAll (build defs), b ∈ c.children ∧ b.definition ∈ childrenOf defs c.definition := by
  -- A shown definition is a root, or a child of another shown one.
  have grown := build_grown defs
  rcases preorderAll_cases _ member with head | ⟨c, above, hangs⟩
  · exact .inl ⟨head, grown.heads.subset (List.mem_map_of_mem head)⟩
  · exact .inr ⟨c, above, hangs, (grown.below c above).subset (List.mem_map_of_mem hangs)⟩

theorem definition_mem {b : Branch} (member : b ∈ preorderAll (build defs)) : b.definition ∈ defs := by
  rcases definition_cases member with ⟨_, root⟩ | ⟨c, _, _, child⟩
  · exact List.mem_of_mem_filter root
  · exact childrenOf_subset defs _ child

theorem filterMap_lastWithId?_ids {ids : List Nat} (known : ∀ id ∈ ids, ∃ d ∈ defs, d.id = id) :
    (ids.filterMap (lastWithId? defs)).map (·.id) = ids := by
  induction ids with
  | nil => rfl
  | cons id ids ih =>
    obtain ⟨d, member, rfl⟩ := known id List.mem_cons_self
    obtain ⟨e, found⟩ := lastWithId?_of_mem member
    rw [List.filterMap_cons_some found, List.map_cons, (lastWithId?_some found).2,
      ih fun other later => known other (List.mem_cons_of_mem _ later)]

theorem childrenOf_ids (linked : Linked defs) {d : Definition} (member : d ∈ defs) :
    (childrenOf defs d).map (·.id) = d.children :=
  filterMap_lastWithId?_ids (linked.child_mem d member)

theorem children_nodup (linked : Linked defs) {d : Definition} (member : d ∈ defs) :
    d.children.Nodup := by
  rw [List.nodup_iff_count_le_one]
  intro id
  by_cases listed : id ∈ d.children
  · obtain ⟨e, inside, rfl⟩ := linked.child_mem d member id listed
    rw [linked.count e inside d member]
    split <;> omega
  · rw [List.count_eq_zero.mpr listed]
    exact Nat.zero_le 1

theorem childrenOf_nodup (linked : Linked defs) {d : Definition} (member : d ∈ defs) :
    (childrenOf defs d).Nodup :=
  List.Nodup.of_map (·.id) (by rw [childrenOf_ids linked member]; exact children_nodup linked member)

theorem mem_childrenOf_iff (linked : Linked defs) {c d : Definition} (child : c ∈ defs)
    (holder : d ∈ defs) : c ∈ childrenOf defs d ↔ c.parent = some d.id := by
  rw [mem_childrenOf, ← linked.mem_children_iff child holder]
  simp only [lastWithId?_eq_some_iff linked.distinct]
  constructor
  · rintro ⟨id, listed, _, rfl⟩
    exact listed
  · exact fun listed => ⟨c.id, listed, child, rfl⟩

theorem filter_isRoot (linked : Linked defs) :
    defs.filter (isRoot defs) = defs.filter (·.parent.isNone) := by
  apply List.filter_congr
  intro d member
  unfold isRoot
  cases parent : d.parent with
  | none => rfl
  | some id =>
    obtain ⟨p, holder, rfl⟩ := linked.parent_mem d member id parent
    obtain ⟨e, found⟩ := lastWithId?_of_mem holder
    simp [found]

/-- From every definition the parents lead up to a root. -/
theorem parent_induction (acyclic : Acyclic defs) {motive : Definition → Prop}
    (up : ∀ d ∈ defs, (∀ p, IsParent defs p d → motive p) → motive d) :
    ∀ d ∈ defs, motive d := by
  have irreflexive : Std.Irrefl (Relation.TransGen (IsParent defs)) := ⟨acyclic⟩
  have order : IsStrictOrder Definition (Relation.TransGen (IsParent defs)) := {}
  have wellFounded := (List.finite_toSet defs).wellFoundedOn (r := Relation.TransGen (IsParent defs))
  intro d member
  refine wellFounded.induction member ?_
  intro e inside ih
  exact up e inside fun p link => ih p link.1 (.single link)

/-- Every definition is shown: a root by itself, any other with its parent. -/
theorem exists_branch (linked : Linked defs) (acyclic : Acyclic defs) :
    ∀ d ∈ defs, ∃ b ∈ preorderAll (build defs), b.definition = d := by
  have grown := build_grown defs
  have shown {d : Definition} (member : d ∈ defs) (marked : d.id ∈ shownIds (build defs)) :
      ∃ b ∈ preorderAll (build defs), b.definition = d := by
    obtain ⟨b, inside, same⟩ := List.mem_map.mp marked
    exact ⟨b, inside, linked.eq_of_id (definition_mem inside) member same⟩
  refine parent_induction (motive := fun d => ∃ b ∈ preorderAll (build defs), b.definition = d) acyclic ?_
  intro d member ih
  cases parent : d.parent with
  | none =>
    have root : d ∈ defs.filter (isRoot defs) := by
      rw [filter_isRoot linked, List.mem_filter, parent]
      exact ⟨member, rfl⟩
    exact shown member (grown.reached d root)
  | some id =>
    obtain ⟨p, holder, rfl⟩ := linked.parent_mem d member id parent
    obtain ⟨b, inside, rfl⟩ := ih p ⟨holder, member, parent⟩
    exact shown member (grown.closed b inside d ((mem_childrenOf_iff linked member holder).mpr parent))

theorem eq_of_sublist_of_subset {α : Type} {l m : List α} (sub : l.Sublist m) (nodup : m.Nodup)
    (all : m ⊆ l) : l = m :=
  sub.eq_of_length_le (nodup.subperm all).length_le

theorem nodup_of_linked (linked : Linked defs) : defs.Nodup :=
  List.Nodup.of_map _ linked.distinct

theorem preorder_perm (linked : Linked defs) (acyclic : Acyclic defs) :
    ((preorderAll (build defs)).map (·.definition)).Perm defs := by
  have shown : ((preorderAll (build defs)).map (·.definition)).Nodup := by
    apply List.Nodup.of_map (·.id)
    rw [List.map_map]
    exact shownIds_nodup defs
  rw [List.perm_ext_iff_of_nodup shown (nodup_of_linked linked)]
  intro d
  rw [List.mem_map]
  constructor
  · rintro ⟨b, inside, rfl⟩
    exact definition_mem inside
  · exact exists_branch linked acyclic d

theorem build_definitions (linked : Linked defs) (acyclic : Acyclic defs) :
    (build defs).map (·.definition) = defs.filter (·.parent.isNone) := by
  rw [← filter_isRoot linked]
  apply eq_of_sublist_of_subset (build_grown defs).heads ((nodup_of_linked linked).filter _)
  intro d root
  have member := List.mem_of_mem_filter root
  obtain ⟨b, inside, rfl⟩ := exists_branch linked acyclic d member
  rcases definition_cases inside with ⟨head, _⟩ | ⟨c, above, _, child⟩
  · exact List.mem_map_of_mem head
  · -- A child has a parent, so it is no root.
    have parent := (mem_childrenOf_iff linked member (definition_mem above)).mp child
    rw [filter_isRoot linked, List.mem_filter, parent] at root
    simp at root

/-- Below a definition hang the branches of its children, in the order in which it lists them. -/
theorem branch_children (linked : Linked defs) (acyclic : Acyclic defs) {b : Branch}
    (member : b ∈ preorderAll (build defs)) :
    b.children.map (·.definition) = childrenOf defs b.definition := by
  have holder := definition_mem member
  apply eq_of_sublist_of_subset ((build_grown defs).below b member) (childrenOf_nodup linked holder)
  intro d child
  have inside := childrenOf_subset defs _ child
  have parent := (mem_childrenOf_iff linked inside holder).mp child
  obtain ⟨e, shown, rfl⟩ := exists_branch linked acyclic d inside
  rcases definition_cases shown with ⟨_, root⟩ | ⟨c, above, hangs, other⟩
  · rw [filter_isRoot linked, List.mem_filter, parent] at root
    simp at root
  · -- It hangs below its one parent, and that is shown once.
    have same := (mem_childrenOf_iff linked inside (definition_mem above)).mp other
    rw [parent, Option.some.injEq] at same
    rw [branch_eq_of_id member above same]
    exact List.mem_map_of_mem hangs

end

end Forest

namespace View

mutual

def preorder : View → List View
  | ⟨kind, name, lines, modifier, dataType, value, returnType, parameters, calls, complexity, children⟩ =>
    ⟨kind, name, lines, modifier, dataType, value, returnType, parameters, calls, complexity, children⟩ ::
      preorderAll children

def preorderAll : List View → List View
  | [] => []
  | v :: vs => preorder v ++ preorderAll vs

end

theorem ofBranch_eq (detail : Detail) (b : Branch) :
    ofBranch detail b = ofDefinition detail b.definition (ofBranches detail b.children) := by
  cases b
  rw [ofBranch]

theorem ofBranches_eq_map (detail : Detail) (bs : List Branch) :
    ofBranches detail bs = bs.map (ofBranch detail) := by
  induction bs with
  | nil => rfl
  | cons b bs ih => rw [ofBranches, ih, List.map_cons]

mutual

theorem preorder_ofBranch (detail : Detail) :
    ∀ b : Branch, (ofBranch detail b).preorder = b.preorder.map (ofBranch detail)
  | ⟨d, children⟩ => by
    rw [Branch.preorder, List.map_cons, ← preorderAll_ofBranches detail children, ofBranch]
    rfl

theorem preorderAll_ofBranches (detail : Detail) :
    ∀ bs : List Branch,
      preorderAll (ofBranches detail bs) = (Branch.preorderAll bs).map (ofBranch detail)
  | [] => rfl
  | b :: bs => by
    rw [ofBranches, preorderAll, Branch.preorderAll, List.map_append, preorder_ofBranch detail b,
      preorderAll_ofBranches detail bs]

end

/-- `viewOf` gives each definition its one view in the forest: with the views of its children below it,
in the order in which it lists them, and on top those of the definitions without a parent. -/
structure Shows (detail : Detail) (defs : List Definition) (viewOf : Definition → View) : Prop where
  children : ∀ d ∈ defs, ∃ cs, cs ⊆ defs ∧ cs.map (·.id) = d.children ∧
    viewOf d = ofDefinition detail d (cs.map viewOf)
  roots : forest detail defs = (defs.filter (·.parent.isNone)).map viewOf
  once : (preorderAll (forest detail defs)).Perm (defs.map viewOf)

def inForest (detail : Detail) (defs : List Definition) (d : Definition) : View :=
  ofBranch detail (((Branch.preorderAll (Forest.build defs)).find? (·.definition.id == d.id)).getD default)

theorem inForest_definition (detail : Detail) {defs : List Definition} {b : Branch}
    (member : b ∈ Branch.preorderAll (Forest.build defs)) :
    inForest detail defs b.definition = ofBranch detail b := by
  have found : (Branch.preorderAll (Forest.build defs)).find?
      (·.definition.id == b.definition.id) = some b := by
    apply find?_eq_some_of_unique member (by simp)
    exact fun c shown same => Forest.branch_eq_of_id shown member (by simpa using same)
  rw [inForest, found, Option.getD_some]

theorem map_ofBranch (detail : Detail) {defs : List Definition} {bs : List Branch}
    (inside : bs ⊆ Branch.preorderAll (Forest.build defs)) :
    bs.map (ofBranch detail) = (bs.map (·.definition)).map (inForest detail defs) := by
  rw [List.map_map, List.map_inj_left]
  exact fun b member => (inForest_definition detail (inside member)).symm

theorem shows_inForest (detail : Detail) {defs : List Definition} (linked : Linked defs)
    (acyclic : Acyclic defs) : Shows detail defs (inForest detail defs) where
  children := by
    intro d member
    obtain ⟨b, shown, rfl⟩ := Forest.exists_branch linked acyclic d member
    refine ⟨Forest.childrenOf defs b.definition, Forest.childrenOf_subset defs _,
      Forest.childrenOf_ids linked member, ?_⟩
    rw [inForest_definition detail shown, ofBranch_eq, ofBranches_eq_map,
      map_ofBranch detail (Branch.children_subset_preorderAll _ shown),
      Forest.branch_children linked acyclic shown]
  roots := by
    rw [forest, ofBranches_eq_map, map_ofBranch detail (Branch.subset_preorderAll _),
      Forest.build_definitions linked acyclic]
  once := by
    rw [forest, preorderAll_ofBranches, map_ofBranch detail (List.Subset.refl _)]
    exact (Forest.preorder_perm linked acyclic).map _

/-- Nothing is lost or shown twice, at any level of detail: in a list whose links agree in both
directions and form no circle, and so in every index after every filter. -/
theorem forest_shows_each_once (detail : Detail) :
    (∀ defs, Linked defs → Acyclic defs → ∃ viewOf, Shows detail defs viewOf) ∧
    ∀ language? path text tree options, ∃ viewOf,
      Shows detail ((Filter.ofOptions options).apply (Index.ofSource language? path text tree)) viewOf := by
  have general (defs : List Definition) (linked : Linked defs) (acyclic : Acyclic defs) :
      ∃ viewOf, Shows detail defs viewOf := ⟨_, shows_inForest detail linked acyclic⟩
  refine ⟨general, ?_⟩
  intro language? path text tree options
  have nested := Filter.apply_nested (Filter.ofOptions options)
    (Index.ofSource_nested language? path text tree)
  exact general _ nested.toLinked nested.acyclic

/-- A class with two members and a function after it. -/
theorem forest_shows_each_once_members :
    let defs := Hierarchy.build (fun d => [d.span, ⟨1, 9⟩]) [Definition.ofSpan 1 .classDef "Shape" ⟨1, 9⟩,
      Definition.ofSpan 2 .property "sides" ⟨2, 2⟩, Definition.ofSpan 3 .method "area" ⟨4, 8⟩,
      Definition.ofSpan 4 .function "helper" ⟨11, 12⟩]
    Linked defs ∧ Acyclic defs ∧ ∃ viewOf, Shows .standard defs viewOf := by
  intro defs
  have nested : Nested defs := Hierarchy.build_nested _ (nested_of_unlinked (by decide) (by decide))
  exact ⟨nested.toLinked, nested.acyclic,
    (forest_shows_each_once .standard).1 defs nested.toLinked nested.acyclic⟩

end View

end SourceOutline

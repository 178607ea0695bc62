import Mathlib.Data.List.Nodup
import Mathlib.Logic.Relation
import SourceOutline.Hierarchy
import SourceOutline.Proofs.Nesting
import SourceOutline.Proofs.Survivors

/-! Parents and children name each other, and parents come first in nesting order. Linking and filtering
both keep this: linking may meet links that are there already, and definitions that an earlier filter has
left without a parent. -/
namespace SourceOutline

/-- Each id names one definition, links stay inside the list, and the children of a definition are those
that name it as their parent, each listed once. -/
structure Linked (defs : List Definition) : Prop where
  distinct : (defs.map (·.id)).Nodup
  parent_mem : ∀ d ∈ defs, ∀ id, d.parent = some id → ∃ p ∈ defs, p.id = id
  child_mem : ∀ p ∈ defs, ∀ id ∈ p.children, ∃ d ∈ defs, d.id = id
  count : ∀ d ∈ defs, ∀ p ∈ defs,
    p.children.count d.id = if d.parent = some p.id then 1 else 0

/-- `p` may hold `d`: a container, on at least its lines, and strictly before it in nesting order. -/
structure Encloses (p d : Definition) : Prop where
  container : p.kind.container = true
  spans : p.containsSpan d = true
  precedes : p.nestingKey.lt d.nestingKey = true

/-- Links that follow the nesting of lines and leave out the reports on the file. -/
structure Nested (defs : List Definition) : Prop extends Linked defs where
  encloses : ∀ d ∈ defs, ∀ p ∈ defs, d.parent = some p.id → Encloses p d
  reports : ∀ r ∈ defs, r.kind.passthrough = true → r.parent = none ∧ r.children = []

def IsParent (defs : List Definition) (p d : Definition) : Prop :=
  p ∈ defs ∧ d ∈ defs ∧ d.parent = some p.id

/-- No definition is among its own ancestors. -/
def Acyclic (defs : List Definition) : Prop :=
  ∀ d, ¬ Relation.TransGen (IsParent defs) d d

theorem Kind.not_passthrough_of_container {k : Kind} (container : k.container = true) :
    k.passthrough = false := by
  cases k <;> simp_all [Kind.container, Kind.passthrough]

theorem Linked.mem_children_iff {defs : List Definition} (valid : Linked defs) {d p : Definition}
    (child : d ∈ defs) (holder : p ∈ defs) : d.id ∈ p.children ↔ d.parent = some p.id := by
  rw [← List.count_pos_iff, valid.count d child p holder]
  split <;> simp_all

theorem Linked.eq_of_id {defs : List Definition} (valid : Linked defs) {d e : Definition}
    (left : d ∈ defs) (right : e ∈ defs) (same : d.id = e.id) : d = e :=
  List.inj_on_of_nodup_map valid.distinct left right same

/-- A report is the child and the parent of nothing. -/
theorem Nested.report_alone {defs : List Definition} (valid : Nested defs) {r d : Definition}
    (report : r ∈ defs) (kind : r.kind.passthrough = true) (other : d ∈ defs) :
    r.id ∉ d.children ∧ d.parent ≠ some r.id := by
  have free := valid.reports r report kind
  constructor
  · rw [valid.mem_children_iff report other, free.1]
    simp
  · rw [Ne, ← valid.mem_children_iff other report, free.2]
    exact List.not_mem_nil

theorem Nested.ancestor_precedes {defs : List Definition} (valid : Nested defs) {p d : Definition}
    (ancestor : Relation.TransGen (IsParent defs) p d) : p.nestingKey.lt d.nestingKey = true := by
  induction ancestor with
  | single link => exact (valid.encloses _ link.2.1 _ link.1 link.2.2).precedes
  | tail _ link ih =>
    exact NestingKey.lt_trans ih (valid.encloses _ link.2.1 _ link.1 link.2.2).precedes

theorem Nested.acyclic {defs : List Definition} (valid : Nested defs) : Acyclic defs :=
  fun _ circle => NestingKey.lt_irrefl _ (valid.ancestor_precedes circle)

theorem nested_of_unlinked {defs : List Definition} (distinct : (defs.map (·.id)).Nodup)
    (unlinked : ∀ d ∈ defs, d.parent = none ∧ d.children = []) : Nested defs where
  distinct := distinct
  parent_mem d member id parent := by simp [(unlinked d member).1] at parent
  child_mem p member id child := by simp [(unlinked p member).2] at child
  count d child p holder := by simp [(unlinked d child).1, (unlinked p holder).2]
  encloses d member p _ parent := by simp [(unlinked d member).1] at parent
  reports r member _ := unlinked r member

theorem Nested.append_report {defs : List Definition} (valid : Nested defs) {r : Definition}
    (fresh : ∀ d ∈ defs, d.id ≠ r.id) (free : r.parent = none ∧ r.children = []) :
    Nested (defs ++ [r]) where
  distinct := by
    rw [List.map_append, List.map_singleton, ← List.concat_eq_append, List.nodup_concat]
    refine ⟨?_, valid.distinct⟩
    intro again
    obtain ⟨d, member, same⟩ := List.mem_map.mp again
    exact fresh d member same
  parent_mem := by
    intro d member id parent
    rcases List.mem_append.mp member with inside | last
    · obtain ⟨p, holder, named⟩ := valid.parent_mem d inside id parent
      exact ⟨p, List.mem_append_left _ holder, named⟩
    · rw [List.mem_singleton.mp last, free.1] at parent
      contradiction
  child_mem := by
    intro p member id child
    rcases List.mem_append.mp member with inside | last
    · obtain ⟨d, listed, named⟩ := valid.child_mem p inside id child
      exact ⟨d, List.mem_append_left _ listed, named⟩
    · rw [List.mem_singleton.mp last, free.2] at child
      cases child
  count := by
    intro d child p holder
    rcases List.mem_append.mp child with inside | last <;>
      rcases List.mem_append.mp holder with outer | end_
    · exact valid.count d inside p outer
    · -- Links inside the list lead to its own ids, not to the fresh one.
      rw [List.mem_singleton.mp end_, free.2, List.count_nil, if_neg]
      intro parent
      obtain ⟨q, listed, named⟩ := valid.parent_mem d inside _ parent
      exact fresh q listed named
    · rw [List.mem_singleton.mp last, free.1, if_neg (by simp), List.count_eq_zero]
      intro listed
      obtain ⟨q, inside, named⟩ := valid.child_mem p outer _ listed
      exact fresh q inside named
    · rw [List.mem_singleton.mp last, List.mem_singleton.mp end_, free.1, free.2]
      simp
  encloses := by
    intro d child p holder parent
    rcases List.mem_append.mp child with inside | last
    · rcases List.mem_append.mp holder with outer | end_
      · exact valid.encloses d inside p outer parent
      · rw [List.mem_singleton.mp end_] at parent
        obtain ⟨q, listed, named⟩ := valid.parent_mem d inside _ parent
        exact absurd named (fresh q listed)
    · rw [List.mem_singleton.mp last, free.1] at parent
      contradiction
  reports := by
    intro s member kind
    rcases List.mem_append.mp member with inside | last
    · exact valid.reports s inside kind
    · rw [List.mem_singleton.mp last]
      exact free

namespace Hierarchy

theorem entry_ext {defs : List Definition} {e c : Entry} (left : e ∈ defs.zipIdx)
    (right : c ∈ defs.zipIdx) (same : e.2 = c.2) : e = c := by
  rw [List.mem_zipIdx_iff_getElem?] at left right
  rw [same, right] at left
  exact Prod.ext (Option.some.inj left).symm same

theorem zipIdx_ids (defs : List Definition) :
    defs.zipIdx.map (fun e : Entry => e.1.id) = defs.map (·.id) := by
  rw [← List.zipIdx_map_fst 0 defs, List.map_map]
  simp [Function.comp_def]

theorem entry_ext_of_id {defs : List Definition} (distinct : (defs.map (·.id)).Nodup) {e c : Entry}
    (left : e ∈ defs.zipIdx) (right : c ∈ defs.zipIdx) (same : e.1.id = c.1.id) : e = c := by
  have nodup : (defs.zipIdx.map (fun e : Entry => e.1.id)).Nodup := by
    rw [zipIdx_ids]
    exact distinct
  exact List.inj_on_of_nodup_map nodup left right same

def newParent? (nav : Navigator) (defs : List Definition) (e : Entry) : Option Entry :=
  if e.1.kind.passthrough = false ∧ e.1.parent = none then
    parentOf? nav (defs.zipIdx.filter (·.1.kind.container)) e
  else none

theorem newParent?_some {nav : Navigator} {defs : List Definition} {e c : Entry}
    (found : newParent? nav defs e = some c) :
    e.1.kind.passthrough = false ∧ e.1.parent = none ∧ c ∈ defs.zipIdx ∧ Encloses c.1 e.1 := by
  unfold newParent? at found
  split at found
  · rename_i free
    obtain ⟨span, _, here⟩ := List.exists_of_findSome?_eq_some found
    have member := List.mem_of_find?_eq_some here
    have test := List.find?_some here
    simp only [mayHold, Bool.and_eq_true] at test
    rw [List.mem_filter] at member
    exact ⟨free.1, free.2, member.1, member.2, test.2.1.2, test.2.2⟩
  · contradiction

theorem mem_links {nav : Navigator} {defs : List Definition} {l : Entry × Entry} :
    l ∈ links nav defs ↔ l.1 ∈ defs.zipIdx ∧ newParent? nav defs l.1 = some l.2 := by
  obtain ⟨e, c⟩ := l
  simp only [links, List.mem_filterMap, List.mem_mergeSort, List.mem_filter, newParent?,
    Option.map_eq_some_iff, Prod.mk.injEq, Bool.and_eq_true, Bool.not_eq_true',
    Option.isNone_iff_eq_none]
  constructor
  · rintro ⟨e', ⟨member, free⟩, c', found, rfl, rfl⟩
    exact ⟨member, by rw [if_pos free]; exact found⟩
  · rintro ⟨member, found⟩
    split at found
    · rename_i free
      exact ⟨e, ⟨member, free⟩, c, found, rfl, rfl⟩
    · contradiction

theorem links_sorted (nav : Navigator) (defs : List Definition) :
    (links nav defs).Pairwise fun a b => a.1.1.nestingKey.le b.1.1.nestingKey = true := by
  unfold links
  rw [List.pairwise_filterMap]
  refine List.Pairwise.imp ?_ (List.pairwise_mergeSort ?_ ?_ _)
  · intro e c le l first m second
    obtain ⟨_, _, rfl⟩ := Option.map_eq_some_iff.mp first
    obtain ⟨_, _, rfl⟩ := Option.map_eq_some_iff.mp second
    exact le
  · exact fun _ _ _ => NestingKey.le_trans
  · exact fun _ _ => NestingKey.le_total _ _

theorem links_sources_nodup (nav : Navigator) (defs : List Definition) :
    ((links nav defs).map (·.1)).Nodup := by
  have entries : defs.zipIdx.Nodup := by
    apply List.Nodup.of_map (·.2)
    rw [List.zipIdx_map_snd]
    exact List.nodup_range'
  unfold links
  rw [List.map_filterMap]
  apply List.Nodup.filterMap
  · intro e c l left right
    simp only [Option.map_map, Option.mem_def, Option.map_eq_some_iff, Function.comp_apply] at left right
    obtain ⟨_, _, rfl⟩ := left
    obtain ⟨_, _, rfl⟩ := right
    rfl
  · exact (List.mergeSort_perm _ _).nodup_iff.mpr (entries.filter _)

@[simp] theorem applyLinks_id (ls : List (Entry × Entry)) (e : Entry) :
    (applyLinks ls e).id = e.1.id := rfl
@[simp] theorem applyLinks_kind (ls : List (Entry × Entry)) (e : Entry) :
    (applyLinks ls e).kind = e.1.kind := rfl

theorem applyLinks_encloses {ls : List (Entry × Entry)} {p d : Entry} :
    Encloses (applyLinks ls p) (applyLinks ls d) ↔ Encloses p.1 d.1 :=
  ⟨fun h => ⟨h.container, h.spans, h.precedes⟩, fun h => ⟨h.container, h.spans, h.precedes⟩⟩

theorem applyLinks_parent (nav : Navigator) {defs : List Definition} {e : Entry}
    (member : e ∈ defs.zipIdx) :
    (applyLinks (links nav defs) e).parent =
      (e.1.parent <|> (newParent? nav defs e).map (·.1.id)) := by
  have found : (links nav defs).find? (fun l => l.1.2 == e.2) =
      (newParent? nav defs e).map (e, ·) := by
    cases parent : newParent? nav defs e with
    | none =>
      rw [Option.map_none, List.find?_eq_none]
      intro l linked same
      rw [mem_links] at linked
      have source : l.1 = e := entry_ext linked.1 member (by simpa using same)
      rw [source, parent] at linked
      exact absurd linked.2 (by simp)
    | some c =>
      apply find?_eq_some_of_unique (mem_links.mpr ⟨member, parent⟩) (by simp)
      intro l linked same
      rw [mem_links] at linked
      have source : l.1 = e := entry_ext linked.1 member (by simpa using same)
      rw [source, parent] at linked
      exact Prod.ext source (Option.some.inj linked.2).symm
  simp only [applyLinks, found, Option.map_map]
  rfl

def newChildren (nav : Navigator) (defs : List Definition) (e : Entry) : List Nat :=
  ((links nav defs).filter fun l => l.2.2 == e.2).map fun l => l.1.1.id

theorem applyLinks_children (nav : Navigator) (defs : List Definition) (e : Entry) :
    (applyLinks (links nav defs) e).children = e.1.children ++ newChildren nav defs e := rfl

theorem mem_newChildren {nav : Navigator} {defs : List Definition} {e : Entry} {id : Nat}
    (member : e ∈ defs.zipIdx) :
    id ∈ newChildren nav defs e ↔
      ∃ c ∈ defs.zipIdx, newParent? nav defs c = some e ∧ c.1.id = id := by
  simp only [newChildren, List.mem_map, List.mem_filter, mem_links, beq_iff_eq]
  constructor
  · rintro ⟨l, ⟨⟨source, parent⟩, same⟩, rfl⟩
    have target := (newParent?_some parent).2.2.1
    exact ⟨l.1, source, by rw [parent, entry_ext target member same], rfl⟩
  · rintro ⟨c, source, parent, rfl⟩
    exact ⟨(c, e), ⟨⟨source, parent⟩, rfl⟩, rfl⟩

theorem newChildren_nodup (nav : Navigator) {defs : List Definition}
    (distinct : (defs.map (·.id)).Nodup) (e : Entry) : (newChildren nav defs e).Nodup := by
  have sources := links_sources_nodup nav defs
  have ids : ((links nav defs).map fun l => l.1.1.id).Nodup := by
    rw [show (links nav defs).map (fun l => l.1.1.id) =
      ((links nav defs).map (·.1)).map (·.1.id) by rw [List.map_map]; rfl]
    refine List.Nodup.map_on ?_ sources
    intro a left b right same
    obtain ⟨l, linked, rfl⟩ := List.mem_map.mp left
    obtain ⟨m, other, rfl⟩ := List.mem_map.mp right
    exact entry_ext_of_id distinct (mem_links.mp linked).1 (mem_links.mp other).1 same
  exact ids.sublist (List.filter_sublist.map _)

theorem count_newChildren (nav : Navigator) {defs : List Definition}
    (distinct : (defs.map (·.id)).Nodup) {d p : Entry} (child : d ∈ defs.zipIdx)
    (holder : p ∈ defs.zipIdx) :
    (newChildren nav defs p).count d.1.id = if newParent? nav defs d = some p then 1 else 0 := by
  -- An entry is a new child of exactly the parent that it gets.
  have member : d.1.id ∈ newChildren nav defs p ↔ newParent? nav defs d = some p := by
    rw [mem_newChildren holder]
    constructor
    · rintro ⟨c, source, parent, same⟩
      rw [← entry_ext_of_id distinct source child same]
      exact parent
    · exact fun parent => ⟨d, child, parent, rfl⟩
  rw [(newChildren_nodup nav distinct p).count]
  simp only [member]

theorem mem_build {nav : Navigator} {defs : List Definition} {d : Definition} :
    d ∈ build nav defs ↔ ∃ e ∈ defs.zipIdx, applyLinks (links nav defs) e = d :=
  List.mem_map

theorem build_ids (nav : Navigator) (defs : List Definition) :
    (build nav defs).map (·.id) = defs.map (·.id) := by
  conv_rhs => rw [← List.zipIdx_map_fst 0 defs]
  rw [build, List.map_map, List.map_map]
  rfl

theorem exists_mem_build (nav : Navigator) {defs : List Definition} {id : Nat} :
    (∃ d ∈ build nav defs, d.id = id) ↔ ∃ d ∈ defs, d.id = id := by
  rw [← List.mem_map, build_ids, List.mem_map]

theorem parent_cases (nav : Navigator) {defs : List Definition} {e : Entry}
    (member : e ∈ defs.zipIdx) {id : Nat}
    (parent : (applyLinks (links nav defs) e).parent = some id) :
    e.1.parent = some id ∨ ∃ c, newParent? nav defs e = some c ∧ c.1.id = id := by
  rw [applyLinks_parent nav member] at parent
  cases old : e.1.parent with
  | some p =>
    rw [old] at parent
    exact .inl parent
  | none =>
    rw [old] at parent
    exact .inr (Option.map_eq_some_iff.mp parent)

theorem build_linked (nav : Navigator) {defs : List Definition} (valid : Linked defs) :
    Linked (build nav defs) where
  distinct := by
    rw [build_ids]
    exact valid.distinct
  parent_mem := by
    intro d member id parent
    obtain ⟨e, entry, rfl⟩ := mem_build.mp member
    rw [exists_mem_build]
    rcases parent_cases nav entry parent with old | ⟨c, new, named⟩
    · exact valid.parent_mem e.1 (List.fst_mem_of_mem_zipIdx entry) id old
    · exact ⟨c.1, List.fst_mem_of_mem_zipIdx (newParent?_some new).2.2.1, named⟩
  child_mem := by
    intro p member id child
    obtain ⟨e, entry, rfl⟩ := mem_build.mp member
    rw [exists_mem_build]
    rw [applyLinks_children, List.mem_append, mem_newChildren entry] at child
    rcases child with old | ⟨c, source, _, named⟩
    · exact valid.child_mem e.1 (List.fst_mem_of_mem_zipIdx entry) id old
    · exact ⟨c.1, List.fst_mem_of_mem_zipIdx source, named⟩
  count := by
    intro d child p holder
    obtain ⟨e, source, rfl⟩ := mem_build.mp child
    obtain ⟨c, target, rfl⟩ := mem_build.mp holder
    rw [applyLinks_children, List.count_append, applyLinks_id, applyLinks_id,
      count_newChildren nav valid.distinct source target, applyLinks_parent nav source,
      valid.count e.1 (List.fst_mem_of_mem_zipIdx source) c.1 (List.fst_mem_of_mem_zipIdx target)]
    cases old : e.1.parent with
    | some p => simp [newParent?, old]
    | none =>
      cases new : newParent? nav defs e with
      | none => simp
      | some b =>
        -- Distinct ids: the new parent has the id of `c` only if it is `c`.
        have same : b.1.id = c.1.id ↔ b = c :=
          ⟨entry_ext_of_id valid.distinct (newParent?_some new).2.2.1 target, fun h => h ▸ rfl⟩
        simp [same]

theorem build_nested (nav : Navigator) {defs : List Definition} (valid : Nested defs) :
    Nested (build nav defs) where
  toLinked := build_linked nav valid.toLinked
  encloses := by
    intro d child p holder parent
    obtain ⟨e, source, rfl⟩ := mem_build.mp child
    obtain ⟨c, target, rfl⟩ := mem_build.mp holder
    rw [applyLinks_encloses]
    rcases parent_cases nav source parent with old | ⟨b, new, named⟩
    · exact valid.encloses e.1 (List.fst_mem_of_mem_zipIdx source) c.1
        (List.fst_mem_of_mem_zipIdx target) old
    · have found := newParent?_some new
      rw [← entry_ext_of_id valid.distinct found.2.2.1 target named]
      exact found.2.2.2
  reports := by
    intro r member kind
    obtain ⟨e, entry, rfl⟩ := mem_build.mp member
    have free := valid.reports e.1 (List.fst_mem_of_mem_zipIdx entry) kind
    have unlinked : newParent? nav defs e = none := by
      simp_all [newParent?]
    have childless : newChildren nav defs e = [] := by
      rw [List.eq_nil_iff_forall_not_mem]
      intro id child
      obtain ⟨c, _, parent, _⟩ := (mem_newChildren entry).mp child
      have container := (newParent?_some parent).2.2.2.container
      have plain := Kind.not_passthrough_of_container container
      rw [applyLinks_kind, plain] at kind
      contradiction
    rw [applyLinks_parent nav entry, applyLinks_children, free.1, free.2, unlinked, childless]
    exact ⟨rfl, rfl⟩

end Hierarchy

namespace Filter

theorem keep_ids_nodup {kept : List Nat} {defs : List Definition}
    (distinct : (defs.map (·.id)).Nodup) : ((keep kept defs).map (·.id)).Nodup := by
  have split : (candidates defs ++ defs.filter fun d => d.kind.passthrough).Perm defs := by
    have := List.filter_append_perm (fun d : Definition => !d.kind.passthrough) defs
    simpa [candidates] using this
  have survivors : (((candidates defs).filter fun d => kept.contains d.id).map (prune kept)).map (·.id) =
      ((candidates defs).filter fun d => kept.contains d.id).map (·.id) := by
    rw [List.map_map]
    rfl
  have sorted := (List.mergeSort_perm
    (((candidates defs).filter fun d => kept.contains d.id).map (prune kept) ++
      defs.filter fun d => d.kind.passthrough)
    fun a b => decide (a.startLine ≤ b.startLine)).map (·.id)
  rw [keep, sorted.nodup_iff, List.map_append, survivors, ← List.map_append]
  have whole := (split.map (·.id)).nodup_iff.mpr distinct
  exact whole.sublist ((List.filter_sublist.append (List.Sublist.refl _)).map _)

theorem keep_origin {kept : List Nat} {defs : List Definition} (valid : Nested defs)
    {d : Definition} (member : d ∈ keep kept defs) :
    ∃ e ∈ defs, prune kept e = d ∧ (e.kind.passthrough = false → e.id ∈ kept) := by
  -- What has a link is a candidate, so pruning leaves the reports as they are.
  rcases mem_keep.mp member with ⟨e, candidate, survives, rfl⟩ | ⟨report, kind⟩
  · exact ⟨e, (mem_candidates.mp candidate).1, rfl, fun _ => survives⟩
  · have free := valid.reports d report kind
    refine ⟨d, report, ?_, fun plain => by rw [plain] at kind; contradiction⟩
    cases d
    simp_all [prune]

theorem mem_keep_of_mem {kept : List Nat} {defs : List Definition} {d : Definition}
    (member : d ∈ defs) (plain : d.kind.passthrough = false) (survives : d.id ∈ kept) :
    prune kept d ∈ keep kept defs :=
  mem_keep.mpr (.inl ⟨d, mem_candidates.mpr ⟨member, plain⟩, survives, rfl⟩)

theorem link_plain {defs : List Definition} (valid : Nested defs) {d p : Definition} (child : d ∈ defs)
    (holder : p ∈ defs) (parent : d.parent = some p.id) :
    d.kind.passthrough = false ∧ p.kind.passthrough = false := by
  -- Both ends of a link are candidates.
  refine ⟨?_, Kind.not_passthrough_of_container (valid.encloses d child p holder parent).container⟩
  by_contra report
  rw [Bool.not_eq_false] at report
  rw [(valid.reports d child report).1] at parent
  contradiction

theorem keep_nested {kept : List Nat} {defs : List Definition} (valid : Nested defs) :
    Nested (keep kept defs) where
  distinct := keep_ids_nodup valid.distinct
  parent_mem := by
    intro d member id parent
    obtain ⟨e, child, rfl, _⟩ := keep_origin valid member
    obtain ⟨old, survives⟩ := prune_parent_eq_some.mp parent
    obtain ⟨p, holder, rfl⟩ := valid.parent_mem e child id old
    exact ⟨prune kept p, mem_keep_of_mem holder (link_plain valid child holder old).2 survives, rfl⟩
  child_mem := by
    intro p member id listed
    obtain ⟨c, holder, rfl, _⟩ := keep_origin valid member
    simp only [prune_children, List.mem_filter, List.contains_eq_mem, decide_eq_true_eq] at listed
    obtain ⟨d, child, rfl⟩ := valid.child_mem c holder id listed.1
    have parent := (valid.mem_children_iff child holder).mp listed.1
    exact ⟨prune kept d, mem_keep_of_mem child (link_plain valid child holder parent).1 listed.2, rfl⟩
  count := by
    intro d member p other
    obtain ⟨e, child, rfl, survives⟩ := keep_origin valid member
    obtain ⟨c, holder, rfl, stays⟩ := keep_origin valid other
    rw [prune_children, prune_id, prune_id]
    have old := valid.count e child c holder
    by_cases parent : e.parent = some c.id
    · have plain := link_plain valid child holder parent
      rw [if_pos (prune_parent_eq_some.mpr ⟨parent, stays plain.2⟩),
        List.count_filter (by simpa using survives plain.1), old, if_pos parent]
    · rw [if_neg fun pruned => parent (prune_parent_eq_some.mp pruned).1]
      rw [if_neg parent, List.count_eq_zero] at old
      exact List.count_eq_zero.mpr fun listed => old (List.mem_of_mem_filter listed)
  encloses := by
    intro d member p other parent
    obtain ⟨e, child, rfl, _⟩ := keep_origin valid member
    obtain ⟨c, holder, rfl, _⟩ := keep_origin valid other
    have old := valid.encloses e child c holder (prune_parent_eq_some.mp parent).1
    exact ⟨old.container, old.spans, old.precedes⟩
  reports := by
    intro r member kind
    obtain ⟨e, report, rfl, _⟩ := keep_origin valid member
    have free := valid.reports e report kind
    simp [prune, free.1, free.2]

theorem apply_nested (f : Filter) {defs : List Definition} (valid : Nested defs) :
    Nested (f.apply defs) := by
  rw [apply_eq_keep]
  exact keep_nested valid

end Filter

end SourceOutline

import Mathlib
import SourceOutline.Proofs.Bytes
import SourceOutline.Proofs.Directories

/-! The files that a walk finds. A walk leaves whole directories out as it meets them; what remains is
the files whose own name and path, and those of every directory above them, are left in. -/
namespace SourceOutline

open FilePath (IsName joined)

namespace Glob

def Matches (pattern text : String) : Prop :=
  ∃ g, Glob.ofText pattern = .ok g ∧ g.accepts text = true

instance (pattern text : String) : Decidable (Matches pattern text) :=
  match read : Glob.ofText pattern with
  | .ok g => decidable_of_iff (g.accepts text = true) (by simp [Matches, read])
  | .error _ => isFalse (by simp [Matches, read])

theorem ofText_text {pattern : String} {g : Glob} (read : Glob.ofText pattern = .ok g) :
    g.text = pattern := by
  simp only [ofText] at read
  cases tokens : tokensFrom pattern.toList.length 0 none pattern.toList with
  | error fault => simp [tokens, Except.map] at read
  | ok ts =>
    simp only [tokens, Except.map, Except.ok.injEq] at read
    rw [← read]

end Glob

namespace Selection

def complaint? (pattern : String) : Option ScanError :=
  match Glob.ofText pattern with
  | .ok _ => none
  | .error fault => some (invalidGlob pattern fault)

theorem globs_cons (pattern : String) (patterns : List String) :
    globs (pattern :: patterns) =
      match Glob.ofText pattern with
      | .ok g => (globs patterns).map (g :: ·)
      | .error fault => .error (invalidGlob pattern fault) := by
  simp only [globs, List.mapM_cons]
  cases Glob.ofText pattern with
  | error fault => rfl
  | ok g =>
    cases patterns.mapM fun p => (Glob.ofText p).mapError (invalidGlob p) with
    | error e => rfl
    | ok gs => rfl

/-- Texts are read as globs in order, or the first one that is none is complained about. -/
theorem globs_cases (patterns : List String) :
    (∃ e, patterns.findSome? complaint? = some e ∧ globs patterns = .error e) ∨
    (patterns.findSome? complaint? = none ∧
      ∃ gs, globs patterns = .ok gs ∧ List.Forall₂ (fun p g => Glob.ofText p = .ok g) patterns gs) := by
  induction patterns with
  | nil => exact .inr ⟨rfl, [], rfl, .nil⟩
  | cons p ps ih =>
    rw [globs_cons, List.findSome?_cons]
    cases read : Glob.ofText p with
    | error fault =>
      simp only [complaint?, read]
      exact .inl ⟨_, rfl, rfl⟩
    | ok g =>
      simp only [complaint?, read]
      rcases ih with ⟨e, first, fails⟩ | ⟨none, gs, all, each⟩
      · exact .inl ⟨e, first, by rw [fails]; rfl⟩
      · exact .inr ⟨none, g :: gs, by rw [all]; rfl, .cons read each⟩

theorem exists_glob {patterns : List String} {gs : List Glob}
    (each : List.Forall₂ (fun p g => Glob.ofText p = .ok g) patterns gs) :
    ∀ p ∈ patterns, ∃ g, Glob.ofText p = .ok g := by
  induction each with
  | nil => simp
  | cons read _ ih => exact List.forall_mem_cons.mpr ⟨⟨_, read⟩, ih⟩

theorem exists_glob_iff {patterns : List String} {gs : List Glob}
    (each : List.Forall₂ (fun p g => Glob.ofText p = .ok g) patterns gs) (P : Glob → Prop) :
    (∃ g ∈ gs, P g) ↔ ∃ p ∈ patterns, ∃ g, Glob.ofText p = .ok g ∧ P g := by
  induction each with
  | nil => simp
  | @cons p g ps gs read _ ih =>
    simp only [List.exists_mem_cons_iff, ih, read, Except.ok.injEq, exists_eq_left']

variable {includes excludes : List String} {s : Selection}

structure ReadFrom (s : Selection) (includes excludes : List String) : Prop where
  includes : List.Forall₂ (fun p g => Glob.ofText p = .ok g) includes s.includes
  excludes : List.Forall₂ (fun p g => Glob.ofText p = .ok g) excludes s.excludes

/-- The globs of both lists are read, or the first text that is none is complained about. -/
theorem ofPatterns_cases (includes excludes : List String) :
    (∃ e, (includes ++ excludes).findSome? complaint? = some e ∧
      ofPatterns includes excludes = .error e) ∨
    ((includes ++ excludes).findSome? complaint? = none ∧
      ∃ s, ofPatterns includes excludes = .ok s ∧ ReadFrom s includes excludes) := by
  rw [List.findSome?_append, ofPatterns]
  rcases globs_cases includes with ⟨e, first, fails⟩ | ⟨clean, is, read, left⟩
  · exact .inl ⟨e, by rw [first]; rfl, by rw [fails]; rfl⟩
  rcases globs_cases excludes with ⟨e, first, fails⟩ | ⟨cleanToo, es, readToo, right⟩
  · exact .inl ⟨e, by rw [clean, first]; rfl, by rw [read, fails]; rfl⟩
  · exact .inr ⟨by rw [clean, cleanToo]; rfl, ⟨is, es⟩, by rw [read, readToo]; rfl, left, right⟩

theorem ofPatterns_of_valid (globs : ∀ p ∈ includes ++ excludes, ∃ g, Glob.ofText p = .ok g) :
    ∃ s, ofPatterns includes excludes = .ok s ∧ ReadFrom s includes excludes := by
  rcases ofPatterns_cases includes excludes with ⟨e, first, _⟩ | ⟨_, found⟩
  · obtain ⟨p, member, complains⟩ := List.exists_of_findSome?_eq_some first
    obtain ⟨g, read⟩ := globs p member
    simp [complaint?, read] at complains
  · exact found

/-- Left out by one of the texts: it is the name, or it matches the name or the path. -/
def Excluded (excludes : List String) (relative name : String) : Prop :=
  ∃ p ∈ excludes, p = name ∨ Glob.Matches p relative ∨ Glob.Matches p name

instance (excludes : List String) (relative name : String) :
    Decidable (Excluded excludes relative name) := inferInstanceAs (Decidable (∃ p ∈ _, _))

/-- Taken because there are no texts, or because one of them matches the path or the name. -/
def Included (includes : List String) (relative name : String) : Prop :=
  includes = [] ∨ ∃ p ∈ includes, Glob.Matches p relative ∨ Glob.Matches p name

instance (includes : List String) (relative name : String) :
    Decidable (Included includes relative name) := inferInstanceAs (Decidable (_ ∨ ∃ p ∈ _, _))

theorem leavesOut_iff (read : ReadFrom s includes excludes) (relative name : String) :
    s.leavesOut relative name = true ↔ Excluded excludes relative name := by
  simp only [leavesOut, List.any_eq_true, Bool.or_eq_true, beq_iff_eq]
  rw [exists_glob_iff read.excludes]
  refine exists_congr fun p => and_congr_right fun member => ?_
  obtain ⟨g, same⟩ := exists_glob read.excludes p member
  simp [Glob.Matches, same, Glob.ofText_text same, or_assoc]

theorem takes_iff (read : ReadFrom s includes excludes) (relative name : String) :
    s.takes relative name = true ↔ Included includes relative name := by
  have none : s.includes.isEmpty = true ↔ includes = [] := by
    rw [List.isEmpty_iff, ← List.length_eq_zero_iff, ← List.length_eq_zero_iff, read.includes.length_eq]
  simp only [takes, Bool.or_eq_true, List.any_eq_true, none, Included]
  rw [exists_glob_iff read.includes]
  refine or_congr_right (exists_congr fun p => and_congr_right fun member => ?_)
  obtain ⟨g, same⟩ := exists_glob read.includes p member
  simp [Glob.Matches, same]

/-- On the way from `above` through `names` nothing is left out, neither a directory nor the end. -/
def ClearFrom (s : Selection) (above names : List String) : Prop :=
  ∀ inner name, inner ++ [name] <+: names → s.leavesOut (joined (above ++ inner ++ [name])) name = false

theorem clearFrom_nil (s : Selection) (above : List String) : s.ClearFrom above [] := by
  intro inner name start
  simp at start

theorem clearFrom_cons {above rest : List String} {name : String} :
    s.ClearFrom above (name :: rest) ↔
      s.leavesOut (joined (above ++ [name])) name = false ∧ s.ClearFrom (above ++ [name]) rest := by
  constructor
  · intro clear
    refine ⟨by simpa using clear [] name (by simp), ?_⟩
    intro inner last start
    simpa using clear (name :: inner) last (by simpa using start)
  · rintro ⟨first, clear⟩ inner last start
    cases inner with
    | nil =>
      obtain rfl : last = name := by simpa using start
      simpa using first
    | cons n inner =>
      obtain ⟨rfl, later⟩ : n = name ∧ inner ++ [last] <+: rest := by simpa using start
      simpa using clear inner last later

/-- From the entry `e` at `above`, names that are not left out lead to a file that is taken. -/
structure Leads (s : Selection) (above : List String) (e : Entry) (names : List String)
    (relative : String) : Prop where
  path : relative = joined (above ++ names)
  file : ∃ f, e.listed? names = some (.file f)
  clear : s.ClearFrom above names
  taken : ∃ last, (above ++ names).getLast? = some last ∧ s.takes relative last = true

variable {above names : List String} {relative name : String} {access : Access}
  {entries : List (String × Entry)}

/-- The way into a directory that may be listed starts with one of its entries, and ends there unless the
directory may be passed. -/
theorem leads_directory (distinct : (entries.map (·.1)).Nodup) :
    s.Leads above (.directory access entries) names relative ↔
      access.list = true ∧ ∃ p ∈ entries, ∃ rest, names = p.1 :: rest ∧
        s.leavesOut (joined (above ++ [p.1])) p.1 = false ∧
        (rest ≠ [] → access.pass = true) ∧ s.Leads (above ++ [p.1]) p.2 rest relative := by
  constructor
  · intro leads
    obtain ⟨f, file⟩ := leads.file
    cases names with
    | nil => simp [Entry.listed?] at file
    | cons name rest =>
      obtain ⟨lists, passes, e, first, below⟩ := Entry.listed?_cons_eq_some_iff.mp file
      obtain ⟨clear, later⟩ := clearFrom_cons.mp leads.clear
      have member := (Entry.child?_eq_some_iff distinct).mp first
      refine ⟨lists, (name, e), member, rest, rfl, clear, passes, ?_⟩
      exact ⟨by simpa using leads.path, ⟨f, below⟩, later, by simpa using leads.taken⟩
  · rintro ⟨lists, ⟨name, e⟩, member, rest, rfl, clear, passes, leads⟩
    obtain ⟨f, file⟩ := leads.file
    have first : (Entry.directory access entries).child? name = some e :=
      (Entry.child?_eq_some_iff distinct).mpr member
    refine ⟨by simpa using leads.path, ⟨f, ?_⟩, clearFrom_cons.mpr ⟨clear, leads.clear⟩,
      by simpa using leads.taken⟩
    exact Entry.listed?_cons_eq_some_iff.mpr ⟨lists, passes, e, first, file⟩

theorem pathsBelow_eq_flatMap (s : Selection) (passed : Bool) (directory : String)
    (entries : List (String × Entry)) :
    s.pathsBelow passed directory entries =
      entries.flatMap fun p => s.pathsAt passed (below directory p.1) p.1 p.2 := by
  induction entries with
  | nil => rfl
  | cons p entries ih => rw [pathsBelow, ih, List.flatMap_cons]

theorem mem_pathsBelow_of (distinct : (entries.map (·.1)).Nodup) (filled : ∀ n ∈ above, n ≠ "")
    (lists : access.list = true)
    (each : ∀ p ∈ entries, relative ∈ s.pathsAt access.pass (joined (above ++ [p.1])) p.1 p.2 ↔
      s.leavesOut (joined (above ++ [p.1])) p.1 = false ∧
        ∃ names, (names ≠ [] → access.pass = true) ∧ s.Leads (above ++ [p.1]) p.2 names relative) :
    relative ∈ s.pathsBelow access.pass (joined above) entries ↔
      ∃ names, s.Leads above (.directory access entries) names relative := by
  rw [pathsBelow_eq_flatMap]
  simp only [List.mem_flatMap, leads_directory distinct]
  constructor
  · rintro ⟨p, member, found⟩
    rw [FilePath.below_joined filled, each p member] at found
    obtain ⟨clear, rest, passes, leads⟩ := found
    exact ⟨_, lists, p, member, rest, rfl, clear, passes, leads⟩
  · rintro ⟨_, _, p, member, rest, rfl, clear, passes, leads⟩
    refine ⟨p, member, ?_⟩
    rw [FilePath.below_joined filled, each p member]
    exact ⟨clear, rest, passes, leads⟩

theorem mem_pathsAt {e : Entry} (valid : e.Valid) (s : Selection) (passed : Bool)
    (proper : ∀ n ∈ above ++ [name], IsName n) :
    relative ∈ s.pathsAt passed (joined (above ++ [name])) name e ↔
      s.leavesOut (joined (above ++ [name])) name = false ∧
        ∃ names, (names ≠ [] → passed = true) ∧ s.Leads (above ++ [name]) e names relative := by
  induction valid generalizing above name passed with
  | file g =>
    rw [pathsAt]
    constructor
    · intro member
      split at member
      · rename_i passes
        simp only [Bool.and_eq_true, Bool.not_eq_true'] at passes
        obtain rfl := List.mem_singleton.mp member
        exact ⟨passes.1, [], by simp, by simp, ⟨g, rfl⟩, clearFrom_nil s _, name, by simp, passes.2⟩
      · cases member
    · rintro ⟨clear, names, _, leads⟩
      obtain ⟨f, file⟩ := leads.file
      cases names with
      | cons n ns => simp [Entry.listed?, Entry.child?, Entry.entries] at file
      | nil =>
        obtain ⟨last, isLast, takes⟩ := leads.taken
        have path := leads.path
        simp only [List.append_nil, List.getLast?_concat, Option.some.injEq] at isLast path
        subst isLast path
        simp [clear, takes]
  | link target =>
    rw [pathsAt]
    constructor
    · intro member
      cases member
    · rintro ⟨_, names, _, leads⟩
      obtain ⟨f, file⟩ := leads.file
      cases names with
      | nil => simp [Entry.listed?] at file
      | cons n ns => simp [Entry.listed?, Entry.child?, Entry.entries] at file
  | @directory access entries distinct named _ ih =>
    have inside : relative ∈ s.pathsBelow access.pass (joined (above ++ [name])) entries ∧
        access.list = true ↔ ∃ names, s.Leads (above ++ [name]) (.directory access entries) names
          relative := by
      by_cases lists : access.list = true
      · rw [mem_pathsBelow_of distinct (fun n member => (proper n member).1) lists]
        · simp [lists]
        · intro p member
          exact ih p member access.pass (by simpa [or_imp, forall_and, named p member] using proper)
      · simp [lists, leads_directory distinct]
    -- To come to a file below the directory, the one above it has to be passed.
    have onward : (∃ names, (names ≠ [] → passed = true) ∧
        s.Leads (above ++ [name]) (.directory access entries) names relative) ↔ passed = true ∧
          ∃ names, s.Leads (above ++ [name]) (.directory access entries) names relative := by
      constructor
      · rintro ⟨names, passes, leads⟩
        obtain ⟨_, _, _, _, rfl, _⟩ := (leads_directory distinct).mp leads
        exact ⟨passes (by simp), _, leads⟩
      · rintro ⟨passes, names, leads⟩
        exact ⟨names, fun _ => passes, leads⟩
    rw [pathsAt, onward, ← inside, List.mem_ite_nil_right]
    simp only [Bool.and_eq_true, Bool.not_eq_true', and_assoc]
    tauto

theorem mem_pathsBelow (valid : (Entry.directory access entries).Valid) (s : Selection)
    (lists : access.list = true) :
    relative ∈ s.pathsBelow access.pass "" entries ↔
      ∃ names, s.Leads [] (.directory access entries) names relative := by
  obtain _ | _ | ⟨distinct, named, inner⟩ := valid
  rw [show "" = joined [] from rfl]
  refine mem_pathsBelow_of distinct (by simp) lists ?_
  intro p member
  exact mem_pathsAt (inner p member) s access.pass (by simpa using named p member)

/-- Files below different entries of a directory have different paths. -/
theorem pathsBelow_nodup_of {passed : Bool} (distinct : (entries.map (·.1)).Nodup)
    (named : ∀ p ∈ entries, IsName p.1) (inner : ∀ p ∈ entries, p.2.Valid)
    (proper : ∀ n ∈ above, IsName n)
    (each : ∀ p ∈ entries, (s.pathsAt passed (joined (above ++ [p.1])) p.1 p.2).Nodup) :
    (s.pathsBelow passed (joined above) entries).Nodup := by
  have filled : ∀ n ∈ above, n ≠ "" := fun n member => (proper n member).1
  rw [pathsBelow_eq_flatMap, List.nodup_flatMap]
  constructor
  · intro p member
    rw [FilePath.below_joined filled]
    exact each p member
  · rw [List.Nodup, List.pairwise_map] at distinct
    refine distinct.imp_of_mem ?_
    intro p q left right apart r atLeft atRight
    simp only [FilePath.below_joined filled] at atLeft atRight
    rw [mem_pathsAt (inner p left) s passed
      (by simpa [or_imp, forall_and, named p left] using proper)] at atLeft
    rw [mem_pathsAt (inner q right) s passed
      (by simpa [or_imp, forall_and, named q right] using proper)] at atRight
    obtain ⟨_, names, _, first⟩ := atLeft
    obtain ⟨_, others, _, second⟩ := atRight
    obtain ⟨_, file⟩ := first.file
    obtain ⟨_, fileToo⟩ := second.file
    have namesProper := ((inner p left).listed? file).2
    have othersProper := ((inner q right).listed? fileToo).2
    have same : above ++ [p.1] ++ names = above ++ [q.1] ++ others := by
      refine FilePath.joined_injective ?_ ?_ (first.path.symm.trans second.path)
      · simp only [List.mem_append, List.mem_singleton]
        rintro n ((inside | rfl) | below)
        exacts [proper n inside, named p left, namesProper n below]
      · simp only [List.mem_append, List.mem_singleton]
        rintro n ((inside | rfl) | below)
        exacts [proper n inside, named q right, othersProper n below]
    simp only [List.append_assoc, List.append_cancel_left_eq, List.singleton_append,
      List.cons.injEq] at same
    exact apart same.1

theorem pathsAt_nodup {e : Entry} (valid : e.Valid) (s : Selection) (passed : Bool)
    (proper : ∀ n ∈ above ++ [name], IsName n) :
    (s.pathsAt passed (joined (above ++ [name])) name e).Nodup := by
  induction valid generalizing above name passed with
  | file g =>
    rw [pathsAt]
    split <;> simp
  | link target => exact List.nodup_nil
  | @directory access entries distinct named inner ih =>
    rw [pathsAt]
    split
    · refine pathsBelow_nodup_of distinct named inner proper ?_
      intro p member
      exact ih p member access.pass (by simpa [or_imp, forall_and, named p member] using proper)
    · exact List.nodup_nil

theorem pathsBelow_nodup (valid : (Entry.directory access entries).Valid) (s : Selection)
    (passed : Bool) : (s.pathsBelow passed "" entries).Nodup := by
  obtain _ | _ | ⟨distinct, named, inner⟩ := valid
  rw [show "" = joined [] from rfl]
  refine pathsBelow_nodup_of distinct named inner (by simp) ?_
  intro p member
  exact pathsAt_nodup (inner p member) s passed (by simpa using named p member)

/-- The names lead past nothing that is left out, and not to it. -/
def Clear (excludes names : List String) : Prop :=
  ∀ above name, above ++ [name] <+: names → ¬ Excluded excludes (joined (above ++ [name])) name

/-- What a walk may yield below `top`, in whatever order: once each, all entries that it gets to see. -/
structure Yields (excludes : List String) (top : Entry) (yielded : List (List String × Entry)) :
    Prop where
  once : (yielded.map (·.1)).Nodup
  reached : ∀ names e, (names, e) ∈ yielded ↔
    names ≠ [] ∧ top.listed? names = some e ∧ Clear excludes names

def kept? (includes : List String) : List String × Entry → Option String
  | (names, .file _) =>
    if Included includes (joined names) (names.getLast?.getD "") then some (joined names) else none
  | _ => none

theorem kept?_eq_some_iff {e : Entry} (some_ : names ≠ []) :
    kept? includes (names, e) = some relative ↔ ∃ f, e = .file f ∧ relative = joined names ∧
      ∃ last, names.getLast? = some last ∧ Included includes relative last := by
  have last := List.getLast?_eq_some_getLast some_
  cases e with
  | file f =>
    simp only [kept?, last, Option.getD_some]
    constructor
    · intro kept
      split at kept
      · rename_i takes
        obtain rfl := Option.some.inj kept
        exact ⟨f, rfl, rfl, _, rfl, takes⟩
      · contradiction
    · rintro ⟨_, _, rfl, _, same, takes⟩
      rw [Option.some.inj same, if_pos takes]
  | directory access entries => simp [kept?]
  | link target => simp [kept?]

end Selection

namespace Files

/-- One directory, `/proj`, with these entries. -/
def project (entries : List (String × Entry)) : Files where
  top := .directory {} [("proj", .directory {} entries)]

theorem directory?_project (entries : List (String × Entry)) :
    (project entries).directory? "/proj" = some ({}, entries) := by
  cbv

theorem project_valid {entries : List (String × Entry)} (valid : (Entry.directory {} entries).Valid) :
    (project entries).top.Valid := by
  have name : IsName "proj" := by decide +kernel
  exact .directory (by simp) (by simpa using name) (by simpa using valid)

end Files

namespace Discover

open Selection

variable {files : Files} {directory : String} {access : Access} {entries : List (String × Entry)}
  {includes excludes : List String}

theorem increasing_of_nodup {paths : List String} (distinct : paths.Nodup) :
    (paths.mergeSort fun a b => decide (a ≤ b)).Pairwise (· < ·) := by
  have sorted := @List.pairwise_mergeSort String (fun a b => decide (a ≤ b)) ?_ ?_ paths
  · have nodup : (paths.mergeSort fun a b => decide (a ≤ b)).Nodup :=
      (List.mergeSort_perm paths _).nodup_iff.mpr distinct
    refine (sorted.and nodup).imp ?_
    rintro a b ⟨le, apart⟩
    by_contra less
    exact apart (String.le_antisymm (by simpa using le) less)
  · intro a b c first second
    simp only [decide_eq_true_eq] at first second ⊢
    exact String.le_trans first second
  · intro a b
    simpa using String.le_total a b

theorem paths_listed (there : files.directory? directory = some (access, entries))
    (lists : access.list = true) (includes excludes : List String) :
    paths files directory includes excludes =
      (Selection.ofPatterns includes excludes).map fun s =>
        (s.pathsBelow access.pass "" entries).mergeSort fun a b => decide (a ≤ b) := by
  simp only [paths, there, lists]
  cases Selection.ofPatterns includes excludes with
  | error e => rfl
  | ok s => rfl

/-- A walk ends well only in a directory that may be listed, and with globs that can be read. -/
theorem paths_ok {found : List String} (listed : paths files directory includes excludes = .ok found) :
    ∃ access entries s, files.directory? directory = some (access, entries) ∧ access.list = true ∧
      ReadFrom s includes excludes ∧
      found = (s.pathsBelow access.pass "" entries).mergeSort fun a b => decide (a ≤ b) := by
  cases there : files.directory? directory with
  | none =>
    simp only [paths, there] at listed
    cases listed
  | some d =>
    obtain ⟨access, entries⟩ := d
    by_cases lists : access.list = true
    · rw [paths_listed there lists] at listed
      rcases ofPatterns_cases includes excludes with ⟨e, _, fails⟩ | ⟨_, s, read, from_⟩
      · rw [fails] at listed
        cases listed
      · rw [read] at listed
        exact ⟨access, entries, s, rfl, lists, from_, (Except.ok.inj listed).symm⟩
    · rw [Bool.not_eq_true] at lists
      simp only [paths, there, lists] at listed
      cases listed

theorem mem_pathsBelow_iff {s : Selection} (read : ReadFrom s includes excludes)
    (valid : (Entry.directory access entries).Valid) (lists : access.list = true)
    {relative : String} :
    relative ∈ s.pathsBelow access.pass "" entries ↔ ∃ names last f, relative = joined names ∧
      names.getLast? = some last ∧ (Entry.directory access entries).listed? names = some (.file f) ∧
      Clear excludes names ∧ Included includes relative last := by
  have excluded := leavesOut_iff read
  have included := takes_iff read
  have clear (names : List String) : s.ClearFrom [] names ↔ Clear excludes names := by
    simp [ClearFrom, Clear, ← excluded]
  simp only [mem_pathsBelow valid s lists, ← clear, ← included]
  constructor
  · rintro ⟨names, leads⟩
    obtain ⟨last, isLast, taken⟩ := leads.taken
    obtain ⟨f, file⟩ := leads.file
    exact ⟨names, last, f, leads.path, isLast, file, leads.clear, taken⟩
  · rintro ⟨names, last, f, path, isLast, file, free, taken⟩
    exact ⟨names, path, ⟨f, file⟩, free, last, isLast, taken⟩

theorem kept_nodup {top : Entry} (valid : top.Valid) {yielded : List (List String × Entry)}
    (walk : Yields excludes top yielded) : (yielded.filterMap (kept? includes)).Nodup := by
  have once := walk.once
  rw [List.Nodup, List.pairwise_map] at once
  rw [List.Nodup, List.pairwise_filterMap]
  refine once.imp_of_mem ?_
  rintro ⟨names, e⟩ ⟨others, o⟩ left right apart r first q second rfl
  have here := (walk.reached names e).mp left
  have there := (walk.reached others o).mp right
  obtain ⟨_, _, path, _⟩ := (kept?_eq_some_iff here.1).mp first
  obtain ⟨_, _, same, _⟩ := (kept?_eq_some_iff there.1).mp second
  exact apart (FilePath.joined_injective (valid.listed? here.2.1).2 (valid.listed? there.2.1).2
    (path.symm.trans same))

theorem mem_kept {s : Selection} (read : ReadFrom s includes excludes)
    (valid : (Entry.directory access entries).Valid) (lists : access.list = true)
    {yielded : List (List String × Entry)} (walk : Yields excludes (.directory access entries) yielded)
    {relative : String} :
    relative ∈ yielded.filterMap (kept? includes) ↔
      relative ∈ s.pathsBelow access.pass "" entries := by
  simp only [List.mem_filterMap, Prod.exists, mem_pathsBelow_iff read valid lists]
  constructor
  · rintro ⟨names, e, member, kept⟩
    have here := (walk.reached names e).mp member
    obtain ⟨f, rfl, path, last, isLast, taken⟩ := (kept?_eq_some_iff here.1).mp kept
    exact ⟨names, last, f, path, isLast, here.2.1, here.2.2, taken⟩
  · rintro ⟨names, last, f, path, isLast, file, clear, taken⟩
    have some_ : names ≠ [] := by
      rintro rfl
      cases isLast
    exact ⟨names, _, (walk.reached names _).mpr ⟨some_, file, clear⟩,
      (kept?_eq_some_iff some_).mpr ⟨f, rfl, path, last, isLast, taken⟩⟩

/-- The paths increase by bytes, and they are those of the files that can be seen, have a matching name or
path, and are left in together with every directory above them, in whatever order a walk comes to them.
Where no directory is closed, all files can be seen. -/
theorem paths_lists_clear_files (files : Files) (directory : String) (access : Access)
    (entries : List (String × Entry)) (found : files.directory? directory = some (access, entries))
    (lists : access.list = true) (valid : (Entry.directory access entries).Valid)
    (includes excludes : List String)
    (globs : ∀ p ∈ includes ++ excludes, ∃ g, Glob.ofText p = .ok g) :
    ∃ paths, Discover.paths files directory includes excludes = .ok paths ∧
      paths.Pairwise (fun a b => Text.bytes a < Text.bytes b) ∧
      (∀ relative, relative ∈ paths ↔ ∃ names last f, relative = joined names ∧
        names.getLast? = some last ∧ (Entry.directory access entries).listed? names = some (.file f) ∧
        Clear excludes names ∧ Included includes relative last) ∧
      ((Entry.directory access entries).Open →
        ∀ relative, relative ∈ paths ↔ ∃ names last f, relative = joined names ∧
          names.getLast? = some last ∧ (Entry.directory access entries).at? names = some (.file f) ∧
          Clear excludes names ∧ Included includes relative last) ∧
      ∀ yielded, Yields excludes (.directory access entries) yielded →
        (yielded.filterMap (kept? includes)).mergeSort (fun a b => decide (a ≤ b)) = paths := by
  obtain ⟨s, same, read⟩ := ofPatterns_of_valid globs
  have increasing := increasing_of_nodup (pathsBelow_nodup valid s access.pass)
  have exactly := @mem_pathsBelow_iff _ _ _ _ _ read valid lists
  refine ⟨_, by rw [paths_listed found lists, same]; rfl, increasing.imp Text.bytes_lt_bytes, ?_, ?_, ?_⟩
  · intro relative
    rw [List.mem_mergeSort, exactly]
  · intro free relative
    rw [List.mem_mergeSort, exactly]
    simp only [free.listed?_eq]
  · intro yielded walk
    -- Two increasing lists with the same members are the same list.
    have sorted := increasing_of_nodup (@kept_nodup includes excludes _ valid _ walk)
    refine sorted.eq_of_mem_iff increasing ?_
    intro relative
    rw [List.mem_mergeSort, mem_kept read valid lists walk, List.mem_mergeSort]

/-- One directory is left out by its name and another may not be listed, each with the file in it; the walk
may come to the third file before it comes to its directory. -/
theorem paths_lists_clear_files_pruned :
    let file : Entry := .file (File.ofText "")
    let source : Entry := .directory {} [("a.js", file)]
    let shut : Entry := .directory { list := false } [("b.js", file)]
    let entries := [("src", source), ("shut", shut), ("node_modules", .directory {} [("c.js", file)])]
    let files := Files.project entries
    let yielded := [(["src", "a.js"], file), (["shut"], shut), (["src"], source)]
    files.directory? "/proj" = some ({}, entries) ∧ (Entry.directory {} entries).Valid ∧
    (∀ p ∈ ["*.js"] ++ ["node_modules"], ∃ g, Glob.ofText p = .ok g) ∧
    Yields ["node_modules"] (.directory {} entries) yielded ∧
    ∃ paths, Discover.paths files "/proj" ["*.js"] ["node_modules"] = .ok paths ∧
      "src/a.js" ∈ paths ∧ "shut/b.js" ∉ paths ∧ "node_modules/c.js" ∉ paths ∧
      (yielded.filterMap (kept? ["*.js"])).mergeSort (fun a b => decide (a ≤ b)) = paths := by
  intro file source shut entries files yielded
  have found : files.directory? "/proj" = some ({}, entries) := Files.directory?_project entries
  have valid : (Entry.directory {} entries).Valid := by
    have inner (access : Access) (name : String) (proper : IsName name) :
        (Entry.directory access [(name, file)]).Valid :=
      .directory (by simp) (by simpa using proper) (by simpa using Entry.Valid.file _)
    refine .directory (by decide) (by decide +kernel) ?_
    simp only [entries, List.forall_mem_cons]
    exact ⟨inner _ _ (by decide +kernel), inner _ _ (by decide +kernel), inner _ _ (by decide +kernel),
      by simp⟩
  have globs : ∀ p ∈ ["*.js"] ++ ["node_modules"], ∃ g, Glob.ofText p = .ok g := by
    intro p member
    obtain rfl | rfl : p = "*.js" ∨ p = "node_modules" := by simpa using member
    · exact ⟨_, rfl⟩
    · exact ⟨_, rfl⟩
  have clear : Clear ["node_modules"] ["src", "a.js"] := by
    intro above name start
    rcases above with _ | ⟨first, _ | ⟨second, above⟩⟩
    · obtain rfl : name = "src" := by simpa using start
      decide +kernel
    · obtain ⟨rfl, rfl⟩ : first = "src" ∧ name = "a.js" := by simpa using start
      decide +kernel
    · simp at start
  have clearShut : Clear ["node_modules"] ["shut"] := by
    intro above name start
    rcases above with _ | ⟨first, above⟩
    · obtain rfl : name = "shut" := by simpa using start
      decide +kernel
    · simp at start
  have walk : Yields ["node_modules"] (.directory {} entries) yielded := by
    refine ⟨by decide, fun names e => ⟨?_, ?_⟩⟩
    · intro member
      obtain ⟨rfl, rfl⟩ | ⟨rfl, rfl⟩ | ⟨rfl, rfl⟩ : (names = ["src", "a.js"] ∧ e = file) ∨
          (names = ["shut"] ∧ e = shut) ∨ (names = ["src"] ∧ e = source) := by
        simpa [yielded] using member
      · exact ⟨by simp, rfl, clear⟩
      · exact ⟨by simp, rfl, clearShut⟩
      · exact ⟨by simp, rfl, fun above name start => clear above name (start.trans ⟨["a.js"], rfl⟩)⟩
    · rintro ⟨some_, leads, free⟩
      obtain _ | ⟨name, rest⟩ := names
      · contradiction
      have stays : name ≠ "node_modules" := by
        rintro rfl
        exact free [] "node_modules" (by simp) (by decide +kernel)
      obtain ⟨_, _, inner, first, below⟩ := Entry.listed?_cons_eq_some_iff.mp leads
      rw [Entry.child?_eq_some_iff (by decide)] at first
      obtain ⟨rfl, rfl⟩ | ⟨rfl, rfl⟩ : (name = "src" ∧ inner = source) ∨
          (name = "shut" ∧ inner = shut) := by simpa [entries, stays] using first
      · obtain _ | ⟨next, more⟩ := rest
        · obtain rfl : source = e := by simpa [Entry.listed?] using below
          simp [yielded]
        obtain ⟨_, _, last, second, end_⟩ := Entry.listed?_cons_eq_some_iff.mp below
        rw [Entry.child?_eq_some_iff (by decide)] at second
        obtain ⟨rfl, rfl⟩ : next = "a.js" ∧ last = file := by simpa using second
        obtain _ | ⟨beyond, others⟩ := more
        · obtain rfl : file = e := by simpa [Entry.listed?] using end_
          simp [yielded]
        · obtain ⟨_, _, _, none, _⟩ := Entry.listed?_cons_eq_some_iff.mp end_
          cases none
      · obtain _ | ⟨next, more⟩ := rest
        · obtain rfl : shut = e := by simpa [Entry.listed?] using below
          simp [yielded]
        · obtain ⟨lists, _⟩ := Entry.listed?_cons_eq_some_iff.mp below
          cases lists
  refine ⟨found, valid, globs, walk, ?_⟩
  obtain ⟨paths, listed, _, exactly, _, anyOrder⟩ :=
    paths_lists_clear_files files "/proj" {} entries found rfl valid ["*.js"] ["node_modules"] globs
  -- A path that is listed leads by its own names to a file that is seen.
  have seen (names : List String) (proper : ∀ name ∈ names, IsName name)
      (listed : joined names ∈ paths) :
      (∃ f, (Entry.directory {} entries).listed? names = some (.file f)) ∧
        Clear ["node_modules"] names := by
    obtain ⟨others, _, f, path, _, leads, clear, _⟩ := (exactly _).mp listed
    obtain rfl := FilePath.joined_injective proper (valid.listed? leads).2 path
    exact ⟨⟨f, leads⟩, clear⟩
  refine ⟨paths, listed, ?_, ?_, ?_, anyOrder yielded walk⟩
  · exact (exactly _).mpr ⟨["src", "a.js"], "a.js", _, by decide +kernel, rfl, rfl, clear,
      by decide +kernel⟩
  · intro listed
    obtain ⟨⟨f, leads⟩, _⟩ := seen ["shut", "b.js"] (by decide +kernel) listed
    cases leads
  · intro listed
    obtain ⟨_, clear⟩ := seen ["node_modules", "c.js"] (by decide +kernel) listed
    exact clear [] "node_modules" (by simp) (by decide +kernel)

end Discover

end SourceOutline

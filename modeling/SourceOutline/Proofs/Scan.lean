import SourceOutline.Proofs.Discovery
import SourceOutline.Proofs.Workers

/-! What a scan returns: the first thing that is wrong with what it was asked for, or the definitions of
each file that it found, which depend on that file alone. -/
namespace SourceOutline.Scan

open FilePath (IsName joined)

/-- What keeps a scan from starting. -/
inductive Cause where
  | threads | complexity | parameters | directory | listing | includes | excludes
deriving DecidableEq, Repr

namespace Cause

/-- The order in which the causes are looked for. -/
def inOrder : List Cause :=
  [threads, complexity, parameters, directory, listing, includes, excludes]

def crossed? (what : String) (least most : Option Nat) : Option ScanError :=
  least.bind fun a => most.bind fun b =>
    if b < a then some (FilterOptions.crossedBounds what a b) else none

def error? (files : Files) (path : String) (o : ScanOptions) : Cause → Option ScanError
  | threads =>
    if o.threads = 0 then some (.invalidArgument "thread count must be greater than 0") else none
  | complexity => crossed? "Complexity" o.filter.minComplexity o.filter.maxComplexity
  | parameters => crossed? "Parameters" o.filter.minParameters o.filter.maxParameters
  | directory =>
    if (files.directory? path).isNone then some (.directoryNotFound path) else none
  | listing =>
    if (files.directory? path).any (!·.1.list) then
      some (.readFailure path Obstacle.denied.message)
    else none
  | includes => o.patterns.findSome? Selection.complaint?
  | excludes => o.exclude.findSome? Selection.complaint?

theorem checkBounds_eq (what : String) (least most : Option Nat) :
    FilterOptions.checkBounds what least most =
      match crossed? what least most with
      | some e => .error e
      | none => .ok () := by
  cases least with
  | none => rfl
  | some a =>
    cases most with
    | none => rfl
    | some b =>
      simp only [FilterOptions.checkBounds, crossed?, Option.bind_some, gt_iff_lt]
      split <;> rfl

theorem complaint_includes (o : ScanOptions) :
    o.includes.findSome? Selection.complaint? = o.patterns.findSome? Selection.complaint? := by
  unfold ScanOptions.includes
  split
  · rename_i none
    rw [List.isEmpty_iff.mp none]
    decide +kernel
  · rfl

end Cause

/-- The first cause, in order, that refuses the scan. -/
def refusal? (files : Files) (directory : String) (o : ScanOptions) : Option ScanError :=
  Cause.inOrder.findSome? (Cause.error? files directory o)

section

variable (files : Files) (directory : String) (o : ScanOptions)

theorem validate_eq :
    o.validate =
      match [.threads, .complexity, .parameters].findSome? (Cause.error? files directory o) with
      | some e => .error e
      | none => .ok () := by
  simp only [ScanOptions.validate, FilterOptions.validate, Cause.checkBounds_eq, List.findSome?_cons,
    List.findSome?_nil, Cause.error?]
  by_cases none : o.threads = 0
  · simp only [if_pos none]
    rfl
  · simp only [if_neg none]
    cases Cause.crossed? "Complexity" o.filter.minComplexity o.filter.maxComplexity with
    | some e => rfl
    | none =>
      cases Cause.crossed? "Parameters" o.filter.minParameters o.filter.maxParameters with
      | some e => rfl
      | none => rfl

theorem paths_cases :
    (∃ e, [.directory, .listing, .includes, .excludes].findSome? (Cause.error? files directory o) =
        some e ∧ Discover.paths files directory o.includes o.exclude = .error e) ∨
    ([.directory, .listing, .includes, .excludes].findSome? (Cause.error? files directory o) = none ∧
      ∃ found, Discover.paths files directory o.includes o.exclude = .ok found) := by
  have globs : [.includes, .excludes].findSome? (Cause.error? files directory o) =
      (o.includes ++ o.exclude).findSome? Selection.complaint? := by
    rw [List.findSome?_append, Cause.complaint_includes]
    simp only [List.findSome?_cons, List.findSome?_nil, Cause.error?]
    cases o.patterns.findSome? Selection.complaint? <;>
      cases o.exclude.findSome? Selection.complaint? <;> rfl
  rw [List.findSome?_cons, List.findSome?_cons, globs]
  cases there : files.directory? directory with
  | none =>
    refine .inl ⟨.directoryNotFound directory, by simp [Cause.error?, there], ?_⟩
    simp only [Discover.paths, there]
    rfl
  | some d =>
    obtain ⟨access, entries⟩ := d
    by_cases lists : access.list = true
    · rw [Discover.paths_listed there lists]
      simp only [Cause.error?, there, Option.isNone_some, Option.any_some, lists, Bool.not_true,
        Bool.false_eq_true, if_false]
      rcases Selection.ofPatterns_cases o.includes o.exclude with ⟨e, first, fails⟩ | ⟨clean, s, read, _⟩
      · exact .inl ⟨e, first, by rw [fails]; rfl⟩
      · exact .inr ⟨clean, _, by rw [read]; rfl⟩
    · rw [Bool.not_eq_true] at lists
      refine .inl ⟨.readFailure directory Obstacle.denied.message, by simp [Cause.error?, there, lists], ?_⟩
      simp only [Discover.paths, there, lists]
      rfl

/-- A scan is refused for the first cause, or there is none and every file found is indexed. -/
theorem collect_cases :
    (∃ e, refusal? files directory o = some e ∧ collect files directory o = .error e) ∨
    (refusal? files directory o = none ∧
      ∃ found, Discover.paths files directory o.includes o.exclude = .ok found ∧
        collect files directory o = .ok (filtered o (found.map (indexed files directory)))) := by
  have halves : refusal? files directory o =
      ([.threads, .complexity, .parameters].findSome? (Cause.error? files directory o)).or
        ([.directory, .listing, .includes, .excludes].findSome? (Cause.error? files directory o)) := by
    rw [← List.findSome?_append]
    rfl
  rw [halves]
  simp only [collect, validate_eq files directory o]
  cases [.threads, .complexity, .parameters].findSome? (Cause.error? files directory o) with
  | some e => exact .inl ⟨e, rfl, rfl⟩
  | none =>
    rcases paths_cases files directory o with ⟨e, first, fails⟩ | ⟨clean, found, paths⟩
    · exact .inl ⟨e, by rw [first]; rfl, by rw [fails]; rfl⟩
    · exact .inr ⟨by rw [clean]; rfl, found, paths, by rw [paths]; rfl⟩

theorem collect_error_iff (e : ScanError) :
    collect files directory o = .error e ↔ refusal? files directory o = some e := by
  rcases collect_cases files directory o with ⟨cause, first, fails⟩ | ⟨clean, found, _, all⟩
  · simp [first, fails]
  · simp [clean, all]

theorem collect_ok {catalog : Catalog} (collected : collect files directory o = .ok catalog) :
    ∃ found, Discover.paths files directory o.includes o.exclude = .ok found ∧
      catalog = filtered o (found.map (indexed files directory)) := by
  rcases collect_cases files directory o with ⟨_, _, fails⟩ | ⟨_, found, paths, all⟩
  · simp [fails] at collected
  · exact ⟨found, paths, Except.ok.inj (collected.symm.trans all)⟩

theorem collect_threads {catalog : Catalog} (collected : collect files directory o = .ok catalog)
    {threads : Nat} (some_ : 0 < threads) :
    collect files directory { o with threads } = collect files directory o := by
  have clean : ∀ cause ∈ Cause.inOrder, cause.error? files directory o = none := by
    rw [← List.findSome?_eq_none_iff, ← Option.not_isSome_iff_eq_none, Option.isSome_iff_exists]
    rintro ⟨e, first⟩
    simp [(collect_error_iff files directory o e).mpr first] at collected
  have cleanToo : refusal? files directory { o with threads } = none := by
    rw [refusal?, List.findSome?_eq_none_iff]
    intro cause member
    cases cause with
    | threads => exact if_neg (Nat.ne_of_gt some_)
    | _ => exact clean _ member
  obtain ⟨found, paths, rfl⟩ := collect_ok files directory o collected
  rcases collect_cases files directory { o with threads } with ⟨e, first, _⟩ | ⟨_, others, pathsToo, all⟩
  · simp [cleanToo] at first
  · obtain rfl : found = others := Except.ok.inj (paths.symm.trans pathsToo)
    exact all.trans collected.symm

/-- Of all files, only whether the directory is there and may be listed can refuse a scan. -/
theorem refusal?_congr {other : Files}
    (same : (other.directory? directory).map (·.1.list) =
      (files.directory? directory).map (·.1.list)) :
    refusal? other directory o = refusal? files directory o := by
  have alike : Cause.error? other directory o = Cause.error? files directory o := by
    funext cause
    cases cause with
    | directory =>
      have there := congrArg Option.isNone same
      simp only [Option.isNone_map] at there
      simp only [Cause.error?, there]
    | listing =>
      have shut := congrArg (Option.any (!·)) same
      simp only [Option.any_map] at shut
      exact if_congr (iff_of_eq (congrArg (· = true) shut)) rfl rfl
    | _ => rfl
  rw [refusal?, alike, refusal?]

end

section

variable {files : Files} {directory : String} {o : ScanOptions} {found : List String}
  {access : Access} {entries : List (String × Entry)}

theorem directory_valid (valid : files.top.Valid)
    (there : files.directory? directory = some (access, entries)) :
    (Entry.directory access entries).Valid := by
  obtain ⟨_, here, _, leads⟩ := Files.directory?_eq_some there
  exact (valid.at? leads).1

theorem names_proper (valid : files.top.Valid) {names : List String} {content : Content}
    (below : files.fileBelow? directory names = some content) : ∀ name ∈ names, IsName name := by
  obtain ⟨access, entries, f, there, seen, _⟩ := Files.fileBelow?_eq_some_iff.mp below
  exact ((directory_valid valid there).listed? seen).2

theorem mem_found (valid : files.top.Valid) {includes excludes : List String}
    (paths : Discover.paths files directory includes excludes = .ok found) {relative : String} :
    relative ∈ found ↔ ∃ names last content, relative = joined names ∧ names.getLast? = some last ∧
      files.fileBelow? directory names = some content ∧ Selection.Clear excludes names ∧
      Selection.Included includes relative last := by
  obtain ⟨access, entries, s, there, lists, read, rfl⟩ := Discover.paths_ok paths
  simp only [List.mem_mergeSort, Discover.mem_pathsBelow_iff read (directory_valid valid there) lists,
    Files.fileBelow?_eq_some_iff, there, Option.some.injEq, Prod.mk.injEq, and_assoc]
  constructor
  · rintro ⟨names, last, f, path, isLast, seen, clear, taken⟩
    exact ⟨names, last, _, path, isLast, ⟨access, entries, f, rfl, rfl, seen, rfl⟩, clear, taken⟩
  · rintro ⟨names, last, content, path, isLast, ⟨_, _, f, rfl, rfl, seen, _⟩, clear, taken⟩
    exact ⟨names, last, f, path, isLast, seen, clear, taken⟩

theorem found_increasing (valid : files.top.Valid) {includes excludes : List String}
    (paths : Discover.paths files directory includes excludes = .ok found) :
    found.Pairwise (· < ·) := by
  obtain ⟨access, entries, s, there, _, _, rfl⟩ := Discover.paths_ok paths
  exact Discover.increasing_of_nodup
    (Selection.pathsBelow_nodup (directory_valid valid there) s access.pass)

theorem filtered_paths (o : ScanOptions) (files : Files) (directory : String) (found : List String) :
    (filtered o (found.map (indexed files directory))).map (·.1) = found := by
  simp only [filtered, List.map_map]
  exact List.map_id found

/-- What is listed under names depends on the file that they lead to, and on no other. -/
theorem mem_filtered (valid : files.top.Valid)
    (paths : Discover.paths files directory o.includes o.exclude = .ok found) {names : List String}
    (proper : ∀ name ∈ names, IsName name) {defs : List Definition} :
    (joined names, defs) ∈ filtered o (found.map (indexed files directory)) ↔
      ∃ content last, files.fileBelow? directory names = some content ∧ names.getLast? = some last ∧
        Selection.Clear o.exclude names ∧ Selection.Included o.includes (joined names) last ∧
        defs = (Filter.ofOptions o.filter).apply
          (definitions (FilePath.join directory (joined names)) content) := by
  simp only [filtered, indexed, List.map_map, List.mem_map, Function.comp_apply, Prod.mk.injEq]
  constructor
  · rintro ⟨relative, member, rfl, rfl⟩
    obtain ⟨others, last, content, path, isLast, below, clear, taken⟩ := (mem_found valid paths).mp member
    obtain rfl := FilePath.joined_injective proper (names_proper valid below) path
    exact ⟨content, last, below, isLast, clear, taken, by rw [Files.read_join proper below]⟩
  · rintro ⟨content, last, below, isLast, clear, taken, rfl⟩
    refine ⟨joined names, ?_, rfl, by rw [Files.read_join proper below]⟩
    exact (mem_found valid paths).mpr ⟨names, last, content, rfl, isLast, below, clear, taken⟩

end

/-- A scan gives the first refusal there is, whatever the files are; without one it gives, at the paths
found, the filtered definitions of what is read from each file alone. Workers come to the same catalogue in
every order, and report each path once. A file that stays as it is keeps its place in the catalogue,
whatever becomes of the others. -/
theorem collect_refines_files (files : Files) (valid : files.top.Valid) (directory : String)
    (o : ScanOptions) :
    (∀ e, collect files directory o = .error e ↔ refusal? files directory o = some e) ∧
    (∀ other e, (Files.directory? other directory).map (·.1.list) =
        (files.directory? directory).map (·.1.list) →
      (collect other directory o = .error e ↔ collect files directory o = .error e)) ∧
    ∀ catalog, collect files directory o = .ok catalog →
      Discover.paths files directory o.includes o.exclude = .ok (catalog.map (·.1)) ∧
      (catalog.map (·.1)).Pairwise (· < ·) ∧
      (∀ entry ∈ catalog, ∃ names content, entry.1 = joined names ∧
        files.fileBelow? directory names = some content ∧
        files.read (FilePath.join directory entry.1) = content ∧
        entry.2 = (Filter.ofOptions o.filter).apply
          (definitions (FilePath.join directory entry.1) content)) ∧
      (∀ threads, 0 < threads → collect files directory { o with threads } = .ok catalog ∧
        ∀ p, Pool.Run threads files directory (.start (catalog.map (·.1))) p →
          (∃ q, Pool.Run threads files directory p q ∧ q.Finished) ∧
          (p.Finished → filtered o p.entries = catalog ∧ p.reported.Perm (catalog.map (·.1)))) ∧
      ∀ other : Files, other.top.Valid → ∀ changed, collect other directory o = .ok changed →
        ∀ names, (∀ name ∈ names, IsName name) →
          other.fileBelow? directory names = files.fileBelow? directory names →
          ∀ defs, (joined names, defs) ∈ changed ↔ (joined names, defs) ∈ catalog := by
  refine ⟨collect_error_iff files directory o, ?_, ?_⟩
  · intro other e same
    rw [collect_error_iff, collect_error_iff, refusal?_congr files directory o same]
  intro catalog collected
  obtain ⟨found, paths, rfl⟩ := collect_ok files directory o collected
  have increasing := found_increasing valid paths
  rw [filtered_paths]
  refine ⟨paths, increasing, ?_, ?_, ?_⟩
  · intro entry member
    simp only [filtered, List.map_map, List.mem_map] at member
    obtain ⟨relative, among, rfl⟩ := member
    obtain ⟨names, _, content, rfl, _, below, _⟩ := (mem_found valid paths).mp among
    have read := Files.read_join (names_proper valid below) below
    refine ⟨names, content, rfl, below, read, ?_⟩
    rw [← read]
    rfl
  · intro threads some_
    refine ⟨(collect_threads files directory o collected some_).trans collected, ?_⟩
    intro p run
    refine ⟨Pool.run_finishes some_ files directory p, ?_⟩
    intro finished
    obtain ⟨entries, reported⟩ := Pool.finished_entries increasing run finished
    exact ⟨by rw [entries], reported⟩
  · intro other validToo changed collectedToo names proper same defs
    obtain ⟨others, pathsToo, rfl⟩ := collect_ok other directory o collectedToo
    rw [mem_filtered validToo pathsToo proper, mem_filtered valid paths proper, same]

/-- A file with a function in it. -/
def functionFile : File :=
  let part (kind field : String) (start stop : Nat) : Node :=
    ⟨kind, some field, ⟨start, stop⟩, true, false, false, false, []⟩
  let function : Node := ⟨"function_declaration", none, ⟨0, 15⟩, true, false, false, false,
    [part "identifier" "name" 9 10, part "formal_parameters" "parameters" 10 12,
      part "statement_block" "body" 13 15]⟩
  { File.ofText "function f() \x7b\x7d" with
    tree := some ⟨"program", none, ⟨0, 15⟩, true, false, false, false, [function]⟩ }

/-- A file that may not be read does not stop the scan. When it may be, the function in the other file keeps
its entry. -/
theorem collect_refines_files_unreadable :
    let files (second : File) :=
      Files.project [("a.js", .file functionFile), ("b.js", .file second)]
    let shut := { functionFile with readable := false }
    (files shut).top.Valid ∧ (files functionFile).top.Valid ∧ ∃ catalog changed defs failure,
      collect (files shut) "/proj" {} = .ok catalog ∧
      collect (files functionFile) "/proj" {} = .ok changed ∧
      ("a.js", defs) ∈ catalog ∧ ("a.js", defs) ∈ changed ∧ defs.map (·.name) = ["f"] ∧
      ("b.js", failure) ∈ catalog ∧
      failure.map (·.name) = ["Failed to read /proj/b.js: Permission denied (os error 13)"] := by
  intro files shut
  have valid (second : File) : (files second).top.Valid := by
    have proper : IsName "a.js" ∧ IsName "b.js" := by decide +kernel
    refine Files.project_valid (.directory (by simp) (by simpa using proper) ?_)
    simpa using ⟨Entry.Valid.file _, Entry.Valid.file _⟩
  have there (second : File) : (files second).directory? "/proj" =
      some ({}, [("a.js", .file functionFile), ("b.js", .file second)]) :=
    Files.directory?_project _
  have clean (second : File) : refusal? (files second) "/proj" {} = none := by
    have globs : defaultExcludes.findSome? Selection.complaint? = none := by decide +kernel
    simp [refusal?, Cause.inOrder, List.findSome?_cons, Cause.error?, there, Cause.crossed?, globs]
  have listed : Discover.paths (files shut) "/proj" Language.defaultPatterns defaultExcludes =
      .ok ["a.js", "b.js"] := by cbv
  have first : (files shut).read "/proj/a.js" = functionFile.read := by cbv
  have denied : (files shut).read "/proj/b.js" = .error .denied := by cbv
  obtain ⟨errors, same, catalogs⟩ := collect_refines_files (files shut) (valid shut) "/proj" {}
  cases collected : collect (files shut) "/proj" {} with
  | error e => simpa [clean] using (errors e).mp collected
  | ok catalog =>
    cases collectedToo : collect (files functionFile) "/proj" {} with
    | error e =>
      have refused := (same (files functionFile) e (by rw [there, there]; rfl)).mp collectedToo
      simp [collected] at refused
    | ok changed =>
      obtain ⟨paths, _, entries, _, stays⟩ := catalogs catalog collected
      have found : catalog.map (·.1) = ["a.js", "b.js"] := Except.ok.inj (paths.symm.trans listed)
      obtain ⟨⟨_, defs⟩, member, rfl⟩ : ∃ e ∈ catalog, e.1 = "a.js" := by
        rw [← List.mem_map, found]
        simp
      obtain ⟨⟨_, failure⟩, memberToo, rfl⟩ : ∃ e ∈ catalog, e.1 = "b.js" := by
        rw [← List.mem_map, found]
        simp
      obtain ⟨_, _, _, _, rfl, own⟩ := entries _ member
      obtain ⟨_, _, _, _, rfl, ownToo⟩ := entries _ memberToo
      refine ⟨valid shut, valid functionFile, catalog, changed, defs, failure, rfl, rfl, member, ?_, ?_,
        memberToo, ?_⟩
      · refine (stays _ (valid functionFile) changed collectedToo ["a.js"] (by decide +kernel) ?_ _).mpr
          member
        simp only [Files.fileBelow?, there]
        rfl
      · simp only at own
        rw [own, show FilePath.join "/proj" "a.js" = "/proj/a.js" by decide +kernel, first]
        decide +kernel
      · simp only at ownToo
        rw [ownToo, show FilePath.join "/proj" "b.js" = "/proj/b.js" by decide +kernel, denied]
        decide +kernel

end SourceOutline.Scan

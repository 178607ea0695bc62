import SourceOutline.Proofs.Endings
import SourceOutline.Proofs.Scan
import SourceOutline.Proofs.Search

/-! What a scan without patterns takes. Its globs are the extensions of the known languages as they are
spelled there, whereas a language is looked up in any case and needs a name before the dot. So a scan
passes over known files with a capital in the extension, and takes unknown files that are called by an
extension alone. -/
namespace SourceOutline

namespace Language

def knownExtensions : List String := builtin.flatMap (·.extensions)

theorem defaultPatterns_eq : defaultPatterns = knownExtensions.map fun ext => "*" ++ ("." ++ ext) := by
  decide +kernel

theorem known_literal : ∀ ext ∈ knownExtensions, ∀ c ∈ ("." ++ ext).toList, Glob.isLiteral c = true := by
  have all : (knownExtensions.all fun ext => ("." ++ ext).toList.all Glob.isLiteral) = true := by
    decide +kernel
  intro ext known c member
  exact List.all_eq_true.mp (List.all_eq_true.mp all ext known) c member

theorem known_single : ∀ ext ∈ knownExtensions, '.' ∉ ext.toList ∧ '/' ∉ ("." ++ ext).toList := by
  decide +kernel

theorem lower_known : ∀ ext ∈ knownExtensions, Text.lower ext = ext := by
  decide +kernel

theorem forPath?_isSome (path : String) :
    (forPath? path).isSome = true ↔
      ∃ ext, FilePath.extension? path = some ext ∧ Text.lower ext ∈ knownExtensions := by
  cases found : FilePath.extension? path with
  | none => simp [forPath?, found]
  | some ext => simp [forPath?, found, knownExtensions]

theorem builtin_queries : ∀ language ∈ builtin, language.definitions.isEmpty = false := by
  decide

theorem mem_builtin {path : String} {language : Language} (found : forPath? path = some language) :
    language ∈ builtin := by
  obtain ⟨_, _, listed⟩ := Option.bind_eq_some_iff.mp found
  exact List.mem_of_find?_eq_some listed

/-- There is no capital in the extension. -/
def LowerCase (path : String) : Prop :=
  (FilePath.extension? path).map Text.lower = FilePath.extension? path

/-- A name that is an extension and its dot, with nothing before them. -/
def Bare (name : String) : Prop := ∃ ext ∈ knownExtensions, name = "." ++ ext

instance (path : String) : Decidable (LowerCase path) := inferInstanceAs (Decidable (_ = _))

instance (name : String) : Decidable (Bare name) := inferInstanceAs (Decidable (∃ ext ∈ _, _))

theorem exists_known_iff (path : String) :
    (∃ ext ∈ knownExtensions, FilePath.extension? path = some ext) ↔
      (forPath? path).isSome = true ∧ LowerCase path := by
  rw [forPath?_isSome, LowerCase]
  constructor
  · rintro ⟨ext, known, found⟩
    have lower := lower_known ext known
    exact ⟨⟨ext, found, lower.symm ▸ known⟩, by rw [found, Option.map_some, lower]⟩
  · rintro ⟨⟨ext, found, known⟩, lower⟩
    rw [found, Option.map_some, Option.some.injEq] at lower
    exact ⟨ext, lower ▸ known, found⟩

theorem forPath?_of_bare {path last : String} (named : FilePath.fileName? path = some last)
    (bare : Bare last) : forPath? path = none := by
  -- A dot in front starts no extension, so no language has files with a bare name.
  obtain ⟨known, member, rfl⟩ := bare
  have none_ : FilePath.extension? path = none := by
    by_contra some_
    obtain ⟨ext, found⟩ := Option.ne_none_iff_exists'.mp some_
    obtain ⟨_, stem, filled, whole⟩ := (FilePath.extension?_eq_some_iff named).mp found
    cases stem with
    | nil => contradiction
    | cons c stem =>
      have inside : known.toList = stem ++ '.' :: ext.toList := by
        rw [String.toList_append] at whole
        exact (List.cons.inj whole).2
      exact (known_single known member).1 (by simp [inside])
  simp [forPath?, none_]

end Language

namespace Selection

theorem included_default_iff {path last : String} {names : List String}
    (named : FilePath.fileName? path = some last) (isLast : names.getLast? = some last) :
    Included Language.defaultPatterns (FilePath.joined names) last ↔
      ((Language.forPath? path).isSome = true ∧ Language.LowerCase path) ∨ Language.Bare last := by
  have some_ : Language.defaultPatterns ≠ [] := by decide
  have each (ext : String) (known : ext ∈ Language.knownExtensions) :
      (Glob.Matches ("*" ++ ("." ++ ext)) (FilePath.joined names) ∨
        Glob.Matches ("*" ++ ("." ++ ext)) last) ↔
      FilePath.extension? path = some ext ∨ last = "." ++ ext := by
    obtain ⟨dotless, single⟩ := Language.known_single ext known
    have literal := Language.known_literal ext known
    rw [Glob.matches_star literal, Glob.matches_star literal, FilePath.suffix_joined isLast single,
      or_self, ← FilePath.suffix_iff named dotless]
    simp
  rw [Included, or_iff_right some_, Language.defaultPatterns_eq, ← Language.exists_known_iff]
  constructor
  · rintro ⟨p, member, taken⟩
    obtain ⟨ext, known, rfl⟩ := List.mem_map.mp member
    rcases (each ext known).mp taken with found | bare
    · exact .inl ⟨ext, known, found⟩
    · exact .inr ⟨ext, known, bare⟩
  · rintro (⟨ext, known, found⟩ | ⟨ext, known, bare⟩)
    · exact ⟨_, List.mem_map_of_mem known, (each ext known).mpr (.inl found)⟩
    · exact ⟨_, List.mem_map_of_mem known, (each ext known).mpr (.inr bare)⟩

theorem clear_singleton {excludes : List String} {name : String}
    (free : ¬ Excluded excludes name name) : Clear excludes [name] := by
  intro above last start
  obtain ⟨rfl, rfl⟩ : above = [] ∧ last = name := by
    cases above with
    | nil => simpa using start
    | cons first above => simp at start
  simpa [FilePath.joined] using free

end Selection

def Definition.Unsupported (d : Definition) : Prop :=
  d.kind = .error ∧ ∃ type, d.name = (ScanError.unsupportedFileType type).message

theorem Text.head?_append {s : String} {c : Char} (first : s.toList.head? = some c) (t : String) :
    (s ++ t).toList.head? = some c := by
  rw [String.toList_append, List.head?_append, first, Option.some_or]

/-- A complaint that starts with another letter is not about the file type. -/
theorem not_unsupported {id : Nat} {message : String} {c : Char} (first : message.toList.head? = some c)
    (other : c ≠ 'U') : ¬ (Definition.error id message).Unsupported := by
  rintro ⟨_, type, same⟩
  have unsupported : (ScanError.unsupportedFileType type).message.toList.head? = some 'U' :=
    Text.head?_append (by decide) type
  rw [← same] at unsupported
  exact other (Option.some.inj (first.symm.trans unsupported))

theorem readFailure_head (path reason : String) :
    (ScanError.readFailure path reason).message.toList.head? = some 'F' :=
  Text.head?_append (Text.head?_append (Text.head?_append (by decide) path) _) reason

theorem parseFailure_head (path reason : String) :
    (ScanError.parseFailure path reason).message.toList.head? = some 'F' :=
  Text.head?_append (Text.head?_append (Text.head?_append (by decide) path) _) reason

namespace Index

theorem kind_ne_error {language : Language} (known : language ∈ Language.builtin) {path : String}
    {src : Source} {root : Node} {d : Definition} (member : d ∈ ofTree language path src root) :
    d.kind ≠ .error := by
  obtain ⟨notes, eq, reports⟩ := ofTree_eq_append language path src root
  rw [eq, List.mem_append] at member
  rcases member with linked | note
  · obtain ⟨x, entry, rfl⟩ := Hierarchy.mem_build.mp linked
    obtain ⟨e, found, same⟩ := List.mem_map.mp (List.fst_mem_of_mem_zipIdx entry)
    rw [Hierarchy.applyLinks_kind, ← same, Extracted.complete_kind]
    have extractable := Language.builtin_extractable language known _ (Extracted.mem_definitions found).1
    rintro error
    rw [error] at extractable
    exact absurd extractable (by decide)
  · rw [(reports d note).1]
    decide

theorem not_unsupported_of_known {language : Language} (known : language ∈ Language.builtin)
    {path text : String} {tree : Option Node} {d : Definition}
    (member : d ∈ ofSource (some language) path text tree) : ¬ d.Unsupported := by
  have queries : ¬ language.definitions.isEmpty = true := by
    simp [Language.builtin_queries language known]
  cases tree with
  | none =>
    simp only [ofSource, tryIndex, if_neg queries, List.mem_singleton] at member
    rw [member]
    exact not_unsupported (parseFailure_head path _) (by decide)
  | some root =>
    rw [ofSource_eq_ofTree path text root queries] at member
    exact fun unsupported => kind_ne_error known member unsupported.1

end Index

namespace Scan

open FilePath (joined)

/-- A file type is complained about if the file can be read and no language is known for its path. -/
theorem exists_unsupported_iff (path : String) (content : Content) :
    (∃ d ∈ definitions path content, d.Unsupported) ↔
      Language.forPath? path = none ∧ content.isOk = true := by
  cases content with
  | error obstacle =>
    simp only [definitions, List.mem_singleton, exists_eq_left]
    simp [not_unsupported (readFailure_head path _), Except.isOk, Except.toBool]
  | ok read =>
    cases found : Language.forPath? path with
    | none =>
      simp only [definitions, found, Except.isOk, Except.toBool, and_self, iff_true]
      exact ⟨_, List.mem_singleton_self _, rfl, _, rfl⟩
    | some language =>
      simp only [reduceCtorEq, false_and, iff_false, not_exists, not_and, definitions, found]
      intro d member
      exact Index.not_unsupported_of_known (Language.mem_builtin found) member

theorem exists_unsupported_apply (filter : Filter) (defs : List Definition) :
    (∃ d ∈ filter.apply defs, d.Unsupported) ↔ ∃ d ∈ defs, d.Unsupported := by
  have reports {d : Definition} (unsupported : d.Unsupported) : d.kind.passthrough = true := by
    rw [unsupported.1]
    rfl
  rw [Filter.apply_eq_keep]
  constructor
  · rintro ⟨d, member, unsupported⟩
    rcases Filter.mem_keep.mp member with ⟨e, candidate, _, rfl⟩ | ⟨listed, _⟩
    · have plain := (Filter.mem_candidates.mp candidate).2
      rw [← Filter.prune_kind, reports unsupported] at plain
      contradiction
    · exact ⟨d, listed, unsupported⟩
  · rintro ⟨d, listed, unsupported⟩
    exact ⟨d, Filter.mem_keep.mpr (.inr ⟨listed, reports unsupported⟩), unsupported⟩

theorem exists_collect {files : Files} {directory : String} {access : Access}
    {entries : List (String × Entry)} (there : files.directory? directory = some (access, entries))
    (lists : access.list = true) {o : ScanOptions} (threads : o.threads ≠ 0)
    (bounds : o.filter.validate = .ok ())
    (globs : ∀ p ∈ o.includes ++ o.exclude, ∃ g, Glob.ofText p = .ok g) :
    ∃ found, Discover.paths files directory o.includes o.exclude = .ok found ∧
      collect files directory o = .ok (filtered o (found.map (indexed files directory))) := by
  obtain ⟨s, read, _⟩ := Selection.ofPatterns_of_valid globs
  have paths := Discover.paths_listed there lists o.includes o.exclude
  have validated : o.validate = .ok () := by
    rw [ScanOptions.validate, if_neg threads, bounds]
  rcases collect_cases files directory o with ⟨e, _, fails⟩ | ⟨_, found, pathsToo, all⟩
  · rw [collect, validated, paths, read] at fails
    cases fails
  · exact ⟨found, pathsToo, all⟩

theorem includes_of_unset {o : ScanOptions} (unset : o.patterns = []) :
    o.includes = Language.defaultPatterns := by simp [ScanOptions.includes, unset]

theorem default_globs {o : ScanOptions} (unset : o.patterns = [])
    (globs : ∀ p ∈ o.exclude, ∃ g, Glob.ofText p = .ok g) :
    ∀ p ∈ o.includes ++ o.exclude, ∃ g, Glob.ofText p = .ok g := by
  rw [includes_of_unset unset, Language.defaultPatterns_eq, List.forall_mem_append]
  refine ⟨?_, globs⟩
  rw [List.forall_mem_map]
  exact fun ext known => ⟨_, Glob.ofText_star (Language.known_literal ext known)⟩

theorem defaultExcludes_globs : ∀ p ∈ defaultExcludes, ∃ g, Glob.ofText p = .ok g := by
  intro p member
  obtain rfl | rfl | rfl : p = "node_modules" ∨ p = ".git" ∨ p = "target" := by
    simpa [defaultExcludes] using member
  all_goals exact ⟨_, rfl⟩

/-- Without patterns a scan takes, of the files that are not left out, those of a known language with no
capital in the extension, and those with a bare name, and nothing else; it complains about the file type
of the latter, if they can be read, and of no other. -/
theorem collect_default_selects (files : Files) (valid : files.top.Valid) (directory : String)
    (access : Access) (entries : List (String × Entry))
    (there : files.directory? directory = some (access, entries)) (lists : access.list = true)
    (o : ScanOptions) (unset : o.patterns = []) (threads : o.threads ≠ 0)
    (bounds : o.filter.validate = .ok ()) (globs : ∀ p ∈ o.exclude, ∃ g, Glob.ofText p = .ok g) :
    ∃ catalog, collect files directory o = .ok catalog ∧
      (∀ path ∈ catalog.map (·.1), ∃ names last content, path = joined names ∧
        names.getLast? = some last ∧ files.fileBelow? directory names = some content ∧
        Selection.Clear o.exclude names) ∧
      ∀ names last content, names.getLast? = some last →
        files.fileBelow? directory names = some content → Selection.Clear o.exclude names →
        ((∃ defs, (joined names, defs) ∈ catalog) ↔
          ((Language.forPath? (FilePath.join directory (joined names))).isSome = true ∧
            Language.LowerCase (FilePath.join directory (joined names))) ∨ Language.Bare last) ∧
        ((∃ defs, (joined names, defs) ∈ catalog ∧ ∃ d ∈ defs, d.Unsupported) ↔
          Language.Bare last ∧ content.isOk = true) := by
  obtain ⟨found, paths, collected⟩ :=
    exists_collect there lists threads bounds (default_globs unset globs)
  refine ⟨_, collected, ?_, ?_⟩
  · rw [filtered_paths]
    intro path listed
    obtain ⟨names, last, content, path, isLast, below, clear, _⟩ := (mem_found valid paths).mp listed
    exact ⟨names, last, content, path, isLast, below, clear⟩
  intro names last content isLast below clear
  have proper := names_proper valid below
  have named := FilePath.fileName?_join (Files.directory?_eq_some there).1 proper isLast
  have taken := Selection.included_default_iff named isLast
  have entry (defs : List Definition) :
      (joined names, defs) ∈ filtered o (found.map (indexed files directory)) ↔
        Selection.Included Language.defaultPatterns (joined names) last ∧
        defs = (Filter.ofOptions o.filter).apply
          (definitions (FilePath.join directory (joined names)) content) := by
    rw [mem_filtered valid paths proper, includes_of_unset unset]
    simp [below, isLast, clear]
  constructor
  · simp only [entry, exists_and_left, exists_eq, and_true, taken]
  · simp only [entry, and_assoc, exists_and_left, exists_eq_left, exists_unsupported_apply,
      exists_unsupported_iff, taken]
    constructor
    -- A file that is taken for its extension has a language; only a bare name is taken without one.
    · rintro ⟨⟨known, _⟩ | bare, unknown, read⟩
      · simp [unknown] at known
      · exact ⟨bare, read⟩
    · rintro ⟨bare, read⟩
      exact ⟨.inr bare, Language.forPath?_of_bare named bare, read⟩

/-- Of three files with a function in them, the one with capitals is passed over and the one that is only
an extension taken, without its function. -/
theorem collect_default_selects_dotfile :
    let file := Entry.file functionFile
    let entries := [(".js", file), ("App.JSX", file), ("a.jsx", file)]
    let files := Files.project entries
    files.top.Valid ∧ files.directory? "/proj" = some ({}, entries) ∧
    (∀ p ∈ defaultExcludes, ∃ g, Glob.ofText p = .ok g) ∧
    ∃ catalog, collect files "/proj" {} = .ok catalog ∧
      (∃ defs, (".js", defs) ∈ catalog ∧ ∃ d ∈ defs, d.Unsupported) ∧
      (¬ ∃ defs, ("App.JSX", defs) ∈ catalog) ∧
      ∃ defs, ("a.jsx", defs) ∈ catalog ∧ defs.map (·.name) = ["f"] := by
  intro file entries files
  have valid : files.top.Valid := by
    refine Files.project_valid (.directory (by decide) (by decide +kernel) ?_)
    simpa [entries] using Entry.Valid.file functionFile
  have there : files.directory? "/proj" = some ({}, entries) := Files.directory?_project entries
  obtain ⟨catalog, collected, -, each⟩ :=
    collect_default_selects files valid "/proj" {} entries there rfl {} rfl (by decide) rfl
      defaultExcludes_globs
  have none_excluded : ∀ name ∈ [".js", "App.JSX", "a.jsx"],
      ¬ Selection.Excluded defaultExcludes name name := by decide +kernel
  have below (name : String) (listed : name ∈ [".js", "App.JSX", "a.jsx"]) :
      files.fileBelow? "/proj" [name] = some functionFile.read := by
    simp only [Files.fileBelow?, there]
    obtain rfl | rfl | rfl : name = ".js" ∨ name = "App.JSX" ∨ name = "a.jsx" := by simpa using listed
    all_goals rfl
  have dotfile := each [".js"] ".js" _ rfl (below ".js" (by simp))
    (Selection.clear_singleton (none_excluded ".js" (by simp)))
  have capitals := each ["App.JSX"] "App.JSX" _ rfl (below "App.JSX" (by simp))
    (Selection.clear_singleton (none_excluded "App.JSX" (by simp)))
  have plain := each ["a.jsx"] "a.jsx" _ rfl (below "a.jsx" (by simp))
    (Selection.clear_singleton (none_excluded "a.jsx" (by simp)))
  refine ⟨valid, there, defaultExcludes_globs, catalog, collected, ?_, ?_, ?_⟩
  · exact dotfile.2.mpr ⟨by decide +kernel, by decide +kernel⟩
  · exact capitals.1.not.mpr (by decide +kernel)
  · obtain ⟨defs, member⟩ := plain.1.mpr (by decide +kernel)
    refine ⟨defs, member, ?_⟩
    obtain ⟨found, paths, rfl⟩ := collect_ok files "/proj" {} collected
    obtain ⟨content, _, here, _, _, _, rfl⟩ :=
      (@mem_filtered _ _ _ _ valid paths ["a.jsx"] (by decide +kernel) _).mp member
    obtain rfl := Option.some.inj ((below "a.jsx" (by simp)).symm.trans here)
    decide +kernel

/-- Known files are passed over, and others are taken and complained about. -/
theorem collect_default_passes_over :
    let file := Entry.file functionFile
    let files := Files.project [(".js", file), ("App.JSX", file)]
    files.top.Valid ∧ files.fileBelow? "/proj" ["App.JSX"] = some functionFile.read ∧
    Selection.Clear defaultExcludes ["App.JSX"] ∧
    (Language.forPath? "/proj/App.JSX").isSome = true ∧ Language.forPath? "/proj/.js" = none ∧
    ∃ catalog, collect files "/proj" {} = .ok catalog ∧ (¬ ∃ defs, ("App.JSX", defs) ∈ catalog) ∧
      ∃ defs, (".js", defs) ∈ catalog ∧ ∃ d ∈ defs, d.Unsupported := by
  intro file files
  have valid : files.top.Valid := by
    refine Files.project_valid (.directory (by decide) (by decide +kernel) ?_)
    simpa using Entry.Valid.file functionFile
  have there : files.directory? "/proj" = some ({}, [(".js", file), ("App.JSX", file)]) :=
    Files.directory?_project _
  have missed : files.fileBelow? "/proj" ["App.JSX"] = some functionFile.read := by
    simp only [Files.fileBelow?, there]
    rfl
  have seen : files.fileBelow? "/proj" [".js"] = some functionFile.read := by
    simp only [Files.fileBelow?, there]
    rfl
  obtain ⟨found, paths, collected⟩ :=
    exists_collect there rfl (o := {}) (by decide) rfl (default_globs rfl defaultExcludes_globs)
  have passed : ¬ Selection.Included Language.defaultPatterns "App.JSX" "App.JSX" := by decide +kernel
  have taken : Selection.Included Language.defaultPatterns ".js" ".js" := by decide +kernel
  have dotfile := (@mem_filtered _ _ _ _ valid paths [".js"] (by decide +kernel) _).mpr
    ⟨_, ".js", seen, rfl, Selection.clear_singleton (by decide +kernel), taken, rfl⟩
  refine ⟨valid, missed, Selection.clear_singleton (by decide +kernel), by decide +kernel,
    by decide +kernel, _, collected, ?_, _, dotfile, ?_⟩
  · rintro ⟨defs, member⟩
    obtain ⟨_, last, _, isLast, _, included, _⟩ :=
      (@mem_filtered _ _ _ _ valid paths ["App.JSX"] (by decide +kernel) _).mp member
    obtain rfl : "App.JSX" = last := by simpa using isLast
    exact passed included
  · rw [exists_unsupported_apply, exists_unsupported_iff]
    exact ⟨by decide +kernel, by decide +kernel⟩

end Scan

end SourceOutline

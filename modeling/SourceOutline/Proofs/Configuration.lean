import SourceOutline.Config
import SourceOutline.Proofs.Scan

/-! What makes a scan refuse its options also makes a configuration invalid, and beyond that a
configuration can only be wrong about logging. The two look for the same faults in different orders. -/
namespace SourceOutline

/-- The options are not fit for a scan, whatever the directory. -/
@[mk_iff]
inductive ScanOptions.Faulty (o : ScanOptions) : Prop
  | glob (pattern : String) (listed : pattern ∈ o.patterns ++ o.exclude)
      (invalid : ∀ g, Glob.ofText pattern ≠ .ok g)
  | threads (none : o.threads = 0)
  | complexity (least most : Nat) (lower : o.filter.minComplexity = some least)
      (upper : o.filter.maxComplexity = some most) (crossed : most < least)
  | parameters (least most : Nat) (lower : o.filter.minParameters = some least)
      (upper : o.filter.maxParameters = some most) (crossed : most < least)

namespace Scan

/-- The causes that lie in the options and not in the files. -/
def Cause.ofOptions : List Cause := [.threads, .complexity, .parameters, .includes, .excludes]

theorem Cause.crossed?_isSome_iff {what : String} {least most : Option Nat} :
    (Cause.crossed? what least most).isSome ↔ ∃ a b, least = some a ∧ most = some b ∧ b < a := by
  cases least with
  | none => simp [Cause.crossed?]
  | some a =>
    cases most with
    | none => simp [Cause.crossed?]
    | some b =>
      simp only [Cause.crossed?, Option.bind_some, Option.some.injEq]
      split <;> simp_all

theorem Cause.crossed?_invalidArgument {what : String} {least most : Option Nat} {e : ScanError}
    (complaint : Cause.crossed? what least most = some e) : ∃ reason, e = .invalidArgument reason := by
  simp only [Cause.crossed?, Option.bind_eq_some_iff] at complaint
  obtain ⟨a, -, b, -, crossed⟩ := complaint
  split at crossed
  · exact ⟨_, (Option.some.inj crossed).symm⟩
  · cases crossed

theorem complaint?_isSome_iff {pattern : String} :
    (Selection.complaint? pattern).isSome ↔ ∀ g, Glob.ofText pattern ≠ .ok g := by
  cases read : Glob.ofText pattern <;> simp [Selection.complaint?, read]

theorem complaint?_invalidArgument {pattern : String} {e : ScanError}
    (complaint : Selection.complaint? pattern = some e) : ∃ reason, e = .invalidArgument reason := by
  unfold Selection.complaint? at complaint
  split at complaint
  · cases complaint
  · exact ⟨_, (Option.some.inj complaint).symm⟩

section

variable {files : Files} {directory : String} {o : ScanOptions}

theorem faulty_iff_cause :
    o.Faulty ↔ ∃ cause ∈ Cause.ofOptions, (cause.error? files directory o).isSome := by
  simp only [Cause.ofOptions, List.exists_mem_cons_iff, List.not_mem_nil, false_and, exists_false,
    or_false, Cause.error?, Option.isSome_ite, Cause.crossed?_isSome_iff, List.findSome?_isSome_iff,
    complaint?_isSome_iff]
  -- The globs come first among the faults, and last among the causes.
  rw [ScanOptions.faulty_iff, or_comm]
  simp only [List.mem_append, or_and_right, exists_or, or_assoc]

theorem error?_invalidArgument {cause : Cause} (member : cause ∈ Cause.ofOptions) {e : ScanError}
    (there : cause.error? files directory o = some e) : ∃ reason, e = .invalidArgument reason := by
  cases cause with
  | threads =>
    simp only [Cause.error?] at there
    split at there
    · exact ⟨_, (Option.some.inj there).symm⟩
    · cases there
  | complexity => exact Cause.crossed?_invalidArgument there
  | parameters => exact Cause.crossed?_invalidArgument there
  | directory => simp [Cause.ofOptions] at member
  | listing => simp [Cause.ofOptions] at member
  | includes =>
    obtain ⟨p, -, complaint⟩ := List.exists_of_findSome?_eq_some there
    exact complaint?_invalidArgument complaint
  | excludes =>
    obtain ⟨p, -, complaint⟩ := List.exists_of_findSome?_eq_some there
    exact complaint?_invalidArgument complaint

theorem refusal?_ofOptions (readable : (files.directory? directory).any (·.1.list) = true) :
    refusal? files directory o = Cause.ofOptions.findSome? (Cause.error? files directory o) := by
  obtain ⟨d, there, lists⟩ := (Option.any_eq_true ..).mp readable
  simp [refusal?, Cause.inOrder, Cause.ofOptions, List.findSome?_cons, Cause.error?, there, lists]

/-- In a directory that may be listed, faulty options are refused as such, and all others give a catalogue. -/
theorem collect_of_faults (readable : (files.directory? directory).any (·.1.list) = true) :
    (o.Faulty ∧ ∃ reason, collect files directory o = .error (.invalidArgument reason)) ∨
    (¬ o.Faulty ∧ ∃ catalog, collect files directory o = .ok catalog) := by
  rcases collect_cases files directory o with ⟨e, first, fails⟩ | ⟨clean, found, -, all⟩
  · left
    rw [refusal?_ofOptions readable] at first
    obtain ⟨cause, member, complaint⟩ := List.exists_of_findSome?_eq_some first
    obtain ⟨reason, rfl⟩ := error?_invalidArgument member complaint
    exact ⟨faulty_iff_cause.mpr ⟨cause, member, by rw [complaint]; rfl⟩, reason, fails⟩
  · right
    rw [refusal?_ofOptions readable, List.findSome?_eq_none_iff] at clean
    refine ⟨?_, _, all⟩
    rw [@faulty_iff_cause files directory]
    rintro ⟨cause, member, complaint⟩
    rw [clean cause member] at complaint
    cases complaint

end

end Scan

/-- The configuration would not scan; the other errors are about its file and about logging. -/
def ConfigError.ofScan : ConfigError → Bool
  | glob _ _ | threads | filter _ => true
  | _ => false

namespace Config

def globComplaint? (pattern : String) : Option ConfigError :=
  match Glob.ofText pattern with
  | .ok _ => none
  | .error fault => some (.glob pattern fault)

theorem globComplaint?_isSome_iff {pattern : String} :
    (globComplaint? pattern).isSome ↔ ∀ g, Glob.ofText pattern ≠ .ok g := by
  cases read : Glob.ofText pattern <;> simp [globComplaint?, read]

theorem validateGlobs_eq (patterns : List String) :
    validateGlobs patterns =
      match patterns.findSome? globComplaint? with
      | some e => .error e
      | none => .ok () := by
  induction patterns with
  | nil => rfl
  | cons p ps ih =>
    change (((Glob.ofText p).mapError (.glob p) *> pure ()) >>= fun _ => validateGlobs ps) = _
    rw [List.findSome?_cons, ih]
    cases read : Glob.ofText p with
    | error fault =>
      simp only [globComplaint?, read]
      rfl
    | ok g =>
      simp only [globComplaint?, read]
      rfl

def scanComplaint? (c : Config) : Option ConfigError :=
  ((c.scan.patterns ++ c.scan.exclude).findSome? globComplaint?).or <|
  (if c.performance.threads = 0 then some .threads else none).or <|
  ((Scan.Cause.crossed? "Complexity" c.filter.minComplexity c.filter.maxComplexity).map .filter).or
  ((Scan.Cause.crossed? "Parameters" c.filter.minParameters c.filter.maxParameters).map .filter)

def loggingComplaint? (c : Config) : Option ConfigError :=
  (if c.logging.level ∈ logLevels then none else some (.logLevel c.logging.level)).or
  (if c.logging.format ∈ logFormats then none else some (.logFormat c.logging.format))

variable {c : Config}

theorem validate_eq (c : Config) :
    c.validate =
      match c.scanComplaint?.or c.loggingComplaint? with
      | some e => .error e
      | none => .ok () := by
  simp only [validate, validateGlobs_eq, FilterOptions.validate, Scan.Cause.checkBounds_eq,
    scanComplaint?, loggingComplaint?]
  cases (c.scan.patterns ++ c.scan.exclude).findSome? globComplaint? with
  | some e => rfl
  | none =>
    by_cases none : c.performance.threads = 0
    · simp only [if_pos none]
      rfl
    simp only [if_neg none]
    cases Scan.Cause.crossed? "Complexity" c.filter.minComplexity c.filter.maxComplexity with
    | some e => rfl
    | none =>
      cases Scan.Cause.crossed? "Parameters" c.filter.minParameters c.filter.maxParameters with
      | some e => rfl
      | none =>
        by_cases level : c.logging.level ∈ logLevels <;> by_cases format : c.logging.format ∈ logFormats <;>
          simp [level, format, Except.mapError] <;> rfl

theorem scanComplaint?_isSome_iff : c.scanComplaint?.isSome ↔ c.scanOptions.Faulty := by
  simp only [scanComplaint?, Option.isSome_or, Bool.or_eq_true, Option.isSome_map, Option.isSome_ite,
    List.findSome?_isSome_iff, globComplaint?_isSome_iff, Scan.Cause.crossed?_isSome_iff,
    ScanOptions.faulty_iff, scanOptions]

theorem scanComplaint?_ofScan {e : ConfigError} (complaint : c.scanComplaint? = some e) :
    e.ofScan = true := by
  simp only [scanComplaint?, Option.or_eq_some_iff] at complaint
  rcases complaint with glob | ⟨-, threads | ⟨-, complexity | ⟨-, parameters⟩⟩⟩
  · obtain ⟨p, -, fails⟩ := List.exists_of_findSome?_eq_some glob
    unfold globComplaint? at fails
    split at fails
    · cases fails
    · rw [← Option.some.inj fails]
      rfl
  · split at threads
    · rw [← Option.some.inj threads]
      rfl
    · cases threads
  · obtain ⟨cause, -, rfl⟩ := Option.map_eq_some_iff.mp complexity
    rfl
  · obtain ⟨cause, -, rfl⟩ := Option.map_eq_some_iff.mp parameters
    rfl

theorem loggingComplaint?_isSome_iff :
    c.loggingComplaint?.isSome ↔ c.logging.level ∉ logLevels ∨ c.logging.format ∉ logFormats := by
  by_cases level : c.logging.level ∈ logLevels <;> by_cases format : c.logging.format ∈ logFormats <;>
    simp [loggingComplaint?, level, format]

theorem loggingComplaint?_ofScan {e : ConfigError} (complaint : c.loggingComplaint? = some e) :
    e.ofScan = false := by
  simp only [loggingComplaint?, Option.or_eq_some_iff] at complaint
  rcases complaint with level | ⟨-, format⟩
  · split at level
    · cases level
    · rw [← Option.some.inj level]
      rfl
  · split at format
    · cases format
    · rw [← Option.some.inj format]
      rfl

/-- Validation complains about what a scan would refuse, then about logging, or not at all. -/
theorem validate_cases (c : Config) :
    (c.scanOptions.Faulty ∧ ∃ e, c.validate = .error e ∧ e.ofScan = true) ∨
    (¬ c.scanOptions.Faulty ∧ (c.logging.level ∉ logLevels ∨ c.logging.format ∉ logFormats) ∧
      ∃ e, c.validate = .error e ∧ e.ofScan = false) ∨
    (¬ c.scanOptions.Faulty ∧ c.logging.level ∈ logLevels ∧ c.logging.format ∈ logFormats ∧
      c.validate = .ok ()) := by
  rw [validate_eq, ← scanComplaint?_isSome_iff]
  cases scan : c.scanComplaint? with
  | some e => exact .inl ⟨rfl, e, rfl, scanComplaint?_ofScan scan⟩
  | none =>
    have logs := @loggingComplaint?_isSome_iff c
    cases logging : c.loggingComplaint? with
    | some e =>
      rw [logging] at logs
      exact .inr (.inl ⟨nofun, logs.mp rfl, e, rfl, loggingComplaint?_ofScan logging⟩)
    | none =>
      have known : c.logging.level ∈ logLevels ∧ c.logging.format ∈ logFormats := by
        simpa [logging, not_or] using logs
      exact .inr (.inr ⟨nofun, known.1, known.2, rfl⟩)

theorem validate_ok_iff :
    c.validate = .ok () ↔ ¬ c.scanOptions.Faulty ∧ c.logging.level ∈ logLevels ∧ c.logging.format ∈ logFormats := by
  rcases validate_cases c with ⟨faulty, e, fails, -⟩ | ⟨-, unknown, e, fails, -⟩ |
    ⟨sound, level, format, passes⟩
  · simp [fails, faulty]
  · rw [← not_and_or] at unknown
    simp [fails, unknown]
  · simp [passes, sound, level, format]

theorem validate_ofScan_iff :
    (∃ e, c.validate = .error e ∧ e.ofScan = true) ↔ c.scanOptions.Faulty := by
  rcases validate_cases c with ⟨faulty, found⟩ | ⟨sound, -, e, fails, other⟩ | ⟨sound, -, -, passes⟩
  · exact ⟨fun _ => faulty, fun _ => found⟩
  · simp [fails, other, sound]
  · simp [passes, sound]

/-- Validation and scans agree in a directory that may be listed. A configuration is valid if it scans and its
logging is known, and a scan refuses it as an invalid argument if validation finds one of the faults. -/
theorem validate_agrees_with_collect (c : Config) (files : Files) (directory : String)
    (readable : (files.directory? directory).any (·.1.list) = true) :
    (c.validate = .ok () ↔ (∃ catalog, Scan.collect files directory c.scanOptions = .ok catalog) ∧
      c.logging.level ∈ logLevels ∧ c.logging.format ∈ logFormats) ∧
    (c.scanOptions.Faulty ↔ ∃ e, c.validate = .error e ∧ e.ofScan = true) ∧
    (c.scanOptions.Faulty ↔
      ∃ reason, Scan.collect files directory c.scanOptions = .error (.invalidArgument reason)) := by
  rw [validate_ok_iff, validate_ofScan_iff]
  rcases @Scan.collect_of_faults files directory c.scanOptions readable with
    ⟨faulty, reason, refused⟩ | ⟨sound, catalog, collected⟩
  · simp [faulty, refused]
  · simp [sound, collected]

/-- A faulty configuration has a glob that is none behind one that is, which a scan refuses after it has
accepted the threads and bounds; a valid one has bounds that meet. -/
theorem validate_agrees_with_collect_bracket :
    let files := Files.project []
    let faulty : Config := { scan := { patterns := ["*.js"], exclude := ["[a"] } }
    let valid : Config := { filter := { minParameters := some 2, maxParameters := some 2 } }
    (files.directory? "/proj").any (·.1.list) = true ∧
    (∃ e, faulty.validate = .error e ∧ e.ofScan = true) ∧
    (∃ reason, Scan.collect files "/proj" faulty.scanOptions = .error (.invalidArgument reason)) ∧
    ∃ catalog, Scan.collect files "/proj" valid.scanOptions = .ok catalog := by
  intro files faulty valid
  have readable : (files.directory? "/proj").any (·.1.list) = true := by
    rw [Files.directory?_project]
    rfl
  have bracket : faulty.scanOptions.Faulty :=
    .glob "[a" (by decide) (Scan.complaint?_isSome_iff.mp (by decide +kernel))
  have agrees := validate_agrees_with_collect faulty files "/proj" readable
  refine ⟨readable, agrees.2.1.mp bracket, agrees.2.2.mp bracket, ?_⟩
  exact ((validate_agrees_with_collect valid files "/proj" readable).1.mp (by decide +kernel)).1

end Config

end SourceOutline

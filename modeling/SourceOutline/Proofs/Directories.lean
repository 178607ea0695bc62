import Mathlib.Data.List.Nodup
import SourceOutline.Proofs.Lookup
import SourceOutline.Proofs.Paths

/-! Directories whose names can be told apart: an entry is found by its name, and a path leads through a
directory to what the rest of its names lead to from there. What may be listed and what may be passed is
looked at on the way. -/
namespace SourceOutline

open FilePath (IsName joined)

namespace Entry

/-- Entries as a file system keeps them: in each directory the names are proper and distinct. -/
inductive Valid : Entry → Prop where
  | file (f : File) : Valid (.file f)
  | link (target : String) : Valid (.link target)
  | directory {access : Access} {entries : List (String × Entry)}
      (distinct : (entries.map (·.1)).Nodup) (named : ∀ p ∈ entries, IsName p.1)
      (inner : ∀ p ∈ entries, p.2.Valid) : Valid (.directory access entries)

/-- Nothing keeps a program from listing and passing the directories. -/
inductive Open : Entry → Prop where
  | file (f : File) : Open (.file f)
  | link (target : String) : Open (.link target)
  | directory {entries : List (String × Entry)} (inner : ∀ p ∈ entries, p.2.Open) :
      Open (.directory {} entries)

/-- What a program sees at the end of a chain of names when it lists one directory after the other. To list
a directory it has to pass the one above. -/
def listed? (e : Entry) : List String → Option Entry
  | [] => some e
  | name :: rest =>
    if e.access.list && (rest.isEmpty || e.access.pass) then (e.child? name).bind (·.listed? rest)
    else none

def passes (e : Entry) (names : List String) : Bool := (e.at? names).any (·.access.pass)

theorem child?_eq_some_iff {access : Access} {entries : List (String × Entry)}
    (distinct : (entries.map (·.1)).Nodup) {name : String} {e : Entry} :
    (directory access entries).child? name = some e ↔ (name, e) ∈ entries := by
  simp only [child?, Entry.entries, Option.map_eq_some_iff]
  constructor
  · rintro ⟨⟨n, e⟩, found, rfl⟩
    have same : n = name := by simpa using List.find?_some found
    exact same ▸ List.mem_of_find?_eq_some found
  · intro member
    refine ⟨(name, e), find?_eq_some_of_unique member (by simp) ?_, rfl⟩
    intro p other same
    exact List.inj_on_of_nodup_map distinct other member (by simpa using same)

theorem directory_of_child? {e inner : Entry} {name : String} (found : e.child? name = some inner) :
    ∃ access entries, e = directory access entries := by
  cases e with
  | file f => cases found
  | link target => cases found
  | directory access entries => exact ⟨access, entries, rfl⟩

theorem listed?_cons_eq_some_iff {e inner : Entry} {name : String} {rest : List String} :
    e.listed? (name :: rest) = some inner ↔ e.access.list = true ∧
      (rest ≠ [] → e.access.pass = true) ∧
      ∃ middle, e.child? name = some middle ∧ middle.listed? rest = some inner := by
  have through : rest = [] ∨ e.access.pass = true ↔ (rest ≠ [] → e.access.pass = true) := by
    by_cases last : rest = [] <;> simp [last]
  simp only [listed?, Option.ite_none_right_eq_some, Option.bind_eq_some_iff, Bool.and_eq_true,
    Bool.or_eq_true, List.isEmpty_iff, and_assoc, through]

theorem directory_of_listed? {e inner : Entry} {names : List String} (some_ : names ≠ [])
    (seen : e.listed? names = some inner) : ∃ access entries, e = directory access entries := by
  cases names with
  | nil => contradiction
  | cons name rest =>
    obtain ⟨_, _, middle, first, _⟩ := listed?_cons_eq_some_iff.mp seen
    exact directory_of_child? first

theorem at?_append (e : Entry) (names more : List String) :
    e.at? (names ++ more) = (e.at? names).bind (·.at? more) := by
  induction names generalizing e with
  | nil => rfl
  | cons name names ih =>
    simp only [List.cons_append, at?]
    cases e.child? name with
    | none => rfl
    | some inner => exact ih inner

theorem at?_of_listed? {e inner : Entry} {names : List String} (seen : e.listed? names = some inner) :
    e.at? names = some inner := by
  induction names generalizing e with
  | nil => exact seen
  | cons name rest ih =>
    obtain ⟨_, _, middle, first, later⟩ := listed?_cons_eq_some_iff.mp seen
    rw [at?, first]
    exact ih later

theorem Open.listed?_eq {e : Entry} (free : e.Open) (names : List String) :
    e.listed? names = e.at? names := by
  induction names generalizing e with
  | nil => rfl
  | cons name rest ih =>
    have all : e.access = {} := by cases free <;> rfl
    rw [listed?, if_pos (by simp [all]), at?]
    cases found : e.child? name with
    | none => rfl
    | some middle =>
      obtain ⟨p, among, rfl⟩ := Option.map_eq_some_iff.mp found
      cases free with
      | file f => cases found
      | link target => cases found
      | directory inner => exact ih (inner p (List.mem_of_find?_eq_some among))

theorem Valid.at? {e : Entry} (valid : e.Valid) {names : List String} {inner : Entry}
    (found : e.at? names = some inner) : inner.Valid ∧ ∀ name ∈ names, IsName name := by
  induction names generalizing e with
  | nil =>
    cases found
    exact ⟨valid, by simp⟩
  | cons name names ih =>
    rw [Entry.at?, Option.bind_eq_some_iff] at found
    obtain ⟨middle, first, rest⟩ := found
    cases valid with
    | file f => cases first
    | link target => cases first
    | directory distinct named inside =>
      have member := (child?_eq_some_iff distinct).mp first
      obtain ⟨validInner, properRest⟩ := ih (inside _ member) rest
      refine ⟨validInner, ?_⟩
      intro n listed
      rcases List.mem_cons.mp listed with rfl | later
      · exact named _ member
      · exact properRest n later

theorem Valid.listed? {e : Entry} (valid : e.Valid) {names : List String} {inner : Entry}
    (seen : e.listed? names = some inner) : inner.Valid ∧ ∀ name ∈ names, IsName name :=
  valid.at? (at?_of_listed? seen)

end Entry

namespace Files

variable {top e : Entry} {links : Nat} {here path names : List String} {directory : String}
  {access : Access} {entries : List (String × Entry)} {f : File}

/-- What one piece of a path can do: stop the walk, name what is not there, or lead on. A link takes one
from the number of those that may follow. -/
theorem walk_cases (top : Entry) (links : Nat) (here : List String) (piece : String) :
    (∃ obstacle, ∀ rest, walk top links here (piece :: rest) = .error obstacle) ∨
    (∀ rest, walk top links here (piece :: rest) =
      if rest.all (· == "") then .ok (.vacant (here ++ [piece])) else .error .missing) ∨
    ∃ left next more, (left < links ∨ left = links ∧ more = []) ∧
      ∀ rest, walk top links here (piece :: rest) = walk top left next (more ++ rest) := by
  have leads (next : List String) (same : ∀ rest, walk top links here (piece :: rest) =
      walk top links next rest) : ∃ left next more, (left < links ∨ left = links ∧ more = []) ∧
      ∀ rest, walk top links here (piece :: rest) = walk top left next (more ++ rest) :=
    ⟨links, next, [], .inr ⟨rfl, rfl⟩, same⟩
  cases dir : top.at? here with
  | none => exact .inl ⟨.notDirectory, fun rest => by rw [walk, dir]⟩
  | some e =>
    cases e with
    | file f => exact .inl ⟨.notDirectory, fun rest => by rw [walk, dir]⟩
    | link target => exact .inl ⟨.notDirectory, fun rest => by rw [walk, dir]⟩
    | directory access entries =>
      by_cases separator : piece = ""
      · exact .inr (.inr (leads here fun rest => by rw [walk, dir]; simp [separator]))
      by_cases closed : access.pass = false
      · exact .inl ⟨.denied, fun rest => by rw [walk, dir]; simp [separator, closed]⟩
      rw [Bool.not_eq_false] at closed
      by_cases stays : piece = "."
      · exact .inr (.inr (leads here fun rest => by rw [walk, dir]; simp [stays, closed]))
      by_cases up : piece = ".."
      · exact .inr (.inr (leads here.dropLast fun rest => by rw [walk, dir]; simp [up, closed]))
      cases entry : top.at? (here ++ [piece]) with
      | none =>
        refine .inr (.inl fun rest => ?_)
        rw [walk, dir]
        simp [separator, closed, stays, up, entry]
      | some e =>
        cases e with
        | file f =>
          refine .inr (.inr (leads (here ++ [piece]) fun rest => ?_))
          rw [walk, dir]
          simp [separator, closed, stays, up, entry]
        | directory _ _ =>
          refine .inr (.inr (leads (here ++ [piece]) fun rest => ?_))
          rw [walk, dir]
          simp [separator, closed, stays, up, entry]
        | link target =>
          cases links with
          | zero =>
            refine .inl ⟨.tooManyLinks, fun rest => ?_⟩
            rw [walk, dir]
            simp [separator, closed, stays, up, entry]
          | succ links =>
            refine .inr (.inr ⟨links, start here target, FilePath.pieces target, .inl (by omega), ?_⟩)
            intro rest
            rw [walk, dir]
            simp [separator, closed, stays, up, entry]

theorem walk_separators {ends : List String} (empty : ∀ piece ∈ ends, piece = "")
    (found : walk top links here ends = .ok (.taken names)) : here = names := by
  induction ends with
  | nil => simpa [walk] using found
  | cons piece ends ih =>
    obtain rfl := empty piece List.mem_cons_self
    rw [walk] at found
    split at found
    · exact ih (fun p member => empty p (List.mem_cons_of_mem _ member)) found
    · cases found

/-- A path can be continued where it leads, with or without the separators at its end. -/
theorem walk_append (ends : List String) (empty : ∀ piece ∈ ends, piece = "")
    (found : walk top links here (path ++ ends) = .ok (.taken names)) :
    ∃ left, ∀ rest, walk top links here (path ++ rest) = walk top left names rest := by
  -- The walk shortens the path or has fewer links to follow.
  induction links using Nat.strongRecOn generalizing here path with
  | _ links fewer =>
    induction path generalizing here with
    | nil =>
      obtain rfl := walk_separators empty found
      exact ⟨links, fun rest => rfl⟩
    | cons piece tail shorter =>
      rcases walk_cases top links here piece with ⟨_, stops⟩ | free | ⟨left, next, more, less, leads⟩
      · rw [List.cons_append, stops] at found
        cases found
      · rw [List.cons_append, free] at found
        split at found <;> cases found
      · rw [List.cons_append, leads] at found
        obtain ⟨last, continues⟩ : ∃ last, ∀ rest,
            walk top left next (more ++ tail ++ rest) = walk top last names rest := by
          rcases less with less | ⟨rfl, rfl⟩
          · apply fewer left less
            rwa [List.append_assoc]
          · exact shorter found
        refine ⟨last, fun rest => ?_⟩
        rw [List.cons_append, leads, ← List.append_assoc, continues]

/-- Names lead from a directory to the file that is seen there, unless the last directory above it may not
be passed. -/
theorem walk_names {above : List String} {last : String} (there : top.at? here = some e)
    (proper : ∀ name ∈ above ++ [last], IsName name)
    (seen : e.listed? (above ++ [last]) = some (.file f)) :
    walk top links here (above ++ [last]) =
      if e.passes above then .ok (.taken (here ++ (above ++ [last]))) else .error .denied := by
  induction above generalizing here e with
  | nil =>
    obtain ⟨_, _, middle, child, end_⟩ := Entry.listed?_cons_eq_some_iff.mp seen
    obtain rfl : middle = .file f := Option.some.inj end_
    obtain ⟨access, entries, rfl⟩ := Entry.directory_of_child? child
    have entry : top.at? (here ++ [last]) = some (.file f) := by
      rw [Entry.at?_append, there]
      simp [Entry.at?, child]
    have name := proper last (by simp)
    rw [List.nil_append, walk, there]
    by_cases closed : access.pass = false
    · simp [name.1, closed, Entry.passes, Entry.at?, Entry.access]
    · rw [Bool.not_eq_false] at closed
      simp [name.1, name.2.1, name.2.2.1, closed, Entry.passes, Entry.at?, Entry.access, entry, walk]
  | cons first above ih =>
    obtain ⟨_, through, middle, child, later⟩ := Entry.listed?_cons_eq_some_iff.mp seen
    have pass := through (by simp)
    obtain ⟨access, entries, rfl⟩ := Entry.directory_of_child? child
    obtain ⟨inner, below, rfl⟩ := Entry.directory_of_listed? (by simp) later
    have entry : top.at? (here ++ [first]) = some (.directory inner below) := by
      rw [Entry.at?_append, there]
      simp [Entry.at?, child]
    have same : (Entry.directory access entries).passes (first :: above) =
        (Entry.directory inner below).passes above := by
      rw [Entry.passes, Entry.at?, child]
      rfl
    have name := proper first (by simp)
    have rest := ih entry (fun n member => proper n (List.mem_cons_of_mem _ member)) later
    rw [same, List.cons_append, walk, there]
    simp only [Entry.access] at pass
    simp only [beq_iff_eq, name.1, name.2.1, name.2.2.1, pass, Bool.not_true, Bool.false_eq_true,
      if_false, entry, rest, List.append_assoc, List.singleton_append]

theorem directory?_eq_some {files : Files} (found : files.directory? directory = some (access, entries)) :
    directory ≠ "" ∧ ∃ here,
      walk files.top linkLimit (start files.here directory) (FilePath.pieces directory) =
        .ok (.taken here) ∧ files.top.at? here = some (.directory access entries) := by
  unfold directory? at found
  split at found
  · rename_i there
    obtain ⟨rfl, rfl⟩ := Prod.mk.inj (Option.some.inj found)
    unfold get? at there
    split at there
    · rename_i names located
      unfold locate at located
      split at located
      · cases located
      · rename_i given
        exact ⟨by simpa using given, names, located, there⟩
    · cases there
  · cases found

/-- What comes of reading the file at the end of a chain of names below a directory, if it is seen there. -/
def fileBelow? (files : Files) (directory : String) (names : List String) : Option Content :=
  (files.directory? directory).bind fun (access, entries) =>
    match (Entry.directory access entries).listed? names with
    | some (.file f) =>
      some (if (Entry.directory access entries).passes names.dropLast then f.read
        else .error .denied)
    | _ => none

theorem fileBelow?_eq_some_iff {files : Files} {content : Content} :
    files.fileBelow? directory names = some content ↔ ∃ access entries f,
      files.directory? directory = some (access, entries) ∧
      (Entry.directory access entries).listed? names = some (.file f) ∧
      content = if (Entry.directory access entries).passes names.dropLast then f.read
        else .error .denied := by
  simp only [fileBelow?, Option.bind_eq_some_iff, Prod.exists]
  refine exists_congr fun access => exists_congr fun entries => ?_
  split
  · rename_i f seen
    constructor
    · rintro ⟨there, same⟩
      exact ⟨f, there, seen, (Option.some.inj same).symm⟩
    · rintro ⟨g, there, seenToo, rfl⟩
      obtain rfl : f = g := by simpa using seen.symm.trans seenToo
      exact ⟨there, rfl⟩
  · rename_i other
    constructor
    · rintro ⟨_, none⟩
      cases none
    · rintro ⟨f, _, seen, _⟩
      exact absurd seen (other f)

/-- A file that is seen below a directory is read at the directory's path and its own. -/
theorem read_join {files : Files} (proper : ∀ name ∈ names, IsName name) {content : Content}
    (found : files.fileBelow? directory names = some content) :
    files.read (FilePath.join directory (joined names)) = content := by
  obtain ⟨access, entries, f, there, seen, rfl⟩ := fileBelow?_eq_some_iff.mp found
  obtain ⟨given, here, walked, end_⟩ := directory?_eq_some there
  have some_ : names ≠ [] := by
    rintro rfl
    simp [Entry.listed?] at seen
  obtain ⟨above, last, rfl⟩ : ∃ above last, names = above ++ [last] :=
    ⟨_, _, (List.dropLast_append_getLast some_).symm⟩
  obtain ⟨left, continues⟩ : ∃ left,
      walk files.top linkLimit (start files.here directory)
        (FilePath.pieces (FilePath.join directory (joined (above ++ [last])))) =
      walk files.top left here (above ++ [last]) := by
    rcases FilePath.pieces_join given some_ proper with joins | ⟨front, ended, joins⟩
    · obtain ⟨left, continues⟩ := walk_append [] (by simp) (by rwa [List.append_nil])
      exact ⟨left, by rw [joins, continues]⟩
    · rw [ended] at walked
      obtain ⟨left, continues⟩ := walk_append [""] (by simp) walked
      exact ⟨left, by rw [joins, continues]⟩
  obtain ⟨more, starts⟩ := FilePath.join_starts given proper
  have located : files.locate (FilePath.join directory (joined (above ++ [last]))) =
      walk files.top left here (above ++ [last]) := by
    rw [locate, if_neg (by simpa using more), ← continues, start, starts, start]
  have file : files.top.at? (here ++ (above ++ [last])) = some (.file f) := by
    rw [Entry.at?_append, end_]
    exact Entry.at?_of_listed? seen
  rw [read, located, walk_names end_ proper seen, List.dropLast_concat]
  by_cases pass : (Entry.directory access entries).passes above
  · simp only [if_pos pass, file]
  · simp only [if_neg pass]

end Files

end SourceOutline

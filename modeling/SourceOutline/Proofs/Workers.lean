import Mathlib.Data.List.Sort
import Mathlib.Logic.Relation
import SourceOutline.Scan

/-! Files are indexed by several workers at once. Whatever worker takes which file, and in whatever order
they finish, all files are indexed, each is reported once, and the map of results comes out the same. -/
namespace SourceOutline.Scan

/-- The map with these definitions at the path; a map is a list in the order of its paths. -/
def insertByPath (path : String) (defs : List Definition) : Catalog → Catalog
  | [] => [(path, defs)]
  | (other, old) :: rest =>
    if path < other then (path, defs) :: (other, old) :: rest
    else if other < path then (other, old) :: insertByPath path defs rest
    else (path, defs) :: rest

theorem insertByPath_perm {path : String} {defs : List Definition} {entries : Catalog}
    (fresh : path ∉ entries.map (·.1)) :
    (insertByPath path defs entries).Perm ((path, defs) :: entries) := by
  induction entries with
  | nil => exact .refl _
  | cons e rest ih =>
    obtain ⟨other, old⟩ := e
    simp only [List.map_cons, List.mem_cons, not_or] at fresh
    rw [insertByPath]
    split_ifs with before after
    · exact .refl _
    · exact ((ih fresh.2).cons _).trans (.swap ..)
    · exact absurd (String.le_antisymm after before) fresh.1

theorem insertByPath_sorted {path : String} {defs : List Definition} {entries : Catalog}
    (fresh : path ∉ entries.map (·.1)) (sorted : entries.Pairwise fun a b => a.1 < b.1) :
    (insertByPath path defs entries).Pairwise fun a b => a.1 < b.1 := by
  induction entries with
  | nil => exact List.pairwise_singleton ..
  | cons e rest ih =>
    obtain ⟨other, old⟩ := e
    simp only [List.map_cons, List.mem_cons, not_or] at fresh
    obtain ⟨first, tail⟩ := List.pairwise_cons.mp sorted
    rw [insertByPath]
    split_ifs with before after
    · refine List.pairwise_cons.mpr ⟨?_, sorted⟩
      intro e member
      rcases List.mem_cons.mp member with rfl | later
      · exact before
      · exact String.lt_trans before (first e later)
    · refine List.pairwise_cons.mpr ⟨?_, ih fresh.2 tail⟩
      intro e member
      rcases List.mem_cons.mp ((insertByPath_perm fresh.2).subset member) with rfl | later
      · exact after
      · exact first e later
    · exact absurd (String.le_antisymm after before) fresh.1

/-- The files that no worker has taken yet, those that workers are busy with, the results that are
reported but not yet in the map, the map, and the paths reported so far. -/
structure Pool where
  waiting : List String
  working : List String
  ready : Catalog
  entries : Catalog
  reported : List String

namespace Pool

def start (jobs : List String) : Pool := ⟨jobs, [], [], [], []⟩

/-- A free worker takes some file, or a busy one has indexed its file and reports it, or a result goes
into the map. -/
inductive Step (threads : Nat) (files : Files) (directory : String) : Pool → Pool → Prop where
  | take {p : Pool} {job : String} {rest : List String}
      (next : p.waiting.Perm (job :: rest)) (free : p.working.length + p.ready.length < threads) :
      Step threads files directory p { p with waiting := rest, working := job :: p.working }
  | report {p : Pool} {job : String} {rest : List String}
      (busy : p.working.Perm (job :: rest)) :
      Step threads files directory p
        { p with working := rest, ready := indexed files directory job :: p.ready,
                 reported := job :: p.reported }
  | deliver {p : Pool} {result : String × List Definition} {rest : Catalog}
      (done : p.ready.Perm (result :: rest)) :
      Step threads files directory p
        { p with ready := rest, entries := insertByPath result.1 result.2 p.entries }

abbrev Run (threads : Nat) (files : Files) (directory : String) : Pool → Pool → Prop :=
  Relation.ReflTransGen (Step threads files directory)

def Finished (p : Pool) : Prop := p.waiting = [] ∧ p.working = [] ∧ p.ready = []

/-- No file is lost or indexed twice, the map is in order, and what has been indexed is reported. -/
structure Sound (threads : Nat) (files : Files) (directory : String) (jobs : List String) (p : Pool) :
    Prop where
  busy : p.working.length + p.ready.length ≤ threads
  all : ((p.waiting ++ p.working).map (indexed files directory) ++ (p.ready ++ p.entries)).Perm
    (jobs.map (indexed files directory))
  sorted : p.entries.Pairwise fun a b => a.1 < b.1
  told : p.reported.Perm ((p.ready ++ p.entries).map (·.1))

variable {threads : Nat} {files : Files} {directory : String} {jobs : List String} {p q : Pool}

theorem start_sound (threads : Nat) (files : Files) (directory : String) (jobs : List String) :
    Sound threads files directory jobs (start jobs) := by
  constructor <;> simp [start]

theorem indexed_paths (files : Files) (directory : String) (jobs : List String) :
    (jobs.map (indexed files directory)).map (·.1) = jobs := by
  rw [List.map_map]
  exact List.map_id jobs

theorem Sound.fresh (sound : Sound threads files directory jobs p) (distinct : jobs.Nodup)
    {result : String × List Definition} (done : result ∈ p.ready) :
    result.1 ∉ p.entries.map (·.1) := by
  -- A result on its way is not in the map already.
  have paths := distinct
  rw [← indexed_paths files directory jobs, ← (sound.all.map _).nodup_iff] at paths
  simp only [List.map_append] at paths
  have apart := (List.nodup_append.mp (List.nodup_append.mp paths).2.1).2.2
  exact fun member => apart _ (List.mem_map_of_mem done) _ member rfl

theorem step_sound (distinct : jobs.Nodup) (sound : Sound threads files directory jobs p)
    (step : Step threads files directory p q) : Sound threads files directory jobs q := by
  have busy := sound.busy
  cases step with
  | @take job rest next free =>
    have moved : (rest ++ job :: p.working).Perm (p.waiting ++ p.working) :=
      List.perm_middle.trans (next.symm.append_right _)
    refine ⟨?_, ((moved.map _).append_right _).trans sound.all, sound.sorted, sound.told⟩
    simp only [List.length_cons]
    omega
  | @report job rest worked =>
    have moved : (job :: (p.waiting ++ rest)).Perm (p.waiting ++ p.working) :=
      List.perm_middle.symm.trans (worked.symm.append_left _)
    refine ⟨?_, List.perm_middle.trans (((moved.map _).append_right _).trans sound.all),
      sound.sorted, sound.told.cons _⟩
    have length := worked.length_eq
    simp only [List.length_cons] at length ⊢
    omega
  | @deliver result rest done =>
    have fresh := sound.fresh distinct (done.symm.subset List.mem_cons_self)
    have moved : (rest ++ insertByPath result.1 result.2 p.entries).Perm (p.ready ++ p.entries) :=
      ((insertByPath_perm fresh).append_left _).trans
        (List.perm_middle.trans (done.symm.append_right _))
    refine ⟨?_, (moved.append_left _).trans sound.all, insertByPath_sorted fresh sound.sorted,
      sound.told.trans (moved.symm.map _)⟩
    have length := done.length_eq
    simp only [List.length_cons] at length ⊢
    omega

theorem run_sound (distinct : jobs.Nodup) (run : Run threads files directory (start jobs) p) :
    Sound threads files directory jobs p := by
  induction run with
  | refl => exact start_sound threads files directory jobs
  | tail _ step ih => exact step_sound distinct ih step

/-- The map and the reports do not tell in what order the workers have finished. -/
theorem finished_entries (increasing : jobs.Pairwise (· < ·))
    (run : Run threads files directory (start jobs) p) (finished : p.Finished) :
    p.entries = jobs.map (indexed files directory) ∧ p.reported.Perm jobs := by
  have distinct : jobs.Nodup := by
    refine increasing.imp ?_
    intro a b less same
    exact String.lt_irrefl _ (same ▸ less)
  have sound := run_sound distinct run
  obtain ⟨waiting, working, ready⟩ := finished
  have all := sound.all
  have told := sound.told
  rw [waiting, working, ready, List.append_nil, List.map_nil, List.nil_append, List.nil_append] at all
  rw [ready, List.nil_append] at told
  refine ⟨all.eq_of_pairwise ?_ sound.sorted (by rw [List.pairwise_map]; exact increasing), ?_⟩
  · intro a b _ _ less greater
    exact absurd (String.lt_trans less greater) (String.lt_irrefl _)
  · exact told.trans (indexed_paths files directory jobs ▸ all.map (·.1))

/-- The steps that are left: three for each waiting file, two for each in work, one for each result. -/
def left (p : Pool) : Nat := 3 * p.waiting.length + 2 * p.working.length + p.ready.length

theorem step_left (step : Step threads files directory p q) : q.left < p.left := by
  cases step with
  | take next _ =>
    have length := next.length_eq
    simp only [left, List.length_cons] at length ⊢
    omega
  | report worked =>
    have length := worked.length_eq
    simp only [left, List.length_cons] at length ⊢
    omega
  | deliver done =>
    have length := done.length_eq
    simp only [left, List.length_cons] at length ⊢
    omega

theorem exists_step (some_ : 0 < threads) (files : Files) (directory : String) (more : ¬ p.Finished) :
    ∃ q, Step threads files directory p q := by
  cases ready : p.ready with
  | cons result rest => exact ⟨_, .deliver (.of_eq ready)⟩
  | nil =>
    cases working : p.working with
    | cons job rest => exact ⟨_, .report (.of_eq working)⟩
    | nil =>
      cases waiting : p.waiting with
      | cons job rest => exact ⟨_, .take (.of_eq waiting) (by simp [ready, working, some_])⟩
      | nil => exact absurd ⟨waiting, working, ready⟩ more

/-- However far a run has come, it can be brought to its end; no step leads away from there. -/
theorem run_finishes (some_ : 0 < threads) (files : Files) (directory : String) (p : Pool) :
    ∃ q, Run threads files directory p q ∧ q.Finished := by
  induction steps : p.left using Nat.strong_induction_on generalizing p with
  | _ n ih =>
    by_cases finished : p.Finished
    · exact ⟨p, .refl, finished⟩
    · obtain ⟨next, step⟩ := exists_step some_ files directory finished
      obtain ⟨q, run, done⟩ := ih next.left (steps ▸ step_left step) next rfl
      exact ⟨q, .head step run, done⟩

end Pool

end SourceOutline.Scan

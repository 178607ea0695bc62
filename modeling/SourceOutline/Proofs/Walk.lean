import SourceOutline.Complexity

/-! Where a walk stops: at each place of the subtree in turn. Whatever is collected on the way is collected
from these places, so the decision points that are counted are those of the subtree. -/
namespace SourceOutline

namespace Cursor

/-- The invariant of a walk: it goes on as the list of places ahead says. -/
theorem walk_eq_foldl (visit : β → Place → β) (seen : β) (c : Cursor) :
    c.walk visit seen = c.ahead.foldl visit seen := by
  fun_induction walk visit seen c with
  | case1 seen c d next ih =>
    rw [ih, ahead_eq c, next]
    rfl
  | case2 seen c last =>
    rw [ahead_eq c, last]
    rfl

theorem ahead_start (p : Place) : (start p).ahead = p.subtree := by
  rw [ahead, start, after, List.append_nil]
  intro _ _ _ _ level
  contradiction

theorem next?_wellFounded : WellFounded fun d c : Cursor => c.next? = some d :=
  Subrelation.wf (fun next => ahead_next next) (measure fun c : Cursor => c.ahead.length).wf

def stops (p : Place) : List Place := (start p).walk (fun seen q => seen ++ [q]) []

theorem stops_eq_subtree (p : Place) : stops p = p.subtree := by
  rw [stops, walk_eq_foldl, ahead_start, List.foldl_append_eq_append, List.nil_append,
    ← List.flatMap_def, List.flatMap_singleton']

end Cursor

namespace Complexity

theorem foldl_count (test : Place → Bool) (ps : List Place) (count : Nat) :
    ps.foldl (fun count q => if test q then count + 1 else count) count = count + ps.countP test := by
  induction ps generalizing count with
  | nil => rfl
  | cons p ps ih =>
    rw [List.foldl_cons, ih, List.countP_cons]
    split <;> omega

theorem ofPlace_eq (src : Source) (p : Place) :
    ofPlace src p = 1 + (Cursor.stops p).countP fun q => isDecision src q.node := by
  rw [ofPlace, Cursor.walk_eq_foldl, Cursor.ahead_start, foldl_count, Cursor.stops_eq_subtree]

theorem one_le_ofPlace (src : Source) (p : Place) : 1 ≤ ofPlace src p := by
  rw [ofPlace_eq]
  exact Nat.le_add_right ..

end Complexity

end SourceOutline

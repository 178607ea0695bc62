/-! The first element of a list for each value of a key. -/
namespace SourceOutline

def firstPerKeyFrom [BEq κ] (key : α → κ) (seen : List κ) : List α → List α
  | [] => []
  | x :: xs =>
    if seen.contains (key x) then firstPerKeyFrom key seen xs
    else x :: firstPerKeyFrom key (key x :: seen) xs

/-- Each element that is the first with its key, in order. -/
def firstPerKey [BEq κ] (key : α → κ) (xs : List α) : List α := firstPerKeyFrom key [] xs

end SourceOutline

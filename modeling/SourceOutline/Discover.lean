import SourceOutline.Error
import SourceOutline.Files
import SourceOutline.Glob

/-! The files below a directory that a scan looks at. -/
namespace SourceOutline

structure Selection where
  includes : List Glob
  excludes : List Glob
deriving DecidableEq, Repr, Inhabited

namespace Selection

def invalidGlob (pattern : String) (fault : Glob.Fault) : ScanError :=
  .invalidArgument ("invalid glob pattern '" ++ pattern ++ "': " ++ fault.message)

def globs (patterns : List String) : Except ScanError (List Glob) :=
  patterns.mapM fun p => (Glob.ofText p).mapError (invalidGlob p)

def ofPatterns (includes excludes : List String) : Except ScanError Selection := do
  return { includes := ← globs includes, excludes := ← globs excludes }

/-- An entry is left out by its bare name, also where that name is itself no match of the glob, or by
a glob that matches its relative path or its name. -/
def leavesOut (s : Selection) (relative name : String) : Bool :=
  s.excludes.any fun g => g.text == name || g.accepts relative || g.accepts name

/-- A file is taken when some glob matches its relative path or its name. No globs take every file. -/
def takes (s : Selection) (relative name : String) : Bool :=
  s.includes.isEmpty || s.includes.any fun g => g.accepts relative || g.accepts name

/-- The path of an entry of a directory, relative to the root; the root's own path is empty. -/
def below (directory name : String) : String :=
  if directory.isEmpty then name else directory ++ "/" ++ name

mutual

/-- The paths of the taken files at or below an entry that has this relative path. Its directory may be
passed or not; an entry of one that may not be is seen, but cannot be opened. Links are not followed. -/
def pathsAt (s : Selection) (passed : Bool) (relative name : String) : Entry → List String
  | .file _ => if !s.leavesOut relative name && s.takes relative name then [relative] else []
  | .directory access entries =>
    if !s.leavesOut relative name && passed && access.list then
      pathsBelow s access.pass relative entries
    else []
  | .link _ => []

def pathsBelow (s : Selection) (passed : Bool) (directory : String) :
    List (String × Entry) → List String
  | [] => []
  | (name, e) :: rest =>
    pathsAt s passed (below directory name) name e ++ pathsBelow s passed directory rest

end

end Selection

/-- The relative paths of the taken files below a directory, in order. A directory further down that
cannot be listed is skipped. -/
def Discover.paths (files : Files) (directory : String) (includes excludes : List String) :
    Except ScanError (List String) := do
  match files.directory? directory with
  | none => throw (.directoryNotFound directory)
  | some (access, entries) =>
    if !access.list then throw (.readFailure directory Obstacle.denied.message)
    let selection ← Selection.ofPatterns includes excludes
    return (selection.pathsBelow access.pass "" entries).mergeSort fun a b => decide (a ≤ b)

end SourceOutline

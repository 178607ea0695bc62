import SourceOutline.FilePath
import SourceOutline.Tree

/-! The files that a program can see: files, directories and symbolic links, what may be done with them,
and how paths lead to them. -/
namespace SourceOutline

inductive Obstacle where
  | missing
  | denied
  | notDirectory
  | isDirectory
  | occupied
  | tooManyLinks
  | notText
deriving DecidableEq, Repr

namespace Obstacle

def message : Obstacle → String
  | missing => "No such file or directory (os error 2)"
  | denied => "Permission denied (os error 13)"
  | notDirectory => "Not a directory (os error 20)"
  | isDirectory => "Is a directory (os error 21)"
  | occupied => "File exists (os error 17)"
  | tooManyLinks => "Too many levels of symbolic links (os error 40)"
  | notText => "stream did not contain valid UTF-8"

end Obstacle

/-- The content of a file, with its syntax tree where one is known. -/
structure File where
  bytes : ByteArray
  tree : Option Node := none
  readable : Bool := true
deriving Inhabited

abbrev Content := Except Obstacle (String × Option Node)

namespace File

def ofText (text : String) : File where
  bytes := text.toUTF8

def read (f : File) : Content :=
  if f.readable then
    match String.fromUTF8? f.bytes with
    | some text => .ok (text, f.tree)
    | none => .error .notText
  else .error .denied

end File

/-- What may be done with a directory: to list its entries, and to pass through it to one of them. -/
structure Access where
  list : Bool := true
  pass : Bool := true
deriving DecidableEq, Repr, Inhabited

inductive Entry where
  | file (content : File)
  | directory (access : Access) (entries : List (String × Entry))
  | link (target : String)
deriving Inhabited

namespace Entry

def empty : Entry := directory {} []

def entries : Entry → List (String × Entry)
  | directory _ es => es
  | _ => []

def access : Entry → Access
  | directory a _ => a
  | _ => {}

def child? (e : Entry) (name : String) : Option Entry :=
  (e.entries.find? (·.1 == name)).map (·.2)

/-- The entry that a chain of names leads to; no link is followed. -/
def at? (e : Entry) : List String → Option Entry
  | [] => some e
  | name :: rest => (e.child? name).bind (·.at? rest)

/-- The entries with `e` under this name, in its old place or at the end. -/
def put (name : String) (e : Entry) : List (String × Entry) → List (String × Entry)
  | [] => [(name, e)]
  | (n, old) :: rest => if n == name then (name, e) :: rest else (n, old) :: put name e rest

/-- The entry with `new` at the end of a chain of names, of which all but the last are there. -/
def place (new : Entry) : List String → Entry → Entry
  | [], _ => new
  | name :: rest, e =>
    directory e.access (put name (place new rest ((e.child? name).getD empty)) e.entries)

end Entry

/-- Where a path leads: to an entry, or to a free name in a directory. The names start at the top and
pass through no link. -/
inductive Spot where
  | taken (names : List String)
  | vacant (names : List String)
deriving DecidableEq, Repr

/-- All that lies below `/`, and the directory that relative paths start from. -/
structure Files where
  top : Entry
  here : List String := []
deriving Inhabited

namespace Files

def linkLimit : Nat := 40

/-- Where a path starts that is given in the directory `here`. -/
def start (here : List String) (path : String) : List String :=
  if FilePath.isAbsolute path then [] else here

def walk (top : Entry) (links : Nat) (here : List String) : List String → Except Obstacle Spot
  | [] => .ok (.taken here)
  | piece :: rest =>
    match top.at? here with
    | some (.directory access _) =>
      -- A separator asks for a directory only; all else is looked up in it.
      if piece == "" then walk top links here rest
      else if !access.pass then .error .denied
      else if piece == "." then walk top links here rest
      else if piece == ".." then walk top links here.dropLast rest
      else
        match top.at? (here ++ [piece]) with
        | none =>
          if rest.all (· == "") then .ok (.vacant (here ++ [piece])) else .error .missing
        | some (.link target) =>
          match links with
          | 0 => .error .tooManyLinks
          | links + 1 => walk top links (start here target) (FilePath.pieces target ++ rest)
        | some _ => walk top links (here ++ [piece]) rest
    | _ => .error .notDirectory
termination_by path => (links, path.length)

def locate (files : Files) (path : String) : Except Obstacle Spot :=
  if path.isEmpty then .error .missing
  else walk files.top linkLimit (start files.here path) (FilePath.pieces path)

def get? (files : Files) (path : String) : Option Entry :=
  match files.locate path with
  | .ok (.taken names) => files.top.at? names
  | _ => none

def directory? (files : Files) (path : String) : Option (Access × List (String × Entry)) :=
  match files.get? path with
  | some (.directory access entries) => some (access, entries)
  | _ => none

def isFile (files : Files) (path : String) : Bool :=
  match files.get? path with
  | some (.file _) => true
  | _ => false

def read (files : Files) (path : String) : Content :=
  match files.locate path with
  | .error obstacle => .error obstacle
  | .ok (.vacant _) => .error .missing
  | .ok (.taken names) =>
    match files.top.at? names with
    | some (.file f) => f.read
    | some (.directory access _) => .error (if access.list then .isDirectory else .denied)
    | _ => .error .missing

/-- Puts a file where a path leads, in place of a file that is there already. -/
def write (files : Files) (path : String) (f : File) : Except Obstacle Files := do
  match ← files.locate path with
  | .vacant names =>
    if path.toList.getLast? == some '/' then throw .isDirectory
    return { files with top := .place (.file f) names files.top }
  | .taken names =>
    match files.top.at? names with
    | some (.file old) =>
      return { files with top := .place (.file { f with readable := old.readable }) names files.top }
    | _ => throw .isDirectory

/-- Makes the directories of a path that are not there yet, below the directory `here`. -/
def makeBelow (top : Entry) (here : List String) : List String → Except Obstacle Entry
  | [] => .ok top
  | name :: rest =>
    match walk top linkLimit here [name] with
    | .error e => .error e
    | .ok (.vacant names) =>
      if names == here ++ [name] then makeBelow (.place .empty names top) names rest
      else .error .missing
    | .ok (.taken names) =>
      match top.at? names with
      | some (.directory _ _) => makeBelow top names rest
      | _ => .error .notDirectory

def makeDirectories (files : Files) (path : String) : Except Obstacle Files := do
  let top ← makeBelow files.top (start files.here path) (FilePath.components path)
  return { files with top }

def create (files : Files) (path : String) (f : File) : Except Obstacle Files := do
  let names := (FilePath.components path).dropLast
  let top ← makeBelow files.top (start files.here path) names
  write { files with top } path f

def link (files : Files) (path target : String) : Except Obstacle Files := do
  if target.isEmpty then throw .missing
  match (FilePath.components path).getLast? with
  | none => throw .occupied
  | some name =>
    let above := (FilePath.components path).dropLast
    match ← walk files.top linkLimit (start files.here path) above with
    | .vacant _ => throw .missing
    | .taken names =>
      match files.top.at? names with
      | some (.directory _ entries) =>
        if name == ".." || entries.any (·.1 == name) then throw .occupied
        return { files with top := .place (.link target) (names ++ [name]) files.top }
      | _ => throw .notDirectory

end Files

end SourceOutline

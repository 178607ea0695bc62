import SourceOutline.Text

/-! Paths as texts with `/` between components. -/
namespace SourceOutline.FilePath

def isAbsolute (path : String) : Bool := path.toList.head? == some '/'

/-- What stands between the separators, which may be nothing. -/
def pieces (path : String) : List String := (path.toList.splitOn '/').map String.ofList

def components (path : String) : List String :=
  (pieces path).filter fun c => c != "" && c != "."

def fileName? (path : String) : Option String :=
  (components path).getLast?.filter (· != "..")

/-- What follows the last dot of the file name, unless that dot starts the name. -/
def extension? (path : String) : Option String := do
  let name := (← fileName? path).toList
  let reversed := name.reverse
  let ending := reversed.takeWhile (· != '.')
  if ending.length + 1 < name.length then some (String.ofList ending.reverse) else none

def join (directory relative : String) : String :=
  if isAbsolute relative || directory.isEmpty then relative
  else if directory.toList.getLast? == some '/' then directory ++ relative
  else directory ++ "/" ++ relative

/-- How a file type is named in messages: the extension with its dot, else the name, else the
whole path. -/
def fileType (path : String) : String :=
  match extension? path with
  | some ext => "." ++ ext
  | none => (fileName? path).getD path

end SourceOutline.FilePath

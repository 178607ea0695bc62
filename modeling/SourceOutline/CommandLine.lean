import SourceOutline.CommandLine.Request

/-! The command line: `scan` prints the catalogue of a directory, `languages` lists what is known. -/
namespace SourceOutline

/-- What a run leaves behind. A saved text, with its path, takes the place of a printed one, and is
among the files. -/
structure Outcome where
  exit : Nat
  printed : String := ""
  saved : Option (String × String) := none
  failure : Option String := none
  files : Files
deriving Inhabited

namespace CommandLine

def versionText : String := "codemap 0.1.0\n"

/-- An error with what lies behind it, whose lines are indented. -/
def report (message : String) (cause : Option String) : String :=
  let reason := match cause with
    | some c => "\n\nCaused by:\n    " ++ "\n    ".intercalate
        ((c.toList.splitOn '\n').map String.ofList)
    | none => ""
  "Error: " ++ message ++ reason

def failed (files : Files) (message : String) (cause : Option String) : Outcome :=
  { exit := 1, failure := some (report message cause), files }

def runScan (files : Files) (r : ScanRequest) : Outcome :=
  match Config.load files r.directory with
  | .error e => failed files e.message e.cause?
  | .ok config =>
    match Scan.run files r.directory (r.overriding config.scanOptions) with
    | .error e => failed files ("Failed to scan " ++ r.directory) (some e.message)
    | .ok text =>
      match r.output with
      | none => { exit := 0, printed := text, files }
      | some path =>
        match files.write path (File.ofText text) with
        | .error e => failed files ("Failed to write " ++ path) (some e.message)
        | .ok written => { exit := 0, saved := some (path, text), files := written }

def padRight (width : Nat) (s : String) : String :=
  s ++ String.ofList (List.replicate (width - s.length) ' ')

def withoutRepeats [DecidableEq α] : List α → List α
  | a :: b :: rest => if a = b then withoutRepeats (b :: rest) else a :: withoutRepeats (b :: rest)
  | short => short

/-- Two lines: the extensions, and the kinds of definitions in the order of their queries. -/
def describe (l : Language) : String :=
  let row (head : String) (items : List String) :=
    "  " ++ padRight 12 head ++ " " ++ ", ".intercalate items ++ "\n"
  row l.name (l.extensions.map ("." ++ ·)) ++ row "" ((withoutRepeats l.kinds).map Kind.name)

def languagesText : String :=
  "Supported languages:\n\n" ++ String.join (Language.builtin.map describe)

def run (files : Files) (args : List String) : Outcome :=
  match parse args with
  | .error .refused => { exit := 2, files }
  | .error .help => { exit := 0, files }
  | .error .version => { exit := 0, printed := versionText, files }
  | .ok .languages => { exit := 0, printed := languagesText, files }
  | .ok (.scan r) => runScan files r

end CommandLine

end SourceOutline

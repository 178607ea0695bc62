import SourceOutline.Discover
import SourceOutline.Filter
import SourceOutline.Index
import SourceOutline.Language.Builtin
import SourceOutline.Render

/-! Scans: the catalogue of the files below a directory. -/
namespace SourceOutline

def defaultExcludes : List String := ["node_modules", ".git", "target"]

/-- All that a scan needs besides the directory. Without patterns it takes every file of a known
language. -/
structure ScanOptions where
  patterns : List String := []
  exclude : List String := defaultExcludes
  format : Format := .markdown
  detail : Detail := .standard
  filter : FilterOptions := {}
  threads : Nat := 4
deriving DecidableEq, Repr, Inhabited

namespace ScanOptions

def validate (o : ScanOptions) : Except ScanError Unit := do
  if o.threads = 0 then throw (.invalidArgument "thread count must be greater than 0")
  o.filter.validate

def includes (o : ScanOptions) : List String :=
  if o.patterns.isEmpty then Language.defaultPatterns else o.patterns

end ScanOptions

namespace Scan

/-- The definitions in what was read at a path; a failure becomes their single entry. -/
def definitions (path : String) : Content → List Definition
  | .ok (text, tree) => Index.ofSource (Language.forPath? path) path text tree
  | .error obstacle => [Definition.error 1 (ScanError.readFailure path obstacle.message).message]

def indexed (files : Files) (directory relative : String) : String × List Definition :=
  let path := FilePath.join directory relative
  (relative, definitions path (files.read path))

def filtered (o : ScanOptions) (catalog : Catalog) : Catalog :=
  let filter := Filter.ofOptions o.filter
  catalog.map fun (path, defs) => (path, filter.apply defs)

/-- The filtered definitions of every taken file, by path. -/
def collect (files : Files) (directory : String) (o : ScanOptions) : Except ScanError Catalog := do
  o.validate
  let paths ← Discover.paths files directory o.includes o.exclude
  return filtered o (paths.map (indexed files directory))

def run (files : Files) (directory : String) (o : ScanOptions) : Except ScanError String := do
  return Render.render (← collect files directory o) o.format o.detail

end Scan

end SourceOutline

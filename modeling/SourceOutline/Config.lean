import SourceOutline.Scan
import SourceOutline.Toml.Text

/-! The configuration file of a directory: what a scan of it does unless the command line says
otherwise. -/
namespace SourceOutline

structure ScanSection where
  patterns : List String := []
  exclude : List String := defaultExcludes
deriving DecidableEq, Repr, Inhabited

structure OutputSection where
  format : Format := .markdown
  detail : Detail := .standard
deriving DecidableEq, Repr, Inhabited

structure PerformanceSection where
  threads : Nat := 4
deriving DecidableEq, Repr, Inhabited

structure LoggingSection where
  level : String := "warn"
  format : String := "compact"
deriving DecidableEq, Repr, Inhabited

structure Config where
  scan : ScanSection := {}
  output : OutputSection := {}
  filter : FilterOptions := {}
  performance : PerformanceSection := {}
  logging : LoggingSection := {}
deriving DecidableEq, Repr, Inhabited

inductive ConfigError where
  | unreadable (path : String) (reason : Obstacle)
  | malformed (path : String)
  | glob (pattern : String) (fault : Glob.Fault)
  | threads
  | filter (cause : ScanError)
  | logLevel (level : String)
  | logFormat (format : String)
deriving DecidableEq, Repr

namespace ConfigError

def message : ConfigError → String
  | unreadable path _ => "Failed to read " ++ path
  | malformed path => "Invalid TOML in " ++ path
  | glob pattern _ => "Invalid glob pattern: " ++ pattern
  | threads => "Thread count must be greater than 0"
  | filter _ => "Invalid [filter] section"
  | logLevel level => "Invalid log level: " ++ level
  | logFormat format => "Invalid log format: " ++ format

def cause? : ConfigError → Option String
  | unreadable _ reason => some reason.message
  | glob _ fault => some fault.message
  | filter cause => some cause.message
  | _ => none

end ConfigError

namespace Config

def fileName : String := ".codemap.toml"

def logLevels : List String := ["error", "warn", "info", "debug", "trace"]

def logFormats : List String := ["compact", "pretty"]

def validateGlobs (patterns : List String) : Except ConfigError Unit :=
  patterns.forM fun p => (Glob.ofText p).mapError (.glob p) *> pure ()

/-- The first thing wrong with a configuration: globs, threads, filter, logging. -/
def validate (c : Config) : Except ConfigError Unit := do
  validateGlobs (c.scan.patterns ++ c.scan.exclude)
  if c.performance.threads = 0 then throw .threads
  c.filter.validate.mapError .filter
  if !logLevels.contains c.logging.level then throw (.logLevel c.logging.level)
  if !logFormats.contains c.logging.format then throw (.logFormat c.logging.format)

def scanOptions (c : Config) : ScanOptions where
  patterns := c.scan.patterns
  exclude := c.scan.exclude
  format := c.output.format
  detail := c.output.detail
  filter := c.filter
  threads := c.performance.threads

/-- A record with these many fields, also as an array, of which further items are ignored. -/
def record? (arity : Nat) : Json → Option Json.Record
  | .arr items => some (.positional (items.take arity))
  | v => v.toRecord? arity

def isEmptyValue : Json → Bool
  | .arr [] | .obj [] => true
  | _ => false

/-- A name that stands for itself, or as the only key of a table with nothing in it. -/
def choice? (ofName? : String → Option α) : Json → Option α
  | .str name => ofName? name
  | .obj [(name, v)] => if isEmptyValue v then ofName? name else none
  | _ => none

/-- The section at a position of the file; without it, the record of an absent section. -/
def section? (file : Json.Record) (position : Nat) (name : String) (arity : Nat) :
    Option Json.Record :=
  file.defaulted position name (.named []) (record? arity)

def scanOf? (r : Json.Record) : Option ScanSection := do
  let d : ScanSection := {}
  return { patterns := ← r.defaulted 0 "patterns" d.patterns Json.toStrs?
           exclude := ← r.defaulted 1 "exclude" d.exclude Json.toStrs? }

def outputOf? (r : Json.Record) : Option OutputSection := do
  let d : OutputSection := {}
  return { format := ← r.defaulted 0 "format" d.format (choice? Format.ofName?)
           detail := ← r.defaulted 1 "detail" d.detail (choice? Detail.ofName?) }

def filterOfJson? : Json → Option FilterOptions
  | .arr items => FilterOptions.ofJson? (.arr (items.take FilterOptions.keys.length))
  | v => FilterOptions.ofJson? v

def performanceOf? (r : Json.Record) : Option PerformanceSection := do
  let d : PerformanceSection := {}
  return { threads := ← r.defaulted 0 "threads" d.threads Json.toNat64? }

def loggingOf? (r : Json.Record) : Option LoggingSection := do
  let d : LoggingSection := {}
  return { level := ← r.defaulted 0 "level" d.level Json.toStr?
           format := ← r.defaulted 1 "format" d.format Json.toStr? }

/-- Every section and every key may be left out, and others are ignored. -/
def ofJson? (v : Json) : Option Config := do
  let file ← record? 5 v
  return { scan := ← scanOf? (← section? file 0 "scan" 2)
           output := ← outputOf? (← section? file 1 "output" 2)
           filter := ← file.defaulted 2 "filter" {} filterOfJson?
           performance := ← performanceOf? (← section? file 3 "performance" 1)
           logging := ← loggingOf? (← section? file 4 "logging" 2) }

def ofText? (text : String) : Option Config := do ofJson? (← Toml.ofText? text).toJson

def ofFile (files : Files) (path : String) : Except ConfigError Config := do
  match files.read path with
  | .error reason => throw (.unreadable path reason)
  | .ok (text, _) =>
    match ofText? text with
    | none => throw (.malformed path)
    | some c =>
      c.validate
      return c

/-- The configuration of a directory; without a file it is the default one. -/
def load (files : Files) (directory : String) : Except ConfigError Config :=
  let path := FilePath.join directory fileName
  if files.isFile path then ofFile files path else .ok {}

end Config

end SourceOutline

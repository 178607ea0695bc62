import SourceOutline.Arguments
import SourceOutline.Config

/-! What the arguments of the command line ask for: a scan, or the list of languages. -/
namespace SourceOutline

/-- What the arguments of a scan say. Empty lists and absent values leave the configuration as it is. -/
structure ScanRequest where
  directory : String := "."
  patterns : List String := []
  exclude : List String := []
  format : Option Format := none
  detail : Option Detail := none
  filter : FilterOptions := {}
  threads : Option Nat := none
  output : Option String := none
deriving DecidableEq, Repr, Inhabited

namespace CommandLine

/-- The value of decimal digits, below a bound. A plus sign may stand before them. -/
def number? (bound : Nat) (text : String) : Option Nat :=
  let digits := match text.toList with
    | '+' :: rest => rest
    | cs => cs
  let n := Json.digitsValue digits
  if !digits.isEmpty && digits.all Char.isDigit && n < bound then some n else none

def number32? : String → Option Nat := number? 0x100000000

def number64? : String → Option Nat := number? 0x10000000000000000

end CommandLine

namespace ScanRequest

open Arguments CommandLine

def ofGiven (g : Given) : ScanRequest where
  directory := g.operands.headD "."
  patterns := g.values "pattern"
  exclude := g.values "exclude"
  format := (g.value? "format").bind Format.ofName?
  detail := (g.value? "detail").bind Detail.ofName?
  filter :=
    { includeTypes := g.listed "include-types"
      excludeTypes := g.listed "exclude-types"
      includeModifiers := g.listed "include-modifiers"
      excludeModifiers := g.listed "exclude-modifiers"
      namePattern := g.value? "name-pattern"
      excludeNamePattern := g.value? "exclude-name-pattern"
      minComplexity := (g.value? "min-complexity").bind number32?
      maxComplexity := (g.value? "max-complexity").bind number32?
      minParameters := (g.value? "min-parameters").bind number64?
      maxParameters := (g.value? "max-parameters").bind number64? }
  threads := (g.value? "threads").bind number64?
  output := g.value? "output"

def orConfigured (given configured : List α) : List α := if given.isEmpty then configured else given

def overriding (r : ScanRequest) (o : ScanOptions) : ScanOptions where
  patterns := orConfigured r.patterns o.patterns
  exclude := orConfigured r.exclude o.exclude
  format := r.format.getD o.format
  detail := r.detail.getD o.detail
  filter :=
    { includeTypes := orConfigured r.filter.includeTypes o.filter.includeTypes
      excludeTypes := orConfigured r.filter.excludeTypes o.filter.excludeTypes
      includeModifiers := orConfigured r.filter.includeModifiers o.filter.includeModifiers
      excludeModifiers := orConfigured r.filter.excludeModifiers o.filter.excludeModifiers
      namePattern := r.filter.namePattern.or o.filter.namePattern
      excludeNamePattern := r.filter.excludeNamePattern.or o.filter.excludeNamePattern
      minComplexity := r.filter.minComplexity.or o.filter.minComplexity
      maxComplexity := r.filter.maxComplexity.or o.filter.maxComplexity
      minParameters := r.filter.minParameters.or o.filter.minParameters
      maxParameters := r.filter.maxParameters.or o.filter.maxParameters }
  threads := r.threads.getD o.threads

end ScanRequest

inductive Command where
  | scan (request : ScanRequest)
  | languages
deriving DecidableEq, Repr, Inhabited

namespace CommandLine

open Arguments

def logSwitches : List Switch :=
  [{ long := "debug", short := some 'D' }, { long := "verbose", short := some 'v' }]

def isNamed (text : String) : Bool := !text.isEmpty

def listSwitch (long : String) (short : Option Char) : Switch :=
  { long, short, valued := true, repeatable := true }

def valueSwitch (long : String) (short : Option Char) (accepts : String → Bool) : Switch :=
  { long, short, valued := true, accepts }

def scanSwitches : List Switch :=
  [ listSwitch "pattern" (some 'p'),
    listSwitch "exclude" (some 'e'),
    valueSwitch "format" (some 'f') fun v => (Format.ofName? v).isSome,
    valueSwitch "detail" (some 'd') fun v => (Detail.ofName? v).isSome,
    listSwitch "include-types" none,
    listSwitch "exclude-types" none,
    listSwitch "include-modifiers" none,
    listSwitch "exclude-modifiers" none,
    valueSwitch "name-pattern" none fun _ => true,
    valueSwitch "exclude-name-pattern" none fun _ => true,
    valueSwitch "min-complexity" none fun v => (number32? v).isSome,
    valueSwitch "max-complexity" none fun v => (number32? v).isSome,
    valueSwitch "min-parameters" none fun v => (number64? v).isSome,
    valueSwitch "max-parameters" none fun v => (number64? v).isSome,
    valueSwitch "threads" (some 'j') fun v => (number64? v).isSome,
    valueSwitch "output" (some 'o') isNamed,
    { long := "progress" } ] ++ logSwitches

def topGrammar : Grammar where
  switches := logSwitches
  operands := 1
  acceptsOperand := isNamed
  commands := ["scan", "languages", "help"]
  versioned := true

def scanGrammar : Grammar where
  switches := scanSwitches
  operands := 1
  acceptsOperand := isNamed

def languagesGrammar : Grammar where
  switches := logSwitches
  operands := 0

/-- Reads the arguments. Without the name of a command they ask for a scan of the operand, or of the
directory at hand. -/
def parse (args : List String) : Except Stop Command := do
  let top ← read topGrammar {} none false args
  match top.command with
  | some ("scan", rest) =>
    return .scan (ScanRequest.ofGiven (← read scanGrammar {} none false rest).given)
  | some ("languages", rest) =>
    let _ ← read languagesGrammar {} none false rest
    return .languages
  | some (_, topic) =>
    if topic.length ≤ 1 && topic.all topGrammar.commands.contains then throw .help
    else throw .refused
  | none => return .scan { directory := top.given.operands.headD "." }

end CommandLine

end SourceOutline

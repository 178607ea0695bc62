import SourceOutline.Text

/-! Arguments of a command: options with a long name and perhaps a short one, operands, and the names of
further commands. Values follow an option as the next argument, after `=`, or right after a short name. -/
namespace SourceOutline

namespace Arguments

structure Switch where
  long : String
  short : Option Char := none
  valued : Bool := false
  repeatable : Bool := false
  accepts : String → Bool := fun _ => true

structure Grammar where
  switches : List Switch
  operands : Nat
  acceptsOperand : String → Bool := fun _ => true
  commands : List String := []
  versioned : Bool := false

structure Given where
  options : List (String × String) := []
  operands : List String := []
deriving DecidableEq, Repr, Inhabited

namespace Given

def values (g : Given) (long : String) : List String :=
  (g.options.filter (·.1 == long)).map (·.2)

def value? (g : Given) (long : String) : Option String := (g.values long).head?

def listed (g : Given) (long : String) : List String :=
  (g.values long).flatMap fun v => (v.toList.splitOn ',').map String.ofList

end Given

inductive Stop where
  | refused
  | help
  | version
deriving DecidableEq, Repr

/-- The arguments of a command, and the name of a further command with what follows it. -/
structure Reading where
  given : Given
  command : Option (String × List String) := none

/-- Adds an option. Only repeatable ones may be given twice. -/
def addOption (g : Given) (s : Switch) (value : String) : Except Stop Given :=
  if !s.accepts value || (!s.repeatable && g.options.any (·.1 == s.long)) then .error .refused
  else .ok { g with options := g.options ++ [(s.long, value)] }

def addOperand (grammar : Grammar) (g : Given) (value : String) : Except Stop Given :=
  if g.operands.length < grammar.operands && grammar.acceptsOperand value then
    .ok { g with operands := g.operands ++ [value] }
  else .error .refused

def readLong (grammar : Grammar) (g : Given) (cs : List Char) :
    Except Stop (Given × Option Switch) :=
  let name := String.ofList (Text.before '=' cs)
  let attached := match cs.dropWhile (· != '=') with
    | [] => none
    | _ :: value => some (String.ofList value)
  match grammar.switches.find? (·.long == name), attached with
  | some s, some value =>
    if s.valued then (addOption g s value).map (·, none) else .error .refused
  | some s, none =>
    if s.valued then .ok (g, some s) else (addOption g s "").map (·, none)
  | none, none =>
    if name == "help" then .error .help
    else if name == "version" && grammar.versioned then .error .version
    else .error .refused
  | none, some _ => .error .refused

/-- Short options after one hyphen. The first that takes a value takes the rest, if there is any. -/
def readShorts (grammar : Grammar) (g : Given) : List Char → Except Stop (Given × Option Switch)
  | [] => .ok (g, none)
  | c :: rest =>
    match grammar.switches.find? (·.short == some c) with
    | some s =>
      if s.valued then
        match rest with
        | [] => .ok (g, some s)
        | '=' :: value => (addOption g s (String.ofList value)).map (·, none)
        | value => (addOption g s (String.ofList value)).map (·, none)
      else do readShorts grammar (← addOption g s "") rest
    | none =>
      if c == 'h' then .error .help
      else if c == 'V' && grammar.versioned then .error .version
      else .error .refused

/-- Reads arguments up to their end or the name of a further command. No value may start with a hyphen,
unless it is just that, or follows `=`. After two hyphens everything is an operand. -/
def read (grammar : Grammar) (g : Given) (waiting : Option Switch) (operandsOnly : Bool) :
    List String → Except Stop Reading
  | [] => if waiting.isSome then .error .refused else .ok { given := g }
  | arg :: rest =>
    if operandsOnly then do read grammar (← addOperand grammar g arg) waiting true rest
    else
      match waiting, arg.toList with
      | none, '-' :: '-' :: [] => read grammar g none true rest
      | none, '-' :: '-' :: name => do
        let (g, waiting) ← readLong grammar g name
        read grammar g waiting false rest
      | none, '-' :: c :: shorts => do
        let (g, waiting) ← readShorts grammar g (c :: shorts)
        read grammar g waiting false rest
      | none, _ =>
        if grammar.commands.contains arg then .ok { given := g, command := some (arg, rest) }
        else do read grammar (← addOperand grammar g arg) none false rest
      | some _, '-' :: _ :: _ => .error .refused
      | some s, _ => do read grammar (← addOption g s arg) none false rest

end Arguments

end SourceOutline

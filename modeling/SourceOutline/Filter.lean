import SourceOutline.Definition
import SourceOutline.Filter.Options
import SourceOutline.Regex.Text

/-! Filters that keep the ancestors of what they keep. -/
namespace SourceOutline

/-- A name pattern; one that is no expression matches no name. -/
inductive NameTest where
  | unset
  | valid (r : Regex)
  | invalid
deriving Repr, Inhabited

/-- Options with their patterns read. An excluding pattern that is no expression excludes nothing. -/
structure Filter where
  options : FilterOptions
  name : NameTest
  excludedName : Option Regex
deriving Repr, Inhabited

namespace NameTest

def ofPattern : Option String → NameTest
  | none => unset
  | some pattern =>
    match Regex.ofText? pattern with
    | some r => valid r
    | none => invalid

/-- The expression matches the name, or its last word. -/
def matchesName (r : Regex) (name : String) : Bool :=
  r.isMatch name ||
    match (Text.words name).getLast? with
    | some word => word != name && r.isMatch word
    | none => false

def accepts (t : NameTest) (name : String) : Bool :=
  match t with
  | unset => true
  | valid r => matchesName r name
  | invalid => false

end NameTest

namespace Filter

def ofOptions (options : FilterOptions) : Filter where
  options := options
  name := NameTest.ofPattern options.namePattern
  excludedName := options.excludeNamePattern.bind Regex.ofText?

def excludesName (f : Filter) (name : String) : Bool :=
  match f.excludedName with
  | some r => NameTest.matchesName r name
  | none => false

def listsType (types : List String) (kind : Kind) : Bool :=
  types.any fun t => Text.sameIgnoringCase t kind.name

def hasModifier (modifiers : List String) (d : Definition) : Bool :=
  d.modifierTokens.any fun t => modifiers.contains t

def within (least most : Option Nat) (n : Nat) : Bool :=
  least.all (· ≤ n) && most.all (n ≤ ·)

/-- The definition itself has what the options ask for, whatever its ancestors. -/
def accepts (f : Filter) (d : Definition) : Bool :=
  let o := f.options
  (o.includeTypes.isEmpty || listsType o.includeTypes d.kind) &&
  !listsType o.excludeTypes d.kind &&
  (o.includeModifiers.isEmpty || hasModifier o.includeModifiers d) &&
  !hasModifier o.excludeModifiers d &&
  f.name.accepts d.name &&
  !f.excludesName d.name &&
  within o.minComplexity o.maxComplexity d.complexity &&
  within o.minParameters o.maxParameters d.parameterCount

/-- Adds the parent and its ancestors to the kept ids. The climb ends at an id of no candidate, at an
excluded name, and at an id that is kept already. Each step keeps one more candidate's id, so `fuel`
of their number is enough. -/
def climb (f : Filter) (candidates : List Definition) : Nat → List Nat → Option Nat → List Nat
  | 0, kept, _ => kept
  | _, kept, none => kept
  | fuel + 1, kept, some id =>
    match lastWithId? candidates id with
    | none => kept
    | some parent =>
      if f.excludesName parent.name || kept.contains id then kept
      else climb f candidates fuel (id :: kept) parent.parent

def accepted (f : Filter) (candidates : List Definition) : List Nat :=
  (candidates.filter f.accepts).map (·.id)

def climbAll (f : Filter) (candidates : List Definition) (kept : List Nat) (ids : List Nat) :
    List Nat :=
  ids.foldl (fun kept id =>
    climb f candidates candidates.length kept ((lastWithId? candidates id).bind (·.parent))) kept

/-- The ids of the candidates that stay: the accepted ones and their ancestors. -/
def survivors (f : Filter) (candidates : List Definition) : List Nat :=
  let basic := f.accepted candidates
  climbAll f candidates basic basic

def prune (kept : List Nat) (d : Definition) : Definition :=
  { d with
    children := d.children.filter kept.contains
    parent := d.parent.filter kept.contains }

def candidates (defs : List Definition) : List Definition :=
  defs.filter fun d => !d.kind.passthrough

/-- The reports on the file, and the definitions with a kept id, with links to kept ids only. -/
def keep (kept : List Nat) (defs : List Definition) : List Definition :=
  let survivors := ((candidates defs).filter fun d => kept.contains d.id).map (prune kept)
  (survivors ++ defs.filter fun d => d.kind.passthrough).mergeSort
    fun a b => decide (a.startLine ≤ b.startLine)

def apply (f : Filter) (defs : List Definition) : List Definition :=
  keep (f.survivors (candidates defs)) defs

end Filter

end SourceOutline

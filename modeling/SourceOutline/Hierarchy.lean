import SourceOutline.Nesting

/-! Parents and children from line spans. -/
namespace SourceOutline

/-- For a definition, the spans of the syntax nodes around it, from its own outward; empty if it
stands at no node. -/
abbrev Navigator := Definition → List LineSpan

namespace Hierarchy

abbrev Entry := Definition × Nat

/-- `c` may be the parent of `e`: another definition, around it, and earlier in nesting order. -/
def mayHold (c e : Entry) : Bool :=
  c.2 != e.2 && c.1.containsSpan e.1 && c.1.nestingKey.lt e.1.nestingKey

def holderOn? (containers : List Entry) (e : Entry) (span : LineSpan) : Option Entry :=
  containers.find? fun c => c.1.span == span && mayHold c e

/-- The first container on the lines of the innermost node that has one. -/
def parentOf? (nav : Navigator) (containers : List Entry) (e : Entry) : Option Entry :=
  (nav e.1).findSome? (holderOn? containers e)

/-- The definitions to be linked, outer ones first, each with the parent that it gets. -/
def links (nav : Navigator) (defs : List Definition) : List (Entry × Entry) :=
  let entries := defs.zipIdx
  let containers := entries.filter (·.1.kind.container)
  let free := entries.filter fun e => !e.1.kind.passthrough && e.1.parent.isNone
  let ordered := free.mergeSort fun a b => a.1.nestingKey.le b.1.nestingKey
  ordered.filterMap fun e => (parentOf? nav containers e).map (e, ·)

def applyLinks (ls : List (Entry × Entry)) (e : Entry) : Definition :=
  let parent := (ls.find? fun l => l.1.2 == e.2).map fun l => l.2.1.id
  let children := (ls.filter fun l => l.2.2 == e.2).map fun l => l.1.1.id
  { e.1 with parent := e.1.parent <|> parent, children := e.1.children ++ children }

/-- Links every definition without a parent to its innermost enclosing container. -/
def build (nav : Navigator) (defs : List Definition) : List Definition :=
  defs.zipIdx.map (applyLinks (links nav defs))

end Hierarchy

end SourceOutline

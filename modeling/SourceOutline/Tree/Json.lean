import SourceOutline.Json
import SourceOutline.Tree

/-! Syntax trees as JSON: an array of rows in preorder, each an array of six values. -/
namespace SourceOutline

def Row.ofJson? : Json → Option Row
  | .arr [kind, field, start, stop, count, flags] => do
    return ⟨← kind.toStr?, ← field.toStr?, ⟨← start.toNat64?, ← stop.toNat64?⟩, ← count.toNat64?,
      ← flags.toNat64?⟩
  | _ => none

def Node.ofJson? (v : Json) : Option Node := do Node.ofRows? (← v.toListOf? Row.ofJson?)

end SourceOutline

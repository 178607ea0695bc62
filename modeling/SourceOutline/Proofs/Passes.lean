import Mathlib
import SourceOutline.Proofs.Links

/-! Runs of linking and filtering. One pass keeps the links of a list nested, and so does any number of
passes in any order. -/
namespace SourceOutline

/-- One change of a definition list. -/
inductive Pass where
  | link (nav : Navigator)
  | filter (options : FilterOptions)

def Pass.run : Pass → List Definition → List Definition
  | link nav, defs => Hierarchy.build nav defs
  | filter options, defs => (Filter.ofOptions options).apply defs

/-- The list after all passes, the first one first. -/
def runPasses : List Pass → List Definition → List Definition
  | [], defs => defs
  | pass :: passes, defs => runPasses passes (pass.run defs)

theorem pass_nested (pass : Pass) {defs : List Definition} (valid : Nested defs) :
    Nested (pass.run defs) := by
  cases pass with
  | link nav => exact Hierarchy.build_nested nav valid
  | filter options => exact Filter.apply_nested _ valid

theorem passes_nested (passes : List Pass) {defs : List Definition} (valid : Nested defs) :
    Nested (runPasses passes defs) := by
  induction passes generalizing defs with
  | nil => exact valid
  | cons pass passes ih => exact ih (pass_nested pass valid)

/-- From a list without links, any passes in any order lead to lists whose links agree in both
directions, follow the nesting order, form no circle and leave out the reports. -/
theorem runPasses_links_consistent (defs : List Definition) (distinct : (defs.map (·.id)).Nodup)
    (unlinked : ∀ d ∈ defs, d.parent = none ∧ d.children = []) (passes : List Pass) :
    Nested (runPasses passes defs) ∧ Acyclic (runPasses passes defs) ∧
    ∀ r ∈ runPasses passes defs, r.kind.passthrough = true →
      ∀ d ∈ runPasses passes defs, r.id ∉ d.children ∧ d.parent ≠ some r.id := by
  have valid := passes_nested passes (nested_of_unlinked distinct unlinked)
  exact ⟨valid, valid.acyclic, fun r report kind d other => valid.report_alone report kind other⟩

/-- A filter takes a method's class away, and the method is linked to the namespace instead. -/
theorem runPasses_links_consistent_orphan :
    let defs := [Definition.ofSpan 1 .namespaceDef "outer" ⟨1, 20⟩,
      Definition.ofSpan 2 .classDef "middle" ⟨2, 10⟩, Definition.ofSpan 3 .method "inner" ⟨3, 5⟩,
      Definition.metadata 4 "note"]
    let nav : Navigator := fun d => [d.span, ⟨2, 10⟩, ⟨1, 20⟩]
    let passes := [Pass.link nav, .filter { excludeNamePattern := some "^middle$" }, .link nav]
    (defs.map (·.id)).Nodup ∧ (∀ d ∈ defs, d.parent = none ∧ d.children = []) ∧
    (runPasses [.link nav] defs).map (fun d => (d.name, d.parent)) =
      [("outer", none), ("middle", some 1), ("inner", some 2), ("note", none)] ∧
    (runPasses passes defs).map (fun d => (d.name, d.parent, d.children)) =
      [("note", none, []), ("outer", none, [3]), ("inner", some 1, [])] ∧
    Nested (runPasses passes defs) ∧ Acyclic (runPasses passes defs) ∧
    ∀ d ∈ runPasses passes defs, 4 ∉ d.children ∧ d.parent ≠ some 4 := by
  intro defs nav passes
  have distinct : (defs.map (·.id)).Nodup := by decide
  have unlinked : ∀ d ∈ defs, d.parent = none ∧ d.children = [] := by decide
  have before : (runPasses [.link nav] defs).map (fun d => (d.name, d.parent)) =
      [("outer", none), ("middle", some 1), ("inner", some 2), ("note", none)] := by cbv
  have after : runPasses passes defs =
      [Definition.metadata 4 "note",
        { Definition.ofSpan 1 .namespaceDef "outer" ⟨1, 20⟩ with children := [3] },
        { Definition.ofSpan 3 .method "inner" ⟨3, 5⟩ with parent := some 1 }] := by cbv
  obtain ⟨nested, acyclic, reports⟩ := runPasses_links_consistent defs distinct unlinked passes
  refine ⟨distinct, unlinked, before, by rw [after]; rfl, nested, acyclic, ?_⟩
  have note : Definition.metadata 4 "note" ∈ runPasses passes defs := by simp [after]
  exact fun d other => reports _ note rfl d other

end SourceOutline

import SourceOutline.Proofs.Forest

/-! The levels of detail show one forest. A lower level leaves out fields of the views of a higher one and
changes nothing else: no view, no kind or name, and no field that it shows. -/
namespace SourceOutline.View

def withoutPlace (v : View) : View := { v with lines := none, modifier := none }

/-- The view without what shows at the detailed level only. -/
def withoutDetails (v : View) : View :=
  { v with
    dataType := none, value := none, returnType := none, parameters := [], calls := [],
    complexity := none }

def limitOwn : Detail → View → View
  | .detailed, v => v
  | .standard, v => v.withoutDetails
  | .minimal, v => v.withoutDetails.withoutPlace

mutual

/-- What a level leaves of a view and of all views below it. -/
def limit (detail : Detail) : View → View
  | ⟨kind, name, lines, modifier, dataType, value, returnType, parameters, calls, complexity, children⟩ =>
    limitOwn detail ⟨kind, name, lines, modifier, dataType, value, returnType, parameters, calls,
      complexity, limitAll detail children⟩

def limitAll (detail : Detail) : List View → List View
  | [] => []
  | v :: vs => limit detail v :: limitAll detail vs

end

theorem limit_eq (detail : Detail) (v : View) :
    limit detail v = limitOwn detail { v with children := limitAll detail v.children } := by
  cases v
  rw [limit]

theorem limitAll_eq_map (detail : Detail) (vs : List View) :
    limitAll detail vs = vs.map (limit detail) := by
  induction vs with
  | nil => rfl
  | cons v vs ih => rw [limitAll, ih, List.map_cons]

@[simp] theorem limitOwn_children (detail : Detail) (v : View) :
    (limitOwn detail v).children = v.children := by
  cases detail <;> rfl

theorem limit_children (detail : Detail) (v : View) :
    (limit detail v).children = limitAll detail v.children := by
  rw [limit_eq, limitOwn_children]

@[simp] theorem ofDefinition_children (detail : Detail) (d : Definition) (children : List View) :
    (ofDefinition detail d children).children = children := rfl

theorem limitOwn_ofDefinition {low high : Detail} (above : high.atLeast low = true) (d : Definition)
    (below children : List View) :
    limitOwn low { ofDefinition high d below with children } = ofDefinition low d children := by
  cases low with
  | minimal => cases high <;> rfl
  | standard =>
    cases high with
    | minimal => exact absurd above (by decide)
    | standard | detailed => rfl
  | detailed =>
    cases high with
    | minimal | standard => exact absurd above (by decide)
    | detailed => rfl

mutual

theorem limit_ofBranch {low high : Detail} (above : high.atLeast low = true) :
    ∀ b : Branch, limit low (ofBranch high b) = ofBranch low b
  | ⟨d, children⟩ => by
    rw [limit_eq, ofBranch_eq, ofBranch_eq, ofDefinition_children,
      limitAll_ofBranches above children, limitOwn_ofDefinition above]

theorem limitAll_ofBranches {low high : Detail} (above : high.atLeast low = true) :
    ∀ bs : List Branch, limitAll low (ofBranches high bs) = ofBranches low bs
  | [] => rfl
  | b :: bs => by
    rw [ofBranches, ofBranches, limitAll, limit_ofBranch above b, limitAll_ofBranches above bs]

end

/-- The view of a definition, made while the walk comes to it, and the ids that have been shown. -/
def project (detail : Detail) (defs : List Definition) :
    Nat → List Nat → Definition → Option View × List Nat
  | 0, shown, _ => (none, shown)
  | fuel + 1, shown, d =>
    if shown.contains d.id then (none, shown)
    else
      let (children, shown) :=
        Forest.growAll (project detail defs fuel) (d.id :: shown) (Forest.childrenOf defs d)
      (some (ofDefinition detail d children), shown)

/-- The views of a definition list in one walk, with no forest in between. -/
def projectAll (detail : Detail) (defs : List Definition) : List View :=
  (Forest.growAll (project detail defs defs.length) [] (defs.filter (Forest.isRoot defs))).1

theorem growAll_map {α β : Type} {f : α → β} {step : List Nat → Definition → Option α × List Nat}
    {other : List Nat → Definition → Option β × List Nat}
    (same : ∀ shown d, other shown d = ((step shown d).1.map f, (step shown d).2))
    (shown : List Nat) (ds : List Definition) :
    Forest.growAll other shown ds =
      ((Forest.growAll step shown ds).1.map f, (Forest.growAll step shown ds).2) := by
  induction ds generalizing shown with
  | nil => rfl
  | cons d ds ih =>
    simp only [Forest.growAll, same, ih, List.map_append]
    cases (step shown d).1 <;> rfl

/-- The level decides on what a view shows, and not on where the walk goes. -/
theorem project_eq_grow (detail : Detail) (defs : List Definition) (fuel : Nat) (shown : List Nat)
    (d : Definition) :
    project detail defs fuel shown d =
      ((Forest.grow defs fuel shown d).1.map (ofBranch detail), (Forest.grow defs fuel shown d).2) := by
  induction fuel generalizing shown d with
  | zero => rfl
  | succ fuel ih =>
    rw [project, Forest.grow]
    by_cases marked : shown.contains d.id = true
    · rw [if_pos marked, if_pos marked]
      rfl
    · rw [if_neg marked, if_neg marked, growAll_map ih]
      simp only [Option.map_some, ofBranch, ofBranches_eq_map]

theorem projectAll_eq_forest (detail : Detail) (defs : List Definition) :
    projectAll detail defs = forest detail defs := by
  rw [projectAll, growAll_map (project_eq_grow detail defs defs.length), forest, ofBranches_eq_map]
  rfl

/-- The view at a position: the index among the roots, then among the children, and so on. -/
def at? (views : List View) : List Nat → Option View
  | [] => none
  | [i] => views[i]?
  | i :: j :: path => views[i]?.bind fun v => at? v.children (j :: path)

theorem at?_limitAll (detail : Detail) (views : List View) (path : List Nat) :
    at? (limitAll detail views) path = (at? views path).map (limit detail) := by
  fun_induction at? views path with
  | case1 => rfl
  | case2 views i => rw [at?, limitAll_eq_map, List.getElem?_map]
  | case3 views i j path ih =>
    rw [at?, limitAll_eq_map, List.getElem?_map]
    cases views[i]? with
    | none => rfl
    | some v =>
      rw [Option.map_some, Option.bind_some, Option.bind_some, limit_children, ih]

/-- The two have one kind and one name, and what `low` shows, `high` shows just so. -/
structure ShownIn (low high : View) : Prop where
  kind : low.kind = high.kind
  name : low.name = high.name
  lines : ∀ l ∈ low.lines, l ∈ high.lines
  modifier : ∀ m ∈ low.modifier, m ∈ high.modifier
  dataType : ∀ t ∈ low.dataType, t ∈ high.dataType
  value : ∀ t ∈ low.value, t ∈ high.value
  returnType : ∀ t ∈ low.returnType, t ∈ high.returnType
  parameters : low.parameters ≠ [] → high.parameters = low.parameters
  calls : low.calls ≠ [] → high.calls = low.calls
  complexity : ∀ n ∈ low.complexity, n ∈ high.complexity

theorem limit_shownIn (detail : Detail) (v : View) : ShownIn (limit detail v) v := by
  rw [limit_eq]
  cases detail <;> constructor <;> simp [limitOwn, withoutDetails, withoutPlace]

/-- The forest at a level is what the level leaves of the forest at any higher one. So both have a view at
the same positions, and there the higher level shows all that the lower one does. At each level one walk
that makes the views as it comes to them ends with the same forest. -/
theorem forest_limits_higher (defs : List Definition) (low high : Detail)
    (above : high.atLeast low = true) :
    forest low defs = limitAll low (forest high defs) ∧
    (∀ path, Option.Rel ShownIn (at? (forest low defs) path) (at? (forest high defs) path)) ∧
    projectAll low defs = forest low defs ∧ projectAll high defs = forest high defs := by
  have limited : forest low defs = limitAll low (forest high defs) :=
    (limitAll_ofBranches above (Forest.build defs)).symm
  refine ⟨limited, ?_, projectAll_eq_forest low defs, projectAll_eq_forest high defs⟩
  intro path
  rw [limited, at?_limitAll]
  cases at? (forest high defs) path with
  | none => exact .none
  | some v => exact .some (limit_shownIn low v)

/-- A method that is a child of itself, a variable with a value, and a note: minimal against detailed. -/
theorem forest_limits_higher_circle :
    let area := { Definition.ofSpan 1 .method "area" ⟨2, 5⟩ with
      modifier := some "public", returnType := some "number", calls := ["round"], complexity := 2,
      parameters := [⟨"scale", some "number"⟩], children := [1, 7, 2] }
    let sides := { Definition.ofSpan 2 .variableDef "sides" ⟨3, 3⟩ with
      value := some "4", dataType := some "number", parent := some 1 }
    let defs := [area, sides, Definition.metadata 3 "note"]
    Detail.detailed.atLeast .minimal = true ∧
    forest .minimal defs = limitAll .minimal (forest .detailed defs) := by
  intro area sides defs
  have above : Detail.detailed.atLeast .minimal = true := by decide
  exact ⟨above, (forest_limits_higher defs .minimal .detailed above).1⟩

end SourceOutline.View

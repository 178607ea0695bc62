import SourceOutline.Proofs.Breaks
import SourceOutline.Proofs.Forest
import SourceOutline.Proofs.Scan

/-! Markdown pages, line by line. A view adds a line of its own and one for each detail, indented by its
depth. No modifier and no value adds another; but names, types, parameters and calls are written as they
stand in the source, and a line feed in one of them starts a line with the rest of it. -/
namespace SourceOutline

/-- Definitions from an index or of a file that cannot be read, after any filters. -/
inductive Indexed : List Definition → Prop where
  | source (language? : Option Language) (path text : String) (tree : Option Node) :
      Indexed (Index.ofSource language? path text tree)
  | failure (e : ScanError) : Indexed [Definition.error 1 e.message]
  | filtered {defs : List Definition} (f : Filter) (indexed : Indexed defs) : Indexed (f.apply defs)

/-- The modifier of the definition, if it has one, is on one line. -/
def Definition.FlatModifier (d : Definition) : Prop := ∀ m ∈ d.modifier, Text.breaks m = 0

namespace Extracted

theorem flatModifier_of_match {src : Source} {kind : Kind} {m : Match} {e : Extracted}
    (found : ofMatch? src kind m = some e) : e.definition.FlatModifier := by
  obtain ⟨_, _, _, _, _, rfl⟩ := ofMatch?_eq_some_iff.mp found
  intro modifier present
  simp only [ofPlaces, Option.mem_def, Option.ite_none_left_eq_some] at present
  obtain rfl := Option.some.inj present.2
  apply Text.breaks_joined
  intro word listed
  obtain ⟨_, _, inside⟩ := List.mem_flatMap.mp listed
  exact Text.breaks_word inside

theorem complete_flatModifier {language : Language} {src : Source} {root : Place} {e : Extracted}
    (member : e ∈ definitions language src root) : (complete language src e).FlatModifier := by
  obtain ⟨f, found, same⟩ := definitions_origin member
  obtain ⟨_, _, _, _, _, matched⟩ := exists_match found
  obtain ⟨_, _, _, _, eq⟩ := complete_eq language src e
  have modifier : e.definition.modifier = f.definition.modifier :=
    congrArg (fun x => x.definition.modifier) same
  rw [eq, Definition.FlatModifier, modifier]
  exact flatModifier_of_match matched

end Extracted

theorem Index.ofSource_flatModifier (language? : Option Language) (path text : String)
    (tree : Option Node) : ∀ d ∈ Index.ofSource language? path text tree, d.FlatModifier := by
  have report (id : Nat) (kind : Kind) (name : String) :
      (Definition.report id kind name).FlatModifier := nofun
  rcases Index.ofSource_cases language? path text tree with ⟨message, eq⟩ | ⟨language, root, _, _, eq⟩
  · rw [eq]
    exact List.forall_mem_singleton.mpr (report 1 .error message)
  · obtain ⟨nav, note, tree⟩ := Index.ofTree_eq language path (Source.ofText text) root
    have linked : ∀ d ∈ Hierarchy.build nav (Index.completed language (Source.ofText text) (.root root)),
        d.FlatModifier := by
      intro d member
      obtain ⟨e, entry, rfl⟩ := Hierarchy.mem_build.mp member
      obtain ⟨x, found, same⟩ := List.mem_map.mp (List.fst_mem_of_mem_zipIdx entry)
      have flat := Extracted.complete_flatModifier found
      rw [same] at flat
      exact flat
    rw [eq, tree]
    by_cases faulty : root.faulty = true
    · simp only [if_pos faulty]
      exact List.forall_mem_append.mpr ⟨linked, List.forall_mem_singleton.mpr (report _ .metadata note)⟩
    · simp only [if_neg faulty]
      exact linked

theorem Indexed.flatModifier {defs : List Definition} (indexed : Indexed defs) :
    ∀ d ∈ defs, d.FlatModifier := by
  induction indexed with
  | source language? path text tree => exact Index.ofSource_flatModifier language? path text tree
  | failure e =>
    rw [List.forall_mem_singleton]
    exact nofun
  | filtered f _ ih =>
    intro d member
    rw [Filter.apply_eq_keep] at member
    rcases Filter.mem_keep.mp member with ⟨e, candidate, _, rfl⟩ | ⟨listed, _⟩
    · exact ih e (Filter.mem_candidates.mp candidate).1
    · exact ih d listed

theorem Scan.collect_indexed {files : Files} {directory : String} {o : ScanOptions} {catalog : Catalog}
    (collected : Scan.collect files directory o = .ok catalog) : ∀ file ∈ catalog, Indexed file.2 := by
  obtain ⟨found, _, rfl⟩ := Scan.collect_ok files directory o collected
  intro file member
  obtain ⟨entry, listed, rfl⟩ := List.mem_map.mp member
  obtain ⟨relative, _, rfl⟩ := List.mem_map.mp listed
  refine .filtered _ ?_
  rw [Scan.indexed]
  cases files.read (FilePath.join directory relative) with
  | ok content => exact .source _ _ _ _
  | error obstacle => exact .failure _

namespace View

mutual

/-- The view and all views below it with their depths, each before what is below it. -/
def placed (depth : Nat) : View → List (Nat × View)
  | ⟨kind, name, lines, modifier, dataType, value, returnType, parameters, calls, complexity, children⟩ =>
    (depth, ⟨kind, name, lines, modifier, dataType, value, returnType, parameters, calls, complexity,
      children⟩) :: placedAll (depth + 1) children

def placedAll (depth : Nat) : List View → List (Nat × View)
  | [] => []
  | v :: vs => placed depth v ++ placedAll depth vs

end

mutual

theorem placed_views (depth : Nat) : ∀ v : View, (placed depth v).map (·.2) = v.preorder
  | ⟨_, _, _, _, _, _, _, _, _, _, children⟩ => by
    rw [placed, preorder, List.map_cons, placedAll_views (depth + 1) children]

theorem placedAll_views (depth : Nat) :
    ∀ vs : List View, (placedAll depth vs).map (·.2) = preorderAll vs
  | [] => rfl
  | v :: vs => by
    rw [placedAll, preorderAll, List.map_append, placed_views depth v, placedAll_views depth vs]

end

theorem modifier_of_placed {detail : Detail} {defs : List Definition} {e : Nat × View}
    (member : e ∈ placedAll 0 (forest detail defs)) :
    ∃ d ∈ defs, ∀ m ∈ e.2.modifier, m ∈ d.modifier := by
  have inside : e.2 ∈ preorderAll (forest detail defs) := by
    rw [← placedAll_views 0]
    exact List.mem_map_of_mem member
  rw [forest, preorderAll_ofBranches] at inside
  obtain ⟨b, shown, same⟩ := List.mem_map.mp inside
  refine ⟨b.definition, Forest.definition_mem shown, ?_⟩
  rw [← same, ofBranch_eq, ofDefinition]
  intro m present
  simp only [Option.mem_def, Option.ite_none_right_eq_some] at present
  exact present.2

/-- The texts of a view that are written as they are. -/
def plainTexts (v : View) : List String :=
  v.name :: v.dataType.toList ++ v.returnType.toList ++
    v.parameters.flatMap (fun p => p.name :: p.type.toList) ++ v.calls

def breaks (v : View) : Nat := (v.plainTexts.map Text.breaks).sum

def detailCount (v : View) : Nat :=
  [v.dataType.isSome, v.value.isSome, v.returnType.isSome, !v.parameters.isEmpty, !v.calls.isEmpty,
    v.complexity.isSome].count true

end View

namespace Render

open Text (lines)

def labels : List String := ["Type: ", "Value: ", "Returns: ", "Parameters: ", "Calls: ", "Complexity: "]

/-- Nothing that a line has besides the texts of its view breaks it. -/
theorem breaks_marks :
    Text.breaks "- **" = 0 ∧ Text.breaks "**: " = 0 ∧ Text.breaks " (lines " = 0 ∧ Text.breaks "-" = 0 ∧
    Text.breaks ")" = 0 ∧ Text.breaks " [" = 0 ∧ Text.breaks "]" = 0 ∧ Text.breaks "- " = 0 ∧
    Text.breaks "`" = 0 ∧ Text.breaks "..." = 0 ∧ Text.breaks ": " = 0 ∧ Text.breaks ", " = 0 := by decide

theorem breaks_label : ∀ label ∈ labels, Text.breaks label = 0 := by decide

theorem breaks_kind (kind : Kind) : Text.breaks kind.name = 0 := by
  cases kind <;> decide

@[simp] theorem breaks_indentation (depth : Nat) : Text.breaks (indentation depth) = 0 :=
  Text.breaks_replicate (by decide) depth

@[simp] theorem breaks_code (text : String) : Text.breaks (code text) = Text.breaks text := by
  simp [code, breaks_marks]

@[simp] theorem breaks_truncate (value : String) : Text.breaks (truncate value) = 0 := by
  have flat := Text.breaks_flatten value
  simp only [truncate]
  split
  · have dots : Text.breaks "..." = 0 := by decide
    rw [Text.breaks_append, dots, Nat.add_zero]
    rw [Text.breaks_eq_zero_iff] at flat ⊢
    rw [String.toList_ofList]
    exact fun feed => flat (List.mem_of_mem_take feed)
  · exact flat

theorem breaks_parameterText (p : Parameter) :
    Text.breaks (parameterText p) = ((p.name :: p.type.toList).map Text.breaks).sum := by
  unfold parameterText
  cases p.type <;> simp [breaks_marks]

theorem breaks_parameters (ps : List Parameter) :
    ((ps.map parameterText).map Text.breaks).sum =
      ((ps.flatMap fun p => p.name :: p.type.toList).map Text.breaks).sum := by
  induction ps with
  | nil => rfl
  | cons p ps ih =>
    rw [List.map_cons, List.map_cons, List.sum_cons, ih, List.flatMap_cons, List.map_append,
      List.sum_append, breaks_parameterText]

theorem bullet_mark (depth : Nat) (v : View) :
    ∃ text, bullet depth v = indentation depth ++ "- **" ++ text :=
  ⟨v.kind.name ++ "**: " ++ code v.name ++ spanText v.lines ++ modifierText v.modifier, by
    simp only [bullet, String.append_assoc]⟩

theorem breaks_bullet (depth : Nat) {v : View} (flat : ∀ m ∈ v.modifier, Text.breaks m = 0) :
    Text.breaks (bullet depth v) = Text.breaks v.name := by
  have lines : Text.breaks (spanText v.lines) = 0 := by
    cases v.lines with
    | none => rfl
    | some l => simp [spanText, breaks_marks]
  have modifier : Text.breaks (modifierText v.modifier) = 0 := by
    cases present : v.modifier with
    | none => rfl
    | some m => simp [modifierText, flat m present, breaks_marks]
  simp [bullet, lines, modifier, breaks_kind, breaks_marks]

theorem length_details (depth : Nat) (v : View) : (details depth v).length = v.detailCount := by
  obtain ⟨_, _, _, _, dataType, value, returnType, parameters, calls, complexity, _⟩ := v
  rw [details, List.length_map]
  cases dataType <;> cases value <;> cases returnType <;> cases parameters <;> cases calls <;>
    cases complexity <;> rfl

theorem details_label {depth : Nat} {v : View} {line : String} (member : line ∈ details depth v) :
    ∃ label ∈ labels, ∃ text, line = indentation (depth + 1) ++ "- " ++ label ++ text := by
  rw [details] at member
  obtain ⟨text, shown, rfl⟩ := List.mem_map.mp member
  have labelled : ∃ label ∈ labels, ∃ rest, text = label ++ rest := by
    simp only [detailTexts, List.mem_append, Option.mem_toList, Option.map_eq_some_iff,
      List.mem_ite_nil_left, List.mem_singleton] at shown
    rcases shown with
      ((((⟨_, _, rfl⟩ | ⟨_, _, rfl⟩) | ⟨_, _, rfl⟩) | ⟨_, rfl⟩) | ⟨_, rfl⟩) | ⟨_, _, rfl⟩
    all_goals exact ⟨_, by decide, _, rfl⟩
  obtain ⟨label, listed, rest, rfl⟩ := labelled
  exact ⟨label, listed, rest, String.append_assoc.symm⟩

/-- Of the details, those with types, parameters and calls can break their lines. -/
theorem breaks_details (depth : Nat) (v : View) :
    Text.breaks v.name + ((details depth v).map Text.breaks).sum = v.breaks := by
  have indented : (Text.breaks ∘ fun t => indentation (depth + 1) ++ "- " ++ t) = Text.breaks := by
    funext t
    simp [breaks_marks]
  have comma : Text.breaks ", " = 0 := by decide
  have label := breaks_label
  simp only [labels, List.forall_mem_cons, List.not_mem_nil, false_implies, implies_true,
    and_true] at label
  -- the details are summed field by field, since each shows under a condition of its own
  have types {label : String} (unbroken : Text.breaks label = 0) (type : Option String) :
      ((type.map fun t => label ++ code t).toList.map Text.breaks).sum =
        (type.toList.map Text.breaks).sum := by
    cases type <;> simp [unbroken]
  have value :
      ((v.value.map fun t => "Value: " ++ code (truncate t)).toList.map Text.breaks).sum = 0 := by
    cases v.value <;> simp [label]
  have complexity :
      ((v.complexity.map fun n => "Complexity: " ++ toString n).toList.map Text.breaks).sum = 0 := by
    cases v.complexity <;> simp [label]
  have parameters : ((if v.parameters.isEmpty then []
      else ["Parameters: " ++ code (", ".intercalate (v.parameters.map parameterText))]).map
        Text.breaks).sum =
      ((v.parameters.flatMap fun p => p.name :: p.type.toList).map Text.breaks).sum := by
    rw [← breaks_parameters]
    cases v.parameters with
    | nil => rfl
    | cons p ps => simp [label, Text.breaks_intercalate comma]
  have calls : ((if v.calls.isEmpty then []
      else ["Calls: " ++ ", ".intercalate v.calls]).map Text.breaks).sum =
      (v.calls.map Text.breaks).sum := by
    cases v.calls with
    | nil => rfl
    | cons call calls => simp [label, Text.breaks_intercalate comma]
  rw [details, List.map_map, indented, View.breaks, View.plainTexts]
  simp only [detailTexts, List.map_append, List.sum_append, List.map_cons, List.sum_cons,
    List.cons_append, types label.1, types label.2.2.1, value, complexity, parameters, calls]
  omega

def entry (depth : Nat) (v : View) : String :=
  String.join ((bullet depth v :: details depth v).map (· ++ "\n"))

theorem lines_entry (depth : Nat) (v : View) :
    lines (entry depth v) = (bullet depth v :: details depth v).flatMap fun t => lines (t ++ "\n") :=
  Text.lines_join_all _

/-- Without a line feed in its texts, the lines of a view are as they were written. -/
theorem lines_entry_of_unbroken (depth : Nat) {v : View} (flat : ∀ m ∈ v.modifier, Text.breaks m = 0)
    (unbroken : v.breaks = 0) : lines (entry depth v) = bullet depth v :: details depth v := by
  have total := breaks_details depth v
  rw [unbroken, Nat.add_eq_zero_iff, List.sum_eq_zero_iff] at total
  have each : ∀ t ∈ bullet depth v :: details depth v, Text.breaks t = 0 := by
    rw [List.forall_mem_cons, breaks_bullet depth flat]
    exact ⟨total.1, fun t member => total.2 _ (List.mem_map_of_mem member)⟩
  rw [lines_entry]
  refine (List.flatMap_congr fun t member => Text.lines_of_unbroken (each t member)).trans ?_
  exact List.flatMap_singleton' _

/-- How a view stands on a page: a line for it and one for each detail, each with what line feeds in the
texts put below it. There is one more line for each of these; without any, the details are all that is
below the first line. -/
structure Laid (depth : Nat) (v : View) (ls : List String) : Prop where
  length : ls.length = 1 + v.detailCount + v.breaks
  blocks : ∃ (own : List String) (below : List (List String)),
    ls = own ++ below.flatten ∧ below.length = v.detailCount ∧
    (∃ text later, own = (indentation depth ++ "- **" ++ text) :: later) ∧
    ∀ block ∈ below, ∃ label ∈ labels, ∃ text later,
      block = (indentation (depth + 1) ++ "- " ++ label ++ text) :: later
  below : v.breaks = 0 → ∀ line ∈ ls.tail,
    ∃ label ∈ labels, ∃ text, line = indentation (depth + 1) ++ "- " ++ label ++ text

theorem entry_laid (depth : Nat) {v : View} (flat : ∀ m ∈ v.modifier, Text.breaks m = 0) :
    Laid depth v (lines (entry depth v)) where
  length := by
    rw [lines_entry, Text.length_flatMap_lines, List.length_cons, length_details, List.map_cons,
      List.sum_cons, breaks_bullet depth flat, breaks_details]
    omega
  blocks := by
    refine ⟨lines (bullet depth v ++ "\n"), (details depth v).map fun t => lines (t ++ "\n"),
      ?_, ?_, ?_, ?_⟩
    · rw [lines_entry, List.flatMap_cons, List.flatMap_def]
    · rw [List.length_map, length_details]
    · obtain ⟨text, starts⟩ := bullet_mark depth v
      rw [starts]
      exact Text.lines_head (by simp [breaks_marks]) text
    · intro block member
      obtain ⟨line, listed, rfl⟩ := List.mem_map.mp member
      obtain ⟨label, known, text, rfl⟩ := details_label listed
      exact ⟨label, known, Text.lines_head (by simp [breaks_marks, breaks_label label known]) text⟩
  below unbroken line member := by
    rw [lines_entry_of_unbroken depth flat unbroken] at member
    exact details_label member

/-- The depth that a line is indented by, if it starts as the line of a view does. -/
def depth? (line : String) : Option Nat :=
  if "- **".toList.isPrefixOf (line.toList.dropWhile (· == ' ')) then
    some ((line.toList.takeWhile (· == ' ')).length / 2)
  else none

theorem indentation_toList (depth : Nat) :
    (indentation depth).toList = List.replicate (2 * depth) ' ' := by
  induction depth with
  | zero => rfl
  | succ depth ih =>
    have first : indentation (depth + 1) = "  " ++ indentation depth := by
      rw [indentation, Text.replicate, List.replicate_succ, String.join_cons]
      rfl
    have spaces : ("  " : String).toList = List.replicate 2 ' ' := by decide
    rw [first, String.toList_append, ih, spaces, List.replicate_append_replicate]
    congr 1
    omega

theorem depth?_indented (depth : Nat) {c : Char} (visible : c ≠ ' ') (rest : String) {text : List Char}
    (starts : rest.toList = c :: text) :
    depth? (indentation depth ++ rest) =
      if "- **".toList.isPrefixOf (c :: text) then some depth else none := by
  have spaces : ∀ s ∈ List.replicate (2 * depth) ' ', (s == ' ') = true := by
    intro s member
    rw [List.eq_of_mem_replicate member]
    rfl
  have dropped : (List.replicate (2 * depth) ' ' ++ c :: text).dropWhile (· == ' ') = c :: text := by
    rw [List.dropWhile_append_of_pos spaces, List.dropWhile_cons_of_neg (by simpa using visible)]
  have taken : (List.replicate (2 * depth) ' ' ++ c :: text).takeWhile (· == ' ') =
      List.replicate (2 * depth) ' ' := by
    rw [List.takeWhile_append_of_pos spaces, List.takeWhile_cons_of_neg (by simpa using visible),
      List.append_nil]
  rw [depth?, String.toList_append, indentation_toList, starts, dropped, taken, List.length_replicate,
    Nat.mul_div_cancel_left depth (by omega)]

theorem depth?_own (depth : Nat) (text : String) :
    depth? (indentation depth ++ "- **" ++ text) = some depth := by
  rw [String.append_assoc, depth?_indented depth (c := '-') (by decide) _ String.toList_append]
  rfl

theorem depth?_detail (depth : Nat) {label : String} (listed : label ∈ labels) (text : String) :
    depth? (indentation depth ++ "- " ++ label ++ text) = none := by
  -- both kinds of line start with a dash and a space; the third character tells them apart
  have letter : ∀ label ∈ labels, label.toList.head?.any ('*' != ·) := by decide
  obtain ⟨c, head, other⟩ := (Option.any_eq_true _ _).mp (letter label listed)
  obtain ⟨cs, starts⟩ := List.head?_eq_some_iff.mp head
  have marks : ("- " : String).toList = ['-', ' '] := by decide
  have dashed : ("- " ++ (label ++ text)).toList = '-' :: ' ' :: c :: (cs ++ text.toList) := by
    simp only [String.toList_append, marks, starts, List.cons_append, List.nil_append]
  have stars : ("- **" : String).toList = ['-', ' ', '*', '*'] := by decide
  simp only [String.append_assoc]
  rw [depth?_indented depth (by decide) _ dashed, stars]
  simp [List.isPrefixOf, bne_iff_ne.mp other]

mutual

theorem viewLines_eq (depth : Nat) : ∀ v : View, viewLines depth v =
    (View.placed depth v).flatMap fun e => bullet e.1 e.2 :: details e.1 e.2
  | ⟨_, _, _, _, _, _, _, _, _, _, children⟩ => by
    rw [viewLines, View.placed, List.flatMap_cons, viewsLines_eq (depth + 1) children]
    rfl

theorem viewsLines_eq (depth : Nat) : ∀ vs : List View, viewsLines depth vs =
    (View.placedAll depth vs).flatMap fun e => bullet e.1 e.2 :: details e.1 e.2
  | [] => rfl
  | v :: vs => by
    rw [viewsLines, View.placedAll, List.flatMap_append, viewLines_eq depth v, viewsLines_eq depth vs]

end

/-- The lines for one file: the heading, an empty line, and the lines of each view in order. -/
def page (detail : Detail) (file : String × List Definition) : List String :=
  let views := View.forest detail file.2
  lines ("## File: " ++ file.1 ++ "\n") ++ "" ::
    (if views.isEmpty then ["_No definitions found._"]
      else (View.placedAll 0 views).flatMap fun e => lines (entry e.1 e.2))

theorem flatMap_fileLines (detail : Detail) (file : String × List Definition) :
    (fileLines detail file).flatMap (fun t => lines (t ++ "\n")) = page detail file := by
  have empty : lines ("" ++ "\n") = [""] := Text.lines_of_unbroken (by decide)
  have notice : lines ("_No definitions found._" ++ "\n") = ["_No definitions found._"] :=
    Text.lines_of_unbroken (by decide)
  simp only [fileLines, page, List.flatMap_cons, empty, List.singleton_append]
  congr 2
  split
  · rw [List.flatMap_singleton, notice]
  · simp only [viewsLines_eq, List.flatMap_assoc, lines_entry]

/-- The pages of the files, with an empty line between one and the next. -/
theorem lines_markdown (catalog : Catalog) (detail : Detail) :
    lines (markdown catalog detail) = [""].intercalate (catalog.map (page detail)) := by
  unfold markdown
  induction catalog with
  | nil => rfl
  | cons file files ih =>
    cases files with
    | nil =>
      simp only [List.map_singleton, String.intercalate_singleton, List.intercalate_singleton,
        Text.lines_join_all, flatMap_fileLines]
    | cons next files =>
      -- a page ends with a line feed, so the one after it is an empty line
      have feed (rest : String) : lines ("\n" ++ rest) = "" :: lines rest := by
        have split := Text.lines_append "" rest
        rwa [Text.lines_of_unbroken (by decide), String.empty_append] at split
      simp only [List.map_cons] at ih ⊢
      rw [String.intercalate_cons_cons, List.intercalate_cons_cons, String.append_assoc, Text.lines_join,
        flatMap_fileLines, feed, ih, List.append_assoc, List.singleton_append]

theorem filterMap_depth?_entry (depth : Nat) {v : View} (flat : ∀ m ∈ v.modifier, Text.breaks m = 0)
    (unbroken : v.breaks = 0) : (lines (entry depth v)).filterMap depth? = [depth] := by
  have own : depth? (bullet depth v) = some depth := by
    obtain ⟨text, starts⟩ := bullet_mark depth v
    rw [starts, depth?_own]
  have below : (details depth v).filterMap depth? = [] := by
    rw [List.filterMap_eq_nil_iff]
    intro line member
    obtain ⟨label, listed, text, rfl⟩ := details_label member
    exact depth?_detail (depth + 1) listed text
  rw [lines_entry_of_unbroken depth flat unbroken, List.filterMap_cons_some own, below]

theorem depth?_heading (path : String) : depth? ("## File: " ++ path) = none := by
  have start : ("## File: " ++ path).toList = '#' :: ("# File: " ++ path).toList := by
    simp [String.toList_append]
  have read := depth?_indented 0 (by decide) _ start
  rwa [show indentation 0 = "" from rfl, String.empty_append] at read

theorem filterMap_depth?_page {detail : Detail} {file : String × List Definition}
    (path : Text.breaks file.1 = 0)
    (flat : ∀ e ∈ View.placedAll 0 (View.forest detail file.2), ∀ m ∈ e.2.modifier, Text.breaks m = 0)
    (unbroken : ∀ e ∈ View.placedAll 0 (View.forest detail file.2), e.2.breaks = 0) :
    (page detail file).filterMap depth? = (View.placedAll 0 (View.forest detail file.2)).map (·.1) := by
  have heading : lines ("## File: " ++ file.1 ++ "\n") = ["## File: " ++ file.1] :=
    Text.lines_of_unbroken (by rw [Text.breaks_append, path]; decide)
  have empty : depth? "" = none := by decide
  have notice : depth? "_No definitions found._" = none := by decide
  simp only [page, heading, List.singleton_append, List.filterMap_cons_none (depth?_heading _),
    List.filterMap_cons_none empty]
  split
  case isTrue none =>
    rw [List.filterMap_cons_none notice, List.isEmpty_iff.mp none]
    rfl
  case isFalse =>
    rw [List.filterMap_flatMap, List.map_eq_flatMap]
    exact List.flatMap_congr fun e member =>
      filterMap_depth?_entry e.1 (flat e member) (unbroken e member)

/-- How a catalogue is laid out: a page for each file, on which every view stands as it should, so that
the depths of all views are read off a page without line feeds in the texts of its views. -/
structure LaidOut (catalog : Catalog) (detail : Detail) : Prop where
  pages : lines (markdown catalog detail) = [""].intercalate (catalog.map (page detail))
  entries : ∀ file ∈ catalog, ∀ e ∈ View.placedAll 0 (View.forest detail file.2),
    Laid e.1 e.2 (lines (entry e.1 e.2))
  depths : ∀ file ∈ catalog, Text.breaks file.1 = 0 →
    (∀ e ∈ View.placedAll 0 (View.forest detail file.2), e.2.breaks = 0) →
    (page detail file).filterMap depth? = (View.placedAll 0 (View.forest detail file.2)).map (·.1)

theorem laidOut_of_indexed {catalog : Catalog} (indexed : ∀ file ∈ catalog, Indexed file.2)
    (detail : Detail) : LaidOut catalog detail := by
  have flat : ∀ file ∈ catalog, ∀ e ∈ View.placedAll 0 (View.forest detail file.2),
      ∀ m ∈ e.2.modifier, Text.breaks m = 0 := by
    intro file member e inside m present
    obtain ⟨d, listed, same⟩ := View.modifier_of_placed inside
    exact (indexed file member).flatModifier d listed m (same m present)
  exact {
    pages := lines_markdown catalog detail
    entries := fun file member e inside => entry_laid e.1 (flat file member e inside)
    depths := fun file member path unbroken => filterMap_depth?_page path (flat file member) unbroken }

/-- Every catalogue of indexed files is laid out this way at every level of detail, also after filters,
and so is what a scan collects. -/
theorem markdown_laid_out (detail : Detail) :
    (∀ catalog : Catalog, (∀ file ∈ catalog, Indexed file.2) → LaidOut catalog detail) ∧
    ∀ files directory options catalog, Scan.collect files directory options = .ok catalog →
      LaidOut catalog detail :=
  ⟨fun _ indexed => laidOut_of_indexed indexed detail,
    fun _ _ _ _ collected => laidOut_of_indexed (Scan.collect_indexed collected) detail⟩

/-- A function with a parameter, after a filter that keeps it: its depth is read off the page. -/
theorem markdown_laid_out_function :
    let part (kind : String) (field : Option String) (start stop : Nat) (children : List Node) : Node :=
      ⟨kind, field, ⟨start, stop⟩, true, false, false, false, children⟩
    let function : Node := part "function_declaration" none 0 16
      [part "identifier" (some "name") 9 10 [],
        part "formal_parameters" (some "parameters") 10 13 [part "identifier" none 11 12 []],
        part "statement_block" (some "body") 14 16 []]
    let defs := (Filter.ofOptions { maxParameters := some 1 }).apply
      (Index.ofSource (some Language.javascript) "a.js" "function f(a) \x7b\x7d"
        (some (part "program" none 0 16 [function])))
    (∀ file ∈ [("a.js", defs)], Indexed file.2) ∧ LaidOut [("a.js", defs)] .detailed ∧
      (page .detailed ("a.js", defs)).filterMap depth? = [0] := by
  intro part function defs
  have indexed : ∀ file ∈ [("a.js", defs)], Indexed file.2 :=
    List.forall_mem_singleton.mpr (.filtered _ (.source _ _ _ _))
  have laid := (markdown_laid_out .detailed).1 _ indexed
  have read := laid.depths _ List.mem_cons_self (by decide) (by decide +kernel)
  refine ⟨indexed, laid, read.trans ?_⟩
  decide +kernel

/-- A return type over several lines puts its later lines among those of the page. -/
theorem markdown_breaks_type :
    let token (kind : String) (start stop : Nat) : Node :=
      ⟨kind, none, ⟨start, stop⟩, false, false, false, false, []⟩
    let part (kind : String) (field : Option String) (start stop : Nat) (children : List Node) : Node :=
      ⟨kind, field, ⟨start, stop⟩, true, false, false, false, children⟩
    let type : Node := part "generic_type" none 14 29
      [part "type_identifier" (some "name") 14 17 [],
        part "type_arguments" (some "type_arguments") 17 29
          [token "<" 17 18, part "predefined_type" none 21 27 [token "string" 21 27], token ">" 28 29]]
    let function : Node := part "function_declaration" none 0 32
      [token "function" 0 8, part "identifier" (some "name") 9 10 [],
        part "formal_parameters" (some "parameters") 10 12 [token "(" 10 11, token ")" 11 12],
        part "type_annotation" (some "return_type") 12 29 [token ":" 12 13, type],
        part "statement_block" (some "body") 30 32 [token "\x7b" 30 31, token "\x7d" 31 32]]
    let text := "function f(): Set<\n  string\n> \x7b\x7d\n"
    let defs := Index.ofSource (some Language.typescript) "a.ts" text
      (some (part "program" none 0 33 [function]))
    (View.placedAll 0 (View.forest .detailed defs)).map (fun e => (e.1, e.2.detailCount)) = [(0, 2)] ∧
    lines (markdown [("a.ts", defs)] .detailed) = ["## File: a.ts", "",
      "- **function**: `f` (lines 1-3)", "  - Returns: `Set<", "  string", ">`", "  - Complexity: 1"] := by
  decide +kernel

end Render

end SourceOutline

import SourceOutline.Calls
import SourceOutline.Complexity
import SourceOutline.Error
import SourceOutline.FilePath
import SourceOutline.Hierarchy
import SourceOutline.Parameters

/-! The definitions of one file. -/
namespace SourceOutline

namespace Extracted

/-- The definition with what its subtree adds: parameters, calls and complexity of a callable. -/
def complete (language : Language) (src : Source) (e : Extracted) : Definition :=
  if e.definition.kind.callable then
    let parameters := match e.block with
      | some block => Parameter.ofBlock language src block
      | none => []
    let calls := match e.block with
      | some _ => Calls.below language src e.anchor
      | none => []
    { e.definition with
      parameters, calls, parameterCount := parameters.length
      complexity := Complexity.ofPlace src e.anchor }
  else e.definition

def navigator (src : Source) (es : List Extracted) : Navigator := fun d =>
  match es.findRev? (·.definition.id == d.id) with
  | some e => e.anchor.outward.map src.span
  | none => []

end Extracted

namespace Index

def ofTree (language : Language) (path : String) (src : Source) (root : Node) : List Definition :=
  let found := Extracted.definitions language src (.root root)
  let linked := Hierarchy.build (Extracted.navigator src found)
    (found.map (Extracted.complete language src))
  if root.faulty then
    linked ++ [Definition.metadata (linked.length + 1)
      ("Partial parse: " ++ path ++ " contains syntax errors")]
  else linked

def tryIndex (language? : Option Language) (path : String) (text : String) (tree : Option Node) :
    Except ScanError (List Definition) :=
  match language? with
  | none => .error (.unsupportedFileType (FilePath.fileType path))
  | some language =>
    if language.definitions.isEmpty then
      .error (.queryFailure language.name "no definition queries compiled")
    else
      match tree with
      | none => .error (.parseFailure path "parser produced no tree")
      | some root => .ok (ofTree language path (Source.ofText text) root)

/-- The catalogue of a source text; a failure becomes its single entry. -/
def ofSource (language? : Option Language) (path : String) (text : String) (tree : Option Node) :
    List Definition :=
  match tryIndex language? path text tree with
  | .ok defs => defs
  | .error e => [Definition.error 1 e.message]

end Index

end SourceOutline

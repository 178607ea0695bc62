import SourceOutline.Render.Json
import SourceOutline.Render.Markdown
import SourceOutline.Render.Xml

/-! The output formats. -/
namespace SourceOutline

inductive Format where
  | xml | markdown | json
deriving DecidableEq, Repr, Inhabited

namespace Format

def all : List Format := [xml, markdown, json]

def name : Format → String
  | xml => "xml"
  | markdown => "markdown"
  | json => "json"

def ofName? (s : String) : Option Format := all.find? (·.name == s)

/-- The format with this name, in any ASCII case; `md` is short for Markdown. -/
def ofText (s : String) : Except ScanError Format :=
  if Text.lower s == "md" then .ok markdown
  else
    match all.find? fun f => Text.sameIgnoringCase f.name s with
    | some f => .ok f
    | none => .error (.invalidArgument ("unknown output format: " ++ s))

end Format

namespace Render

def render (catalog : Catalog) (format : Format) (detail : Detail) : String :=
  match format with
  | .xml => xml catalog detail
  | .markdown => markdown catalog detail
  | .json => json catalog detail

end Render

end SourceOutline

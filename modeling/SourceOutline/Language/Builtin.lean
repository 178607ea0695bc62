import SourceOutline.FilePath
import SourceOutline.Language.Go
import SourceOutline.Language.Java
import SourceOutline.Language.JavaScript
import SourceOutline.Language.Python
import SourceOutline.Language.Rust
import SourceOutline.Language.TypeScript

/-! The languages known by file extension. -/
namespace SourceOutline.Language

def javascript : Language :=
  ⟨"javascript", ["js", "jsx", "mjs", "cjs"], JavaScript.definitions, some JavaScript.parameters,
    some JavaScript.calls⟩

def typescript : Language :=
  ⟨"typescript", ["ts", "mts", "cts"], TypeScript.definitions, some TypeScript.parameters,
    some TypeScript.calls⟩

def tsx : Language := { typescript with name := "tsx", extensions := ["tsx"] }

def python : Language :=
  ⟨"python", ["py", "pyi"], Python.definitions, some Python.parameters, some Python.calls⟩

def rust : Language :=
  ⟨"rust", ["rs"], Rust.definitions, some Rust.parameters, some Rust.calls⟩

def go : Language :=
  ⟨"go", ["go"], Go.definitions, some Go.parameters, some Go.calls⟩

def java : Language :=
  ⟨"java", ["java"], Java.definitions, some Java.parameters, some Java.calls⟩

def builtin : List Language := [javascript, typescript, tsx, python, rust, go, java]

/-- The language whose extensions include that of the path, in any ASCII case. -/
def forPath? (path : String) : Option Language := do
  let ext := Text.lower (← FilePath.extension? path)
  builtin.find? (·.extensions.contains ext)

def defaultPatterns : List String :=
  builtin.flatMap fun l => l.extensions.map ("*." ++ ·)

end SourceOutline.Language

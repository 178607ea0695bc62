import SourceOutline.Arguments
import SourceOutline.Calls
import SourceOutline.CharSet
import SourceOutline.CommandLine
import SourceOutline.CommandLine.Request
import SourceOutline.Complexity
import SourceOutline.Config
import SourceOutline.Cursor
import SourceOutline.Definition
import SourceOutline.Definition.Json
import SourceOutline.Discover
import SourceOutline.Distinct
import SourceOutline.Error
import SourceOutline.Extract
import SourceOutline.FilePath
import SourceOutline.Files
import SourceOutline.Files.Json
import SourceOutline.Filter
import SourceOutline.Filter.Options
import SourceOutline.Forest
import SourceOutline.Glob
import SourceOutline.Hierarchy
import SourceOutline.Index
import SourceOutline.Json
import SourceOutline.Json.Record
import SourceOutline.Kind
import SourceOutline.Language
import SourceOutline.Language.Builtin
import SourceOutline.Language.Go
import SourceOutline.Language.Java
import SourceOutline.Language.JavaScript
import SourceOutline.Language.Python
import SourceOutline.Language.Rust
import SourceOutline.Language.TypeScript
import SourceOutline.Main
import SourceOutline.Nesting
import SourceOutline.Parameters
import SourceOutline.Query
import SourceOutline.Query.Text
import SourceOutline.Regex
import SourceOutline.Regex.Text
import SourceOutline.Render
import SourceOutline.Render.Json
import SourceOutline.Render.Markdown
import SourceOutline.Render.Xml
import SourceOutline.Scan
import SourceOutline.Source
import SourceOutline.Text
import SourceOutline.Toml
import SourceOutline.Toml.Text
import SourceOutline.Tree
import SourceOutline.Tree.Json
import SourceOutline.Unicode
import SourceOutline.Unicode.Category
import SourceOutline.Unicode.Fold
import SourceOutline.Unicode.Property
import SourceOutline.Unicode.Script
import SourceOutline.View
import SourceOutline.Xml
import SourceOutline.Proofs.Ancestors
import SourceOutline.Proofs.Anchors
import SourceOutline.Proofs.BareBlocks
import SourceOutline.Proofs.Breaks
import SourceOutline.Proofs.Bytes
import SourceOutline.Proofs.Catalogue
import SourceOutline.Proofs.Configuration
import SourceOutline.Proofs.Decisions
import SourceOutline.Proofs.DefaultSelection
import SourceOutline.Proofs.Directories
import SourceOutline.Proofs.Discovery
import SourceOutline.Proofs.Distinct
import SourceOutline.Proofs.Endings
import SourceOutline.Proofs.Extraction
import SourceOutline.Proofs.Finds
import SourceOutline.Proofs.Forest
import SourceOutline.Proofs.InPlace
import SourceOutline.Proofs.Innermost
import SourceOutline.Proofs.JsonCatalog
import SourceOutline.Proofs.JsonText
import SourceOutline.Proofs.Layout
import SourceOutline.Proofs.Levels
import SourceOutline.Proofs.Lineage
import SourceOutline.Proofs.Lines
import SourceOutline.Proofs.Links
import SourceOutline.Proofs.Lookup
import SourceOutline.Proofs.Members
import SourceOutline.Proofs.Nesting
import SourceOutline.Proofs.OwnParameters
import SourceOutline.Proofs.ParameterText
import SourceOutline.Proofs.Parents
import SourceOutline.Proofs.Passes
import SourceOutline.Proofs.Paths
import SourceOutline.Proofs.Places
import SourceOutline.Proofs.Positions
import SourceOutline.Proofs.Reach
import SourceOutline.Proofs.Records
import SourceOutline.Proofs.Refilter
import SourceOutline.Proofs.Relink
import SourceOutline.Proofs.Scan
import SourceOutline.Proofs.Search
import SourceOutline.Proofs.Segments
import SourceOutline.Proofs.Siblings
import SourceOutline.Proofs.Sites
import SourceOutline.Proofs.Spacing
import SourceOutline.Proofs.StableSort
import SourceOutline.Proofs.Stricter
import SourceOutline.Proofs.Survivors
import SourceOutline.Proofs.Text
import SourceOutline.Proofs.Walk
import SourceOutline.Proofs.Workers
import SourceOutline.Proofs.XmlCatalog
import SourceOutline.Proofs.XmlGrammar
import SourceOutline.Proofs.XmlText

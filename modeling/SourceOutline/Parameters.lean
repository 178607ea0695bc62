import SourceOutline.Extract

/-! The parameters of a callable: from its parameter query, or from the text of its block. -/
namespace SourceOutline.Parameter

/-- The nearest place above of the same kind as the block is the block. -/
def belongsTo (block place : Place) : Bool :=
  match place.ancestors.find? (·.node.kind == block.node.kind) with
  | some a => a.same block
  | none => false

/-- The parameter that a match describes, with the offset of its name. -/
def ofMatch? (src : Source) (block : Place) (m : Match) : Option (Nat × Parameter) := do
  let place ← m.first? "param_name"
  let name := Text.trim (src.text place)
  if belongsTo block place && !name.isEmpty then
    let type := (m.first? "param_type").bind fun p => Text.nonempty? (normalizeType (src.text p))
    return (place.node.range.start, ⟨name, type⟩)
  else none

/-- The parameters that a query finds in a block: the first find at each offset, by offset. -/
def ofQuery (q : Query) (src : Source) (block : Place) : List Parameter :=
  let found := (q.run block).filterMap (ofMatch? src block)
  (firstPerKey (·.1) (found.mergeSort fun a b => decide (a.1 ≤ b.1))).map (·.2)

def ofTyped? (piece : List Char) : Option Parameter :=
  let isName (c : Char) : Bool := c != ':' && !Text.isBlank c
  let name := piece.takeWhile isName
  match Text.trimLeft (piece.dropWhile isName) with
  | ':' :: rest =>
    let type := Text.trimChars rest
    if name.isEmpty || type.isEmpty || type.contains '\n' then none
    else some ⟨String.ofList name, some (String.ofList type)⟩
  | _ => none

def ofWords? (piece : List Char) : Option Parameter :=
  let words := (Text.wordsOf piece).map String.ofList
  match words.getLast? with
  | none => none
  | some name =>
    let type := words.dropLast
    some ⟨name, if type.isEmpty then none else some (" ".intercalate type)⟩

def ofPiece? (piece : List Char) : Option Parameter :=
  let bare := Text.trimChars (Text.before '=' piece)
  if bare.isEmpty then none else ofTyped? bare <|> ofWords? bare

/-- The text inside a pair of parentheses around it, or all of it. -/
def stripParentheses (cs : List Char) : List Char :=
  match cs with
  | '(' :: rest => (Text.beforeLast? ')' rest).getD cs
  | _ => cs

def pieces (cs : List Char) : List Parameter := (cs.splitOn ',').filterMap ofPiece?

def split (raw : String) : List Parameter :=
  let inner := Text.trimChars (stripParentheses (Text.trimChars raw.toList))
  if inner.isEmpty then [] else pieces inner

/-- The parameters of a block: those that the query finds, or else the pieces of its text. -/
def ofBlock (language : Language) (src : Source) (block : Place) : List Parameter :=
  let found := match language.parameters with
    | some q => if q.captures "param_name" then ofQuery q src block else []
    | none => []
  if found.isEmpty then split (src.text block) else found

end SourceOutline.Parameter

import SourceOutline.Files
import SourceOutline.Tree.Json

/-! Snapshots as JSON: an object with the members `dirs`, `files` and `links`, each optional. -/
namespace SourceOutline.Files

def bytesOfHex? : List Char → Option (List UInt8)
  | [] => some []
  | [_] => none
  | a :: b :: rest => do
    let high ← Json.hexValue? a
    let low ← Json.hexValue? b
    return UInt8.ofNat (high * 16 + low) :: (← bytesOfHex? rest)

/-- Absent and null are the same. -/
def optional (v : Json) (key : String) (read : Json → Option α) : Option (Option α) :=
  match v.member? key with
  | none | some .null => some none
  | some m => (read m).map some

/-- A content given as text or as bytes, not both; with neither it is empty. -/
def contentOfJson? (text hex : String) (v : Json) : Option (Option ByteArray) := do
  match ← optional v text Json.toStr?, ← optional v hex Json.toStr? with
  | some _, some _ => none
  | some s, none => return some s.toUTF8
  | none, some h => return some ⟨(← bytesOfHex? h.toList).toArray⟩
  | none, none => return none

def fileOfJson? (v : Json) : Option (String × File) := do
  let path ← (← v.member? "path").toStr?
  let bytes ← contentOfJson? "text" "hex" v
  let tree ← optional v "tree" Node.ofJson?
  return (path, { bytes := bytes.getD .empty, tree })

def linkOfJson? : Json → Option (String × String)
  | .arr [link, target] => do return (← link.toStr?, ← target.toStr?)
  | _ => none

def fresh : Files where
  top := .directory {} [("snapshot", .empty)]
  here := ["snapshot"]

/-- The directories, then the files, then the links, each put into what is there already. -/
def ofJson? (v : Json) : Option Files := do
  let dirs ← optional v "dirs" Json.toStrs?
  let files ← optional v "files" (Json.toListOf? fileOfJson?)
  let links ← optional v "links" (Json.toListOf? linkOfJson?)
  let made ← (dirs.getD []).foldlM (fun made path => (makeDirectories made path).toOption) fresh
  let filled ← (files.getD []).foldlM (fun made (path, f) => (create made path f).toOption) made
  (links.getD []).foldlM (fun made (path, target) => (link made path target).toOption) filled

/-- A blank text describes an empty directory. -/
def ofText? (text : String) : Option Files :=
  if text.toList.all Text.isBlank then some fresh else (Json.parse text).bind ofJson?

end SourceOutline.Files

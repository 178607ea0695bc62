import SourceOutline.Definition

/-! Source text by bytes: slices, and the lines that a byte range covers. -/
namespace SourceOutline

/-- Byte offsets into a source, `stop` excluded. -/
structure ByteRange where
  start : Nat
  stop : Nat
deriving DecidableEq, Repr, Inhabited

/-- A source with the offsets of its line feeds, in order. -/
structure Source where
  bytes : ByteArray
  breaks : List Nat

namespace Source

def breaksFrom (offset : Nat) : List UInt8 → List Nat
  | [] => []
  | b :: bs => if b = 10 then offset :: breaksFrom (offset + 1) bs else breaksFrom (offset + 1) bs

def ofText (text : String) : Source :=
  let bytes := text.toUTF8
  { bytes, breaks := breaksFrom 0 bytes.toList }

/-- The text of a range, empty if it cuts a character. -/
def slice (s : Source) (r : ByteRange) : String :=
  (String.fromUTF8? (s.bytes.extract r.start r.stop)).getD ""

def row (s : Source) (offset : Nat) : Nat := s.breaks.countP (· < offset)

/-- The offset stands right after a line feed, or at the very start. -/
def atLineStart (s : Source) (offset : Nat) : Bool :=
  offset == 0 || s.breaks.any (· + 1 == offset)

/-- The lines of a range. A range that ends at the start of a later line than its own first one does
not reach into that line. -/
def lineSpan (s : Source) (r : ByteRange) : LineSpan :=
  let first := s.row r.start
  let last := s.row r.stop
  ⟨first + 1, (if s.atLineStart r.stop && first < last then last - 1 else last) + 1⟩

end Source

end SourceOutline

import Gazetteer.Text.Lines
import Gazetteer.Text.Utf8

/-! # Source texts

A source text is a sequence of bytes. Syntax trees point into it by byte offsets; readers are told
lines and character columns.
-/

namespace Gazetteer

structure Source where
  bytes : List UInt8
  deriving DecidableEq

/-- A place counted in line feeds before it and bytes since the last of them. -/
structure Point where
  row : Nat
  column : Nat
  deriving DecidableEq, Repr

/-- A span with lines counted from one and columns from zero. The columns count bytes as long as a
position is read off a tree, and characters in a finished table. -/
structure Position where
  startLine : Nat
  startColumn : Nat
  endLine : Nat
  endColumn : Nat
  deriving DecidableEq, Repr

namespace Source

def ofChars (cs : List Char) : Source := ⟨Text.Utf8.encode cs⟩

def ofString (s : String) : Source := ofChars s.toList

def lineFeed : UInt8 := 0x0A

def slice (src : Source) (start stop : Nat) : List UInt8 :=
  (src.bytes.drop start).take (stop - start)

def text (src : Source) (start stop : Nat) : String :=
  String.ofList (Text.Utf8.decodeLossy (src.slice start stop))

def lines (src : Source) : List (List UInt8) := Text.splitAt lineFeed src.bytes

def point (src : Source) (offset : Nat) : Point :=
  let before := src.bytes.take offset
  ⟨before.count lineFeed, (before.reverse.takeWhile (· != lineFeed)).length⟩

def position (src : Source) (start stop : Nat) : Position :=
  let a := src.point start
  let b := src.point stop
  ⟨a.row + 1, a.column, b.row + 1, b.column⟩

def characterColumn (src : Source) (row column : Nat) : Nat :=
  (Text.Utf8.decodeLossy ((src.lines.getD row []).take column)).length

/-- A position with columns in bytes, rewritten with columns in characters. -/
def inCharacters (src : Source) (p : Position) : Position where
  startLine := p.startLine
  startColumn := src.characterColumn (p.startLine - 1) p.startColumn
  endLine := p.endLine
  endColumn := src.characterColumn (p.endLine - 1) p.endColumn

end Source

end Gazetteer

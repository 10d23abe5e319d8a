import Gazetteer.Text.CodePage
import Gazetteer.Text.Lines
import Gazetteer.Text.Utf8

/-! # Encodings

The text of any sequence of bytes. Bytes that are no UTF-8 are read by a code page, the one with
more printable characters first; the other one reads everything.
-/

namespace Gazetteer.Text

inductive Encoding where
  | utf8
  | windows1252
  | latin1
  deriving DecidableEq

namespace Encoding

def inTurn : List Encoding := [utf8, windows1252, latin1]

/-- The characters of a byte sequence, if it is one of the encoding. -/
def decode? : Encoding → List UInt8 → Option (List Char)
  | utf8, bytes => Utf8.decode? bytes
  | windows1252, bytes => CodePage.windows1252? bytes
  | latin1, bytes => some (CodePage.latin1 bytes)

end Encoding

/-- The characters of a byte sequence in the first encoding that it can be read in. -/
def decode? (bytes : List UInt8) : Option (List Char) :=
  Encoding.inTurn.findSome? (·.decode? bytes)

theorem isSome_decode? (bytes : List UInt8) : (decode? bytes).isSome = true :=
  List.findSome?_isSome_iff.mpr ⟨.latin1, by simp [Encoding.inTurn], rfl⟩

/-- The text of a file, every line end a line feed. -/
def ofBytes (bytes : List UInt8) : String :=
  String.ofList (unifyNewlines ((decode? bytes).get (isSome_decode? bytes)))

def linesOfBytes (bytes : List UInt8) : List String :=
  (splitLines (unifyNewlines (Utf8.decodeLossy bytes))).map String.ofList

end Gazetteer.Text

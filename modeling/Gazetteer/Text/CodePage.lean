/-! # Single-byte code pages

`windows1252` leaves five bytes without a character; `latin1` gives every byte the character of
the same number.
-/

namespace Gazetteer.Text.CodePage

/-- The code points of the bytes 80 to 9F in the Windows code page 1252; zero where undefined. -/
def windowsPoints : List Nat :=
  [0x20AC, 0, 0x201A, 0x0192, 0x201E, 0x2026, 0x2020, 0x2021, 0x02C6, 0x2030, 0x0160, 0x2039,
    0x0152, 0, 0x017D, 0, 0, 0x2018, 0x2019, 0x201C, 0x201D, 0x2022, 0x2013, 0x2014, 0x02DC,
    0x2122, 0x0161, 0x203A, 0x0153, 0, 0x017E, 0x0178]

def windowsChar? (b : UInt8) : Option Char :=
  if b < 0x80 || 0xA0 ≤ b then some (Char.ofNat b.toNat)
  else match windowsPoints[b.toNat - 0x80]? with
    | none | some 0 => none
    | some n => some (Char.ofNat n)

def windows1252? (bytes : List UInt8) : Option (List Char) := bytes.mapM windowsChar?

def latin1 (bytes : List UInt8) : List Char := bytes.map fun b => Char.ofNat b.toNat

end Gazetteer.Text.CodePage

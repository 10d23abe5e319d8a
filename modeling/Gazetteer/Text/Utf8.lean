/-! # UTF-8

`pieces` reads bytes as the longest well-formed sequences: each piece is a character, or nothing
for a longest beginning of a sequence that cannot be completed. Strict decoding wants a character
in every piece; lossy decoding writes U+FFFD for a piece that has none.
-/

namespace Gazetteer.Text.Utf8

def isTail (b : UInt8) : Bool := 0x80 ≤ b && b ≤ 0xBF

/-- The second bytes that may follow a given first byte of a sequence of three or four. -/
def isSecond (a b : UInt8) : Bool :=
  (if a = 0xE0 then 0xA0 else if a = 0xF0 then 0x90 else 0x80) ≤ b &&
    b ≤ (if a = 0xED then 0x9F else if a = 0xF4 then 0x8F else 0xBF)

def char2 (a b : UInt8) : Char :=
  Char.ofNat ((a.toNat - 0xC0) * 0x40 + (b.toNat - 0x80))

def char3 (a b c : UInt8) : Char :=
  Char.ofNat (((a.toNat - 0xE0) * 0x40 + (b.toNat - 0x80)) * 0x40 + (c.toNat - 0x80))

def char4 (a b c d : UInt8) : Char :=
  Char.ofNat ((((a.toNat - 0xF0) * 0x40 + (b.toNat - 0x80)) * 0x40 + (c.toNat - 0x80)) * 0x40 +
    (d.toNat - 0x80))

def pieces : List UInt8 → List (Option Char)
  | [] => []
  | a :: r =>
    if a < 0x80 then some (Char.ofNat a.toNat) :: pieces r
    else if 0xC2 ≤ a && a ≤ 0xDF then
      match r with
      | [] => [none]
      | b :: r₁ => if isTail b then some (char2 a b) :: pieces r₁ else none :: pieces (b :: r₁)
    else if 0xE0 ≤ a && a ≤ 0xEF then
      match r with
      | [] => [none]
      | b :: r₁ =>
        if isSecond a b then
          match r₁ with
          | [] => [none]
          | c :: r₂ =>
            if isTail c then some (char3 a b c) :: pieces r₂ else none :: pieces (c :: r₂)
        else none :: pieces (b :: r₁)
    else if 0xF0 ≤ a && a ≤ 0xF4 then
      match r with
      | [] => [none]
      | b :: r₁ =>
        if isSecond a b then
          match r₁ with
          | [] => [none]
          | c :: r₂ =>
            if isTail c then
              match r₂ with
              | [] => [none]
              | d :: r₃ =>
                if isTail d then some (char4 a b c d) :: pieces r₃ else none :: pieces (d :: r₃)
            else none :: pieces (c :: r₂)
        else none :: pieces (b :: r₁)
    else none :: pieces r

def decode? (bytes : List UInt8) : Option (List Char) := (pieces bytes).mapM id

/-- The characters of any byte sequence, with U+FFFD where no character can be read. -/
def decodeLossy (bytes : List UInt8) : List Char :=
  (pieces bytes).map (·.getD (Char.ofNat 0xFFFD))

def encodeChar (c : Char) : List UInt8 :=
  let n := c.toNat
  if n < 0x80 then [n.toUInt8]
  else if n < 0x800 then [(0xC0 + n / 0x40).toUInt8, (0x80 + n % 0x40).toUInt8]
  else if n < 0x10000 then
    [(0xE0 + n / 0x1000).toUInt8, (0x80 + n / 0x40 % 0x40).toUInt8, (0x80 + n % 0x40).toUInt8]
  else
    [(0xF0 + n / 0x40000).toUInt8, (0x80 + n / 0x1000 % 0x40).toUInt8,
      (0x80 + n / 0x40 % 0x40).toUInt8, (0x80 + n % 0x40).toUInt8]

def encode (cs : List Char) : List UInt8 := cs.flatMap encodeChar

def width (c : Char) : Nat :=
  if c.toNat < 0x80 then 1 else if c.toNat < 0x800 then 2 else if c.toNat < 0x10000 then 3 else 4

end Gazetteer.Text.Utf8

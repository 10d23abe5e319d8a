/-! # Lines

`unifyNewlines` writes every line end as a line feed. `splitLines` cuts a text at every line
boundary of the Unicode standard, and `splitAt` at one given character.
-/

namespace Gazetteer.Text

/-- Write a carriage return, with or without a line feed after it, as one line feed. -/
def unifyNewlines : List Char → List Char
  | [] => []
  | '\r' :: '\n' :: r => '\n' :: unifyNewlines r
  | '\r' :: r => '\n' :: unifyNewlines r
  | c :: r => c :: unifyNewlines r

def lineEnds : List Nat := [0x0A, 0x0B, 0x0C, 0x0D, 0x1C, 0x1D, 0x1E, 0x85, 0x2028, 0x2029]

def isLineEnd (c : Char) : Bool := lineEnds.contains c.toNat

/-- The lines of a text without their ends; a final line end opens no further line. -/
def splitLines : List Char → List (List Char)
  | [] => []
  | '\r' :: '\n' :: r => [] :: splitLines r
  | c :: r =>
    if isLineEnd c then [] :: splitLines r
    else match splitLines r with
      | [] => [[c]]
      | l :: ls => (c :: l) :: ls

/-- The pieces between the occurrences of a value; one more than there are occurrences. -/
def splitAt {α : Type} [DecidableEq α] (sep : α) : List α → List (List α)
  | [] => [[]]
  | a :: r =>
    if a = sep then [] :: splitAt sep r
    else match splitAt sep r with
      | [] => [[a]]
      | l :: ls => (a :: l) :: ls

end Gazetteer.Text

import Gazetteer.Reading.Reader
import Gazetteer.Text.Blank

/-! # Python lexemes

White space, comments, words, punctuators and numbers, and the indentation of lines. A line break
is white space inside brackets and ends a statement elsewhere.
-/

namespace Gazetteer.Python.Grammar

open Gazetteer.Reading

def isSpace (c : Char) : Bool :=
  Text.inRanges [(0x09, 0x09), (0x0B, 0x0D), (0x20, 0x20), (0x85, 0x85), (0xA0, 0xA0),
    (0x1680, 0x1680), (0x2000, 0x200B), (0x2028, 0x2029), (0x202F, 0x202F), (0x205F, 0x2060),
    (0x3000, 0x3000), (0xFEFF, 0xFEFF)] c.toNat

def isSpaceOrBreak (c : Char) : Bool := c == '\n' || isSpace c

def comment : Reader Forest := leaf "comment" true do
  exact "#"
  skipWhile (· != '\n')

def continuation : Reader Forest := leaf "line_continuation" true do
  exact "\\"
  exact "\r\n" <|> exact "\n" <|> do require (← atEnd)

def gap (space : Char → Bool) : Reader Forest := do
  skipWhile space
  many do
    let c ← comment <|> continuation
    skipWhile space
    return c

/-- White space and comments; line breaks count as white space inside brackets only. -/
def trivia : Reader Forest := fun i =>
  gap (if i.nesting = 0 then isSpace else isSpaceOrBreak) i

def statementTrivia : Reader Forest := gap isSpaceOrBreak

/-! ## Words and punctuators -/

def isWordStart (c : Char) : Bool :=
  c.isAlpha || c == '_' || (0x80 ≤ c.toNat && !isSpace c)

def isWordPart (c : Char) : Bool := isWordStart c || c.isDigit

def wordAhead : Reader String := do
  match ← rest with
  | c :: r => return if isWordStart c then String.ofList (c :: r.takeWhile isWordPart) else ""
  | [] => return ""

def reservedWords : List String :=
  ["False", "None", "True", "and", "as", "assert", "break", "class", "continue", "def", "del",
    "elif", "else", "except", "finally", "for", "from", "global", "if", "import", "in", "is",
    "lambda", "nonlocal", "not", "or", "pass", "raise", "return", "try", "while", "with", "yield"]

def keyword (s : String) : Reader Forest := trivia ++ leaf s false do
  require ((← wordAhead) == s)
  exact s

def namedWord (kind s : String) : Reader Forest := do
  return (← keyword s).map fun n => if isExtra n then n else { n with kind, named := true }

def identifier : Reader Forest := trivia ++ leaf "identifier" true do
  require (!reservedWords.contains (← wordAhead))
  let _ ← sat isWordStart
  skipWhile isWordPart

def punctuators : List String :=
  ["**=", "//=", ">>=", "<<=", "...", "**", "//", ">>", "<<", "<=", ">=", "==", "!=", "<>", "->",
    ":=", "+=", "-=", "*=", "/=", "%=", "&=", "|=", "^=", "@=", "(", ")", "[", "]", "\x7b", "\x7d",
    ",", ":", ".", ";", "@", "=", "+", "-", "*", "/", "%", "&", "|", "^", "~", "<", ">"]

def punctuatorOf (cs : List Char) : Option String :=
  punctuators.find? fun p => p.toList.isPrefixOf cs

def punct (s : String) : Reader Forest := trivia ++ leaf s false do
  require (punctuatorOf (← rest) == some s)
  exact s

def sign (s : String) : Reader Forest := trivia ++ leaf s false (exact s)

def bracketed (opening closing : String) (r : Reader Forest) : Reader Forest :=
  punct opening ++ nested (r ++ sign closing)

/-! ## Numbers -/

def digitsOf (p : Char → Bool) : Reader Unit := skipSome fun c => p c || c == '_'

def optional (r : Reader Unit) : Reader Unit := r <|> pure ()

def isHexDigit (c : Char) : Bool :=
  c.isDigit || ('a' ≤ c && c ≤ 'f') || ('A' ≤ c && c ≤ 'F')

def radixNumber (letters : String) (p : Char → Bool) : Reader Unit := do
  exact "0"
  let _ ← sat letters.toList.contains
  digitsOf p
  optional do let _ ← sat "lL".toList.contains

def exponent : Reader Unit := do
  let _ ← sat fun c => c == 'e' || c == 'E'
  optional do let _ ← sat fun c => c == '+' || c == '-'
  digitsOf Char.isDigit

def fractionNumber : Reader Unit := do
  (do digitsOf Char.isDigit
      exact "."
      skipWhile fun c => c.isDigit || c == '_'
      optional exponent) <|>
    (do exact "."
        digitsOf Char.isDigit
        optional exponent) <|>
    (do digitsOf Char.isDigit
        exponent)
  optional do let _ ← sat "jJ".toList.contains

def number : Reader Forest := trivia ++ oneOf [
  leaf "float" true fractionNumber,
  leaf "integer" true (radixNumber "xX" isHexDigit <|> radixNumber "oO" Char.isDigit <|>
    radixNumber "bB" Char.isDigit <|> do
      digitsOf Char.isDigit
      optional do let _ ← sat "lLjJ".toList.contains)]

/-! ## Lines -/

/-- The next line with something on it: its indentation, and that of the first comment before it. -/
structure Layout where
  indent : Nat
  comment : Option Nat
  deriving DecidableEq

def dropComment : List Char → List Char
  | [] => []
  | '\n' :: r => r
  | _ :: r => dropComment r

def layoutFrom : Nat → (ended : Bool) → (indent : Nat) → (firstComment : Option Nat) →
    List Char → Option Layout
  | 0, _, _, _, _ => none
  | n + 1, ended, indent, first, cs =>
    match cs with
    | [] => some ⟨0, first⟩
    | '\n' :: r => layoutFrom n true 0 first r
    | ' ' :: r => layoutFrom n ended (indent + 1) first r
    | '\t' :: r => layoutFrom n ended (indent + 8) first r
    | '\r' :: r | '\x0c' :: r => layoutFrom n ended 0 first r
    | '#' :: r =>
      if ended then layoutFrom n ended 0 (some (first.getD indent)) (dropComment r) else none
    | '\\' :: '\r' :: '\n' :: r | '\\' :: '\n' :: r => layoutFrom n ended indent first r
    | _ => if ended then some ⟨indent, first⟩ else none

def layout : Reader (Option Layout) := fun i =>
  some (layoutFrom (i.left + 1) false 0 none i.rest, i)

/-- The block that is indented by `indent` is over before the next line; comments that are
indented like the block still belong to it. -/
def Layout.leaves (l : Layout) (indent : Nat) : Bool :=
  l.indent < indent && l.comment.all (· < indent)

def lineEndUpTo : Nat → Reader Forest
  | 0 => failure
  | n + 1 => do
    match ← layout with
    | some _ => mark
    | none =>
      skipWhile isSpace
      (comment <|> continuation) ++ lineEndUpTo n

def lineEnd : Reader Forest := fun i => lineEndUpTo (i.left + 1) i

end Gazetteer.Python.Grammar

import Gazetteer.Python.Grammar.Goal

/-! # Strings

Strings with their letters and quotes, and the expressions inside formatted strings.
-/

namespace Gazetteer.Python.Grammar

open Gazetteer.Reading

/-- How a string is written: its quote, once or three times, and what its letters change. -/
structure StringStyle where
  quote : Char
  triple : Bool
  raw : Bool
  formatted : Bool

namespace StringStyle

def delimiter (s : StringStyle) : List Char :=
  List.replicate (if s.triple then 3 else 1) s.quote

end StringStyle

def stringStart : Reader (Forest × StringStyle) := do
  let cs ← rest
  let letters := cs.takeWhile fun c => "rRbBuUfFtT".toList.contains c
  require (letters.length ≤ 2)
  match cs.drop letters.length with
  | q :: r => do
    require (q == '"' || q == '\'')
    let style : StringStyle :=
      { quote := q
        triple := [q, q].isPrefixOf r
        raw := letters.any fun c => c == 'r' || c == 'R'
        formatted := letters.any fun c => "fFtT".toList.contains c }
    let opening ← leaf "string_start" true (exactly (letters ++ style.delimiter))
    return (opening, style)
  | [] => failure

def contentCharacter (s : StringStyle) : Reader Unit := do
  require (!s.delimiter.isPrefixOf (← rest))
  match ← rest with
  | '\\' :: '\r' :: '\n' :: _ => exactly ['\\', '\r', '\n']
  | '\\' :: c :: _ => do
    require (!(s.formatted && (c == '\x7b' || c == '\x7d')))
    exactly ['\\', c]
  | '\x7b' :: '\x7b' :: _ => exactly ['\x7b', '\x7b']
  | '\x7d' :: '\x7d' :: _ => exactly ['\x7d', '\x7d']
  | c :: _ => do
    require (!(s.formatted && (c == '\x7b' || c == '\x7d')))
    require (s.triple || c != '\n')
    exactly [c]
  | [] => failure

def loneBackslash : Reader Unit := do
  exact "\\"
  require ((← rest).head?.any fun c => c == '\x7b' || c == '\x7d')

def manyUnits : Nat → Reader Unit → Reader Unit
  | 0, _ => pure ()
  | n + 1, r => (do r; manyUnits n r) <|> pure ()

def stringContent (s : StringStyle) : Reader Forest := leaf "string_content" true do
  contentCharacter s <|> loneBackslash
  fun i => manyUnits (i.left + 1) (contentCharacter s <|> loneBackslash) i

def yielded (g : Rules) : Reader Forest :=
  node "yield" (keyword "yield" ++
    ((keyword "from" ++ g .expression) <|> opt (expressions g)))

def formatText : Reader Forest := leaf "format_text" false
  (skipSome fun c => c != '\x7b' && c != '\x7d' && c != '\n')

def interpolation (g : Rules) : Reader Forest :=
  node "interpolation" (sign "\x7b" ++ nested (
    role "expression" (yielded g <|> expressions g) ++
    opt (sign "=") ++
    opt (role "type_conversion" (trivia ++ leaf "type_conversion" true do
      exact "!"
      skipSome Char.isAlpha)) ++
    opt (role "format_specifier" (node "format_specifier"
      (sign ":" ++ many (formatText <|> g .interpolation)))) ++
    sign "\x7d"))

def plainString (g : Rules) : Reader Forest := trivia ++ node "string" do
  let (opening, style) ← stringStart
  let inside ← many (if style.formatted then stringContent style <|> g .interpolation
    else stringContent style)
  let closing ← leaf "string_end" true (exactly style.delimiter)
  return opening ++ inside ++ closing

def strings (g : Rules) : Reader Forest := do
  let f ← many1 (plainString g)
  return if (f.filter (!isExtra ·)).length = 1 then f else enclose "concatenated_string" f

end Gazetteer.Python.Grammar

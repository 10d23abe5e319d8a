import Gazetteer.Reading.Reader
import Gazetteer.Text.Blank

/-! # JavaScript lexemes

White space and comments, words, punctuators and literals without inner structure, and the rule
that ends a statement at a line break.
-/

namespace Gazetteer.JavaScript.Grammar

open Gazetteer.Reading

def extraSpaces : List Nat := [0xFEFF, 0x2060, 0x200B]

/-- Separators of information are no white space in a program. -/
def isSpace (c : Char) : Bool :=
  extraSpaces.contains c.toNat ||
    Text.inRanges [(0x09, 0x0D), (0x20, 0x20), (0x85, 0x85), (0xA0, 0xA0), (0x1680, 0x1680),
      (0x2000, 0x200A), (0x2028, 0x2029), (0x202F, 0x202F), (0x205F, 0x205F),
      (0x3000, 0x3000)] c.toNat

def isLineBreak (c : Char) : Bool := c == '\n' || c.toNat == 0x2028 || c.toNat == 0x2029

def blockCommentTail : List Char → Option (List Char × List Char)
  | [] => none
  | '*' :: '/' :: r => some (['*', '/'], r)
  | c :: r => (blockCommentTail r).map fun (inside, after) => (c :: inside, after)

def lineComment : Reader Unit := do
  exact "//"
  skipWhile fun c => !isLineBreak c && c != '\r'

def blockComment : Reader Unit := do
  exact "/*"
  match blockCommentTail (← rest) with
  | some (inside, _) => exactly inside
  | none => failure

def comment : Reader Forest := leaf "comment" true (lineComment <|> blockComment)

def trivia : Reader Forest := do
  skipWhile isSpace
  many do
    let c ← comment
    skipWhile isSpace
    return c

/-- Comments in the style of markup, which stand at the beginning of statements only. -/
def markupComment : Reader Forest :=
  leaf "html_comment" true do
    (exact "<!--" <|> exact "-->")
    skipWhile fun c => !isLineBreak c

def statementTrivia : Reader Forest :=
  trivia ++ many (markupComment ++ trivia)

/-! ## Words -/

def isWordStart (c : Char) : Bool :=
  !(c.toNat < 0x20 || c.isDigit || isSpace c ||
    ":;\x60\"'@#.,|^&<=>+-*/\\%?!~()[]\x7b\x7d".toList.contains c)

def isWordPart (c : Char) : Bool := isWordStart c || c.isDigit

def isHexDigit (c : Char) : Bool :=
  c.isDigit || ('a' ≤ c && c ≤ 'f') || ('A' ≤ c && c ≤ 'F')

def wordEscape : Reader Unit := do
  exact "\\u"
  (do exact "\x7b"; skipSome isHexDigit; exact "\x7d") <|>
    (do let _ ← sat isHexDigit; let _ ← sat isHexDigit; let _ ← sat isHexDigit
        let _ ← sat isHexDigit)

def wordTail : Reader Forest := do
  skipWhile isWordPart
  many do
    wordEscape
    skipWhile isWordPart
    nothing

def word : Reader Unit := do
  (do let _ ← sat isWordStart) <|> wordEscape
  let _ ← wordTail

def wordAhead : Reader (List Char) := do
  match ← rest with
  | c :: r => return if isWordStart c then c :: r.takeWhile isWordPart else []
  | [] => return []

def reservedWords : List String :=
  ["break", "case", "catch", "class", "const", "continue", "debugger", "default", "delete", "do",
    "else", "extends", "false", "finally", "for", "function", "if", "import", "in",
    "instanceof", "new", "null", "return", "super", "switch", "this", "throw", "true", "try",
    "typeof", "var", "void", "while", "with"]

def keyword (s : String) : Reader Forest := trivia ++ leaf s false do
  require ((← wordAhead) == s.toList)
  exact s

def namedWord (kind s : String) : Reader Forest := renamed kind (keyword s) >>= fun f =>
  return f.map fun n => { n with named := true }

def identifierAs (kind : String) : Reader Forest := trivia ++ leaf kind true do
  require (!(reservedWords.contains (String.ofList (← wordAhead))))
  word

def identifier : Reader Forest := identifierAs "identifier"

def anyWordAs (kind : String) : Reader Forest := trivia ++ leaf kind true word

def privateName : Reader Forest := trivia ++ leaf "private_property_identifier" true do
  exact "#"
  word

/-! ## Punctuators -/

def punctuators : List String :=
  [">>>=", "...", "===", "!==", "**=", "<<=", ">>=", ">>>", "&&=", "||=", "??=", "=>", "==", "!=",
    "<=", ">=", "&&", "||", "??", "?.", "++", "--", "+=", "-=", "*=", "/=", "%=", "&=", "|=", "^=",
    "<<", ">>", "**", "\x7b", "\x7d", "(", ")", "[", "]", ";", ",", "<", ">", "+", "-", "*", "/",
    "%", "&", "|", "^", "!", "~", "?", ":", "=", ".", "@"]

/-- The longest punctuator that begins the text; a chain into a decimal fraction is a question
mark. -/
def punctuatorOf (cs : List Char) : Option String :=
  match cs with
  | '?' :: '.' :: d :: _ => if d.isDigit then some "?" else some "?."
  | _ => punctuators.find? fun p => p.toList.isPrefixOf cs

def punct (s : String) : Reader Forest := trivia ++ leaf s false do
  require (punctuatorOf (← rest) == some s)
  exact s

def sign (s : String) : Reader Forest := trivia ++ leaf s false (exact s)

def tightSign (s : String) : Reader Forest := leaf s false (exact s)

/-! ## Literals -/

def digitsOf (p : Char → Bool) : Reader Unit := skipSome fun c => p c || c == '_'

def optional (r : Reader Unit) : Reader Unit := r <|> pure ()

def exponent : Reader Unit := do
  let _ ← sat fun c => c == 'e' || c == 'E'
  optional do let _ ← sat fun c => c == '+' || c == '-'
  digitsOf Char.isDigit

def radixNumber (letters : String) (p : Char → Bool) : Reader Unit := do
  exact "0"
  let _ ← sat letters.toList.contains
  digitsOf p
  optional (exact "n")

def decimalNumber : Reader Unit := do
  (do digitsOf Char.isDigit
      exact "n" <|> do
        optional do
          exact "."
          skipWhile fun c => c.isDigit || c == '_'
        optional exponent) <|> do
    exact "."
    digitsOf Char.isDigit
    optional exponent

def number : Reader Forest := trivia ++ leaf "number" true
  (radixNumber "xX" isHexDigit <|> radixNumber "oO" Char.isDigit <|>
    radixNumber "bB" Char.isDigit <|> decimalNumber)

def isOctalDigit (c : Char) : Bool := '0' ≤ c && c ≤ '7'

def escapeSequence : Reader Forest := leaf "escape_sequence" true do
  exact "\\"
  (do exact "u\x7b"; skipSome isHexDigit; exact "\x7d") <|>
    (do exact "u"; let _ ← sat isHexDigit; let _ ← sat isHexDigit; let _ ← sat isHexDigit
        let _ ← sat isHexDigit) <|>
    (do exact "x"; let _ ← sat isHexDigit; let _ ← sat isHexDigit) <|>
    (do let _ ← sat isOctalDigit
        optional do let _ ← sat isOctalDigit
        optional do let _ ← sat isOctalDigit) <|>
    exact "\r\n" <|>
    (do let _ ← sat fun c => c != 'x' && c != 'u')

def quotedString (quote : String) : Reader Forest :=
  tightSign quote ++
    many (leaf "string_fragment" true
        (skipSome fun c => !quote.toList.contains c && c != '\\' && c != '\r' && c != '\n') <|>
      escapeSequence) ++
    tightSign quote

def string : Reader Forest :=
  trivia ++ node "string" (quotedString "\"" <|> quotedString "'")

def regexBody : (inClass escaped : Bool) → List Char → List Char
  | _, _, [] => []
  | inClass, true, c :: r => if c == '\n' then [] else c :: regexBody inClass false r
  | inClass, false, c :: r =>
    if c == '\n' then []
    else if c == '\\' then c :: regexBody inClass true r
    else if c == '[' then c :: regexBody true false r
    else if c == ']' then c :: regexBody false false r
    else if c == '/' && !inClass then []
    else c :: regexBody inClass false r

def regex : Reader Forest := trivia ++ node "regex"
  (tightSign "/" ++
    role "pattern" (leaf "regex_pattern" true do
      let body := regexBody false false (← rest)
      require (!body.isEmpty && body.head? != some '*')
      exactly body) ++
    tightSign "/" ++
    opt (role "flags" (leaf "regex_flags" true (skipSome Char.isLower))))

/-! ## Automatic semicolons

A statement may end without a semicolon at the end of the text, before a closing brace, or at a
line break after which the text begins anew. Comments are looked through, except where an
expression may go on after them.
-/

def isGap (c : Char) : Bool :=
  Text.inRanges [(0x09, 0x0D), (0x20, 0x20), (0x1680, 0x1680), (0x2000, 0x2006),
    (0x2008, 0x200A), (0x2028, 0x2029), (0x205F, 0x205F), (0x3000, 0x3000)] c.toNat

def dropLine : List Char → List Char
  | [] => []
  | c :: r => if isLineBreak c then c :: r else dropLine r

def dropBlock : (broken : Bool) → List Char → Bool × List Char
  | broken, [] => (broken, [])
  | broken, '*' :: '/' :: r => (broken, r)
  | broken, c :: r => dropBlock (broken || isLineBreak c) r

def afterComments : Nat → List Char → Option (List Char)
  | 0, cs => some cs
  | n + 1, cs =>
    match cs with
    | '/' :: '/' :: r => afterComments n (dropLine r)
    | '/' :: '*' :: r => afterComments n (dropBlock false r).2
    | '/' :: _ => none
    | c :: r => if isGap c then afterComments n r else some (c :: r)
    | [] => some []

/-- The text after line comments and the space between them, or after the first block comment.
The flag tells whether a line ends on the way. -/
def afterComment : Nat → (broken : Bool) → List Char → Option (Bool × List Char)
  | 0, broken, cs => some (broken, cs)
  | n + 1, broken, cs =>
    match cs with
    | '/' :: '/' :: r => afterComment n broken (dropLine r)
    | '/' :: '*' :: r =>
      let (broken', after) := dropBlock broken r
      if after.head? == some '/' then afterComment n broken' after else some (broken', after)
    | '/' :: _ => none
    | c :: r => if isGap c then afterComment n broken r else some (true, c :: r)
    | [] => some (true, [])

def beginsAnew : List Char → Bool
  | [] => true
  | '.' :: r => r.head?.any Char.isDigit
  | '+' :: r => r.head? == some '+'
  | '-' :: r => r.head? == some '-'
  | '!' :: r => r.head? != some '='
  | 'i' :: 'n' :: r =>
    (if "stanceof".toList.isPrefixOf r then r.drop 8 else r).head?.any isWordPart
  | c :: _ => !"\x60,:;*%><=[(?^|&/".toList.contains c

/-- A statement may end here; `mid` tells that an expression may go on here. -/
def endsHere (mid : Bool) : Nat → List Char → Bool
  | 0, _ => true
  | n + 1, cs =>
    match cs with
    | [] => true
    | '}' :: _ => true
    | '/' :: _ =>
      match afterComment (n + 1) false cs with
      | none => false
      | some (broken, after) =>
        if broken && !mid && after.head? != some ',' && after.head? != some '=' then true
        else match after with
          | [] => false
          | '}' :: _ => true
          | c :: r =>
            if isLineBreak c then (afterComments (n + 1) r).any beginsAnew
            else isGap c && endsHere mid n r
    | c :: r =>
      if isLineBreak c then (afterComments (n + 1) r).any beginsAnew
      else isGap c && endsHere mid n r

def statementEnds (mid : Bool) : Reader Bool := fun i =>
  some (endsHere mid (i.left + 1) i.rest, i)

def endMarkUpTo (mid : Bool) : Nat → Reader Forest
  | 0 => failure
  | n + 1 => do
    if ← statementEnds mid then mark
    else do
      skipWhile isSpace
      comment ++ endMarkUpTo mid n

def endMark (mid : Bool) : Reader Forest := fun i => endMarkUpTo mid (i.left + 1) i

def semicolon (mid : Bool) : Reader Forest := do
  if ← statementEnds mid then mark else punct ";" <|> endMark mid

end Gazetteer.JavaScript.Grammar

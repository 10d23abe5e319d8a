import Gazetteer.Regex
import Gazetteer.Text.Blank

/-! # Ignore globs

One line of an ignore file. Blank lines, comments and negations name nothing; any other line
compiles to an expression for the paths it ignores.
-/

namespace Gazetteer.Ignore

inductive GlobToken where
  /-- Two stars: any text without a line feed. -/
  | anyText
  /-- One star: any text without a slash. -/
  | anyName
  /-- A question mark: any character but a slash. -/
  | anyChar
  | literal (c : Char)
  deriving DecidableEq

def GlobToken.toRegex : GlobToken → Regex
  | anyText => .run .visible
  | anyName => .run .nonSlash
  | anyChar => .one .nonSlash
  | literal c => .char c

def globTokens : List Char → List GlobToken
  | [] => []
  | '*' :: '*' :: r => .anyText :: globTokens r
  | '*' :: r => .anyName :: globTokens r
  | '?' :: r => .anyChar :: globTokens r
  | c :: r => .literal c :: globTokens r

/-- What a line of an ignore file asks to ignore. -/
inductive Glob where
  /-- The package directory at the base, written as a bare name. -/
  | packages
  /-- A body that must stand at the base, or anywhere. -/
  | body (anchored : Bool) (tokens : List GlobToken)
  deriving DecidableEq

namespace Glob

/-- The body of a line without trailing slashes, and whether slashes led it. -/
def splitBody (cs : List Char) : Bool × List Char :=
  match Text.dropEndWhile (· == '/') cs with
  | '/' :: r => (true, r.dropWhile (· == '/'))
  | '*' :: '*' :: '/' :: r => (false, r)
  | r => (false, r)

/-- The glob of a line; none for blank lines, comments, negations and slashes alone. -/
def ofLine? (line : String) : Option Glob :=
  let cs := Text.trimChars line.toList
  match cs with
  | [] | '#' :: _ | '!' :: _ => none
  | _ =>
    if cs = "node_modules".toList || cs = "node_modules/".toList then some packages
    else match splitBody cs with
      | (_, []) => none
      | (anchored, b) => some (body anchored (globTokens b))

/-- The end of a path, or a slash and what lies below. -/
def below : Regex := .alt .finish (.seq [.char '/', .run .visible])

/-- The beginning of a path, or any directories. -/
def anywhere : Regex := .alt .start (.seq [.run .visible, .char '/'])

/-- A name at the beginning of a path, followed by the end or a slash. -/
def topName (name : String) : Regex :=
  .seq [.start, .literal name, .alt .finish (.char '/')]

def toRegex : Glob → Regex
  | packages => topName "node_modules"
  | body true ts => .cat .start (.cat (.seq (ts.map (·.toRegex))) below)
  | body false ts => .cat anywhere (.cat (.seq (ts.map (·.toRegex))) below)

end Glob

/-- The expression of a line of an ignore file, if the line names anything. -/
def compileLine (line : String) : Option Regex := (Glob.ofLine? line).map Glob.toRegex

end Gazetteer.Ignore

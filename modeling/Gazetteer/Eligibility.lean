import Gazetteer.Path
import Gazetteer.Regex.Stars
import Gazetteer.Text.LetterCase

/-! # Eligible files

A file is eligible for analysis when one of the caller's patterns fits it or, without patterns,
when its suffix is one of the supported ones.
-/

namespace Gazetteer

/-- The suffix of a path in small letters and without its dot. -/
def Path.kind (p : String) : String :=
  Text.lower (String.ofList ((Path.suffix p).toList.drop 1))

inductive FilePattern where
  /-- A whole base name, each star standing for any characters. -/
  | star (pattern : String)
  /-- The end of a base name, dot included. -/
  | ending (suffix : String)
  /-- A suffix in any letter case. -/
  | kind (suffix : String)
  deriving DecidableEq

namespace FilePattern

def ofString (s : String) : FilePattern :=
  if s.toList.contains '*' then star s
  else if s.toList.head? = some '.' then ending s
  else kind s

def fits : FilePattern → (path : String) → Bool
  | star pattern, p => (starExpression pattern).matchStart (Path.baseName p)
  | ending suffix, p => suffix.toList.isSuffixOf (Path.baseName p).toList
  | kind suffix, p => Path.kind p == Text.lower suffix

end FilePattern

def fitsPattern (path pattern : String) : Bool := (FilePattern.ofString pattern).fits path

def isEligible (supported patterns : List String) (path : String) : Bool :=
  match patterns with
  | [] => (supported.map Text.lower).contains (Path.kind path)
  | _ => patterns.any (fitsPattern path)

end Gazetteer

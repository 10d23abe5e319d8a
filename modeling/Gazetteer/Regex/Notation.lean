import Gazetteer.Regex

/-! # The notation of expressions

`read` takes the usual notation of an expression from left to right, with the groups that are still
open kept on a stack. `escape` writes a text so that it is read as itself.
-/

namespace Gazetteer.Regex

/-- What has been read of a group: its finished alternatives and the pieces of the one at hand, the
last ones first. -/
structure Group where
  finished : List Regex
  pieces : List Regex

namespace Group

def opened : Group := ⟨[], []⟩

def add (g : Group) (r : Regex) : Group := { g with pieces := r :: g.pieces }

def turn (g : Group) : Group := ⟨seq g.pieces.reverse :: g.finished, []⟩

def close (g : Group) : Regex := g.finished.foldl (fun r a => .alt a r) (seq g.pieces.reverse)

end Group

def metaChars : List Char := "()[]\x7b\x7d?*+|^$\\.".toList

/-- Read on in a group, with the groups around it on a stack. Letters and digits after a backslash,
classes other than the one of all but slashes, and repetitions of other pieces are refused. -/
def readFrom (outer : List Group) (g : Group) : List Char → Option Regex
  | [] => if outer.isEmpty then some g.close else none
  | '(' :: cs => readFrom (g :: outer) .opened cs
  | '|' :: cs => readFrom outer g.turn cs
  | ')' :: cs =>
    match outer with
    | [] => none
    | h :: outer => readFrom outer (h.add g.close) cs
  | '^' :: cs => readFrom outer (g.add .start) cs
  | '$' :: cs => readFrom outer (g.add .finish) cs
  | '.' :: '*' :: cs => readFrom outer (g.add (.run .visible)) cs
  | '.' :: cs => readFrom outer (g.add (.one .visible)) cs
  | '[' :: '^' :: '/' :: ']' :: '*' :: cs => readFrom outer (g.add (.run .nonSlash)) cs
  | '[' :: '^' :: '/' :: ']' :: cs => readFrom outer (g.add (.one .nonSlash)) cs
  | '\\' :: c :: cs => if c.isAlphanum then none else readFrom outer (g.add (.char c)) cs
  | c :: cs => if metaChars.contains c then none else readFrom outer (g.add (.char c)) cs

/-- The expression that a text is the notation of. -/
def read (text : String) : Option Regex := readFrom [] .opened text.toList

def escape (text : List Char) : List Char := text.flatMap fun c => (printChar c).toList

end Gazetteer.Regex

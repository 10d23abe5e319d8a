/-! # Regular expressions

The expressions that ignore rules and file patterns compile to: characters, runs of a character
class, alternatives and the two anchors. `print` writes the usual notation, and `search` looks for
a match anywhere in a text.
-/

namespace Gazetteer

inductive CharClass where
  /-- Any character but a line feed. -/
  | visible
  /-- Any character but a slash. -/
  | nonSlash
  deriving DecidableEq

namespace CharClass

def has : CharClass → Char → Bool
  | visible, c => c != '\n'
  | nonSlash, c => c != '/'

def print : CharClass → String
  | visible => "."
  | nonSlash => "[^/]"

end CharClass

inductive Regex where
  | empty
  | char (c : Char)
  | one (cls : CharClass)
  | run (cls : CharClass)
  | start
  /-- The end of the text, or the place before a line feed that ends it. -/
  | finish
  | cat (a b : Regex)
  | alt (a b : Regex)
  deriving DecidableEq

namespace Regex

def specialChars : List Char := "()[]\x7b\x7d?*+-|^$\\.&~# \t\n\r\x0b\x0c".toList

def printChar (c : Char) : String :=
  if specialChars.contains c then String.ofList ['\\', c] else String.ofList [c]

def print : Regex → String
  | empty => ""
  | char c => printChar c
  | one cls => cls.print
  | run cls => cls.print ++ "*"
  | start => "^"
  | finish => "$"
  | cat a b => a.print ++ b.print
  | alt a b => "(" ++ a.print ++ "|" ++ b.print ++ ")"

def seq (rs : List Regex) : Regex := rs.foldr cat empty

def literal (s : String) : Regex := seq (s.toList.map char)

/-- Consume characters of the class as long as possible, then fewer, until `k` agrees. -/
def acceptsRun (cls : CharClass) (k : Bool → List Char → Bool) : Bool → List Char → Bool
  | atStart, [] => k atStart []
  | atStart, c :: r => (cls.has c && acceptsRun cls k false r) || k atStart (c :: r)

/-- Some match at this place leaves a rest that `k` agrees to; the flag tells whether the place is
the beginning of the whole text. -/
def accepts : Regex → (Bool → List Char → Bool) → Bool → List Char → Bool
  | empty, k, atStart, s => k atStart s
  | char _, _, _, [] => false
  | char c, k, _, x :: r => x == c && k false r
  | one _, _, _, [] => false
  | one cls, k, _, x :: r => cls.has x && k false r
  | run cls, k, atStart, s => acceptsRun cls k atStart s
  | start, k, atStart, s => atStart && k atStart s
  | finish, k, atStart, s => (s == [] || s == ['\n']) && k atStart s
  | cat a b, k, atStart, s => a.accepts (b.accepts k) atStart s
  | alt a b, k, atStart, s => a.accepts k atStart s || b.accepts k atStart s

def searchFrom (r : Regex) : Bool → List Char → Bool
  | atStart, [] => r.accepts (fun _ _ => true) atStart []
  | atStart, c :: s => r.accepts (fun _ _ => true) atStart (c :: s) || searchFrom r false s

def search (r : Regex) (s : String) : Bool := r.searchFrom true s.toList

/-- A match begins at the beginning of the text. -/
def matchStart (r : Regex) (s : String) : Bool := r.accepts (fun _ _ => true) true s.toList

end Regex

end Gazetteer

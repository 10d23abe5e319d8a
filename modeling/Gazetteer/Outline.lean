import Gazetteer.Fault

/-! # Outlines

What a directory holds, as an indented tree of text. An outline is made of lines; those that tell
about entries are kept apart from those that tell about the symbols in a file.
-/

namespace Gazetteer

/-- An entry of a directory that is shown, with a note on each file. -/
inductive Branch (α : Type) where
  | file (name : String) (size : Nat) (note : α)
  | folder (name : String) (inside : List (Branch α))
  /-- A directory that is one of those above it. -/
  | loop (name : String)
  /-- This stands in place of the entries of a directory that cannot be listed. -/
  | fault (fault : Fault)

inductive Line where
  | entry (text : String)
  | note (text : String)
  deriving DecidableEq

namespace Line

def text : Line → String
  | entry s | note s => s

def isEntry : Line → Bool
  | entry _ => true
  | note _ => false

end Line

namespace Outline

def stem (last : Bool) : String := if last then "└── " else "├── "

def below (indent : String) (last : Bool) : String := indent ++ if last then "    " else "│   "

def fileLine (indent : String) (last : Bool) (name : String) (size : Nat) : Line :=
  .entry (indent ++ stem last ++ name ++ s!" ({size} KB)\n")

def folderLine (indent : String) (last : Bool) (name : String) : Line :=
  .entry (indent ++ stem last ++ name ++ "/\n")

def faultLine (indent : String) (f : Fault) : Line :=
  .entry (indent ++ "Error: " ++ f.message ++ "\n")

/-- What is said of a path that leads nowhere; nothing follows it, not even a line end. -/
def missingLine (indent path : String) : Line :=
  .entry (indent ++ "Path does not exist: " ++ path)

mutual

/-- The lines of one entry; `describe` yields the lines of a note at a given indentation. -/
def linesOf {α : Type} (describe : String → α → List String) (indent : String) (last : Bool) :
    Branch α → List Line
  | .file name size note =>
    fileLine indent last name size :: (describe (below indent last) note).map .note
  | .folder name inside =>
    folderLine indent last name :: linesOfAll describe (below indent last) inside
  | .loop name => [folderLine indent last name]
  | .fault f => [faultLine indent f]

def linesOfAll {α : Type} (describe : String → α → List String) (indent : String) :
    List (Branch α) → List Line
  | [] => []
  | b :: bs => linesOf describe indent bs.isEmpty b ++ linesOfAll describe indent bs

end

mutual

def notesOf {α : Type} : Branch α → List α
  | .file _ _ note => [note]
  | .folder _ inside => notesOfAll inside
  | .loop _ | .fault _ => []

def notesOfAll {α : Type} : List (Branch α) → List α
  | [] => []
  | b :: bs => notesOf b ++ notesOfAll bs

end

def text (lines : List Line) : String := String.join (lines.map Line.text)

end Outline

end Gazetteer

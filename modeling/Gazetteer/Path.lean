import Gazetteer.Text.Blank
import Gazetteer.Text.Lines

/-! # Paths

Slash-separated paths as texts. `normalize` reduces a path without looking at any disk, and
`relativeTo` spells one path from another.
-/

namespace Gazetteer.Path

def components (p : String) : List String := (Text.splitAt '/' p.toList).map String.ofList

def isAbsolute (p : String) : Bool := p.toList.head? == some '/'

/-- Two leading slashes stand for themselves, any other number for one. -/
def leadingSlashes (p : String) : Nat :=
  match p.toList with
  | '/' :: '/' :: '/' :: _ => 1
  | '/' :: '/' :: _ => 2
  | '/' :: _ => 1
  | _ => 0

def pushComponent (rooted : Bool) (reduced : List String) (c : String) : List String :=
  if c = "" || c = "." then reduced
  else if c = ".." then
    match reduced with
    | [] => if rooted then [] else [c]
    | d :: ds => if d = ".." then c :: reduced else ds
  else c :: reduced

/-- Drop empty components and dots, and let two dots cancel the component before them. -/
def reduceComponents (rooted : Bool) (cs : List String) : List String :=
  (cs.foldl (pushComponent rooted) []).reverse

/-- The shortest spelling of a path that can be found without a disk. -/
def normalize (p : String) : String :=
  let slashes := leadingSlashes p
  let reduced := reduceComponents (slashes != 0) (components p)
  if slashes = 0 && reduced.isEmpty then "."
  else String.ofList (List.replicate slashes '/') ++ "/".intercalate reduced

def baseName (p : String) : String := (components p).getLastD ""

def parent (p : String) : String :=
  let head := Text.dropEndWhile (· != '/') p.toList
  String.ofList (if head.all (· == '/') then head else Text.dropEndWhile (· == '/') head)

def join (dir name : String) : String :=
  if isAbsolute name then name
  else match dir.toList.getLast? with
    | none | some '/' => dir ++ name
    | some _ => dir ++ "/" ++ name

/-- A text that an entry of a directory can go by. -/
def isName (name : String) : Bool :=
  name != "" && name != "." && name != ".." && !name.toList.contains '/'

/-- The path that a trail of names leads to from a directory. -/
def descend (dir : String) (trail : List String) : String := trail.foldl join dir

@[simp] theorem descend_nil (dir : String) : descend dir [] = dir := rfl

@[simp] theorem descend_cons (dir name : String) (trail : List String) :
    descend dir (name :: trail) = descend (join dir name) trail := rfl

/-- The last dot of the base name and what follows it; leading dots do not count. -/
def suffix (p : String) : String :=
  let core := (baseName p).toList.dropWhile (· == '.')
  if core.contains '.' then
    String.ofList ('.' :: (core.reverse.takeWhile (· != '.')).reverse)
  else ""

/-- The components of a path that is read below `home` if it is relative. -/
def absoluteComponents (home p : String) : List String :=
  reduceComponents true (components (if isAbsolute p then p else join home p))

/-- Climb from `start` to the nearest common directory and descend to `target`. -/
def relativeComponents : (start target : List String) → List String
  | s :: start, t :: target =>
    if s = t then relativeComponents start target
    else List.replicate (start.length + 1) ".." ++ t :: target
  | start, target => List.replicate start.length ".." ++ target

def relativeTo (home start p : String) : String :=
  match relativeComponents (absoluteComponents home start) (absoluteComponents home p) with
  | [] => "."
  | cs => "/".intercalate cs

end Gazetteer.Path

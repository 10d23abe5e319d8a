import Gazetteer.Fault
import Gazetteer.Ignore.Rules
import Gazetteer.Text.Encoding

/-! # Storage

What a survey can learn about files and directories. A path leads to a site; different paths may
lead to the same one, since links are followed. There are finitely many directories, whatever the
number of paths to them, and no two entries of a directory have the same name.
-/

namespace Gazetteer

/-- The names from the top directory down to a place, links excluded. -/
abbrev Location := List String

inductive Content where
  | file (bytes : List UInt8)
  | directory (names : List String)
  deriving DecidableEq

/-- What a path leads to. -/
structure Site where
  location : Location
  content : Content
  deriving DecidableEq

inductive Operation where
  | list
  | measure
  | read
  /-- Open a file for the ignore rules in it. -/
  | consult
  deriving DecidableEq

structure Storage where
  /-- The directory below which relative paths are spelt. -/
  home : String
  find : String → Except Cause Site
  directories : List Location
  location_mem {path : String} {location : Location} {names : List String}
    (h : find path = .ok ⟨location, .directory names⟩) : location ∈ directories
  names_nodup {path : String} {location : Location} {names : List String}
    (h : find path = .ok ⟨location, .directory names⟩) : names.Nodup
  isName_of_mem {path : String} {location : Location} {names : List String}
    (h : find path = .ok ⟨location, .directory names⟩) {name : String} (hn : name ∈ names) :
    Path.isName name = true
  /-- What goes wrong when an operation is tried on a path. -/
  trouble : Operation → String → Option Cause

namespace Storage

def isDirectory (s : Storage) (path : String) : Bool :=
  match s.find path with
  | .ok ⟨_, .directory _⟩ => true
  | _ => false

/-- Run an operation on what a path leads to. -/
def attempt {α : Type} (s : Storage) (op : Operation) (path : String)
    (f : Content → Except Cause α) : Except Fault α :=
  match s.trouble op path with
  | some cause => .error ⟨cause, path⟩
  | none =>
    match s.find path with
    | .error cause => .error ⟨cause, path⟩
    | .ok site =>
      match f site.content with
      | .error cause => .error ⟨cause, path⟩
      | .ok a => .ok a

/-- The names of the entries of a directory. -/
def names (s : Storage) (path : String) : Except Fault (List String) :=
  s.attempt .list path fun
    | .directory names => .ok names
    | .file _ => .error .notDirectory

def directoryBytes : Nat := 4096

/-- The nearest number of at most 53 significant binary digits; of two, the even one. -/
def roundToDouble (n : Nat) : Nat :=
  let unit := Nat.pow 2 (n.log2 + 1 - 53)
  let floor := n / unit
  let rest := 2 * (n % unit)
  if rest < unit || rest = unit && floor % 2 = 0 then floor * unit else (floor + 1) * unit

/-- The size in units of 1024 bytes, rounded up. The quotient is taken in double precision. -/
def kilobytes (bytes : Nat) : Nat := (roundToDouble bytes + 1023) / 1024

def size (s : Storage) (path : String) : Except Fault Nat :=
  s.attempt .measure path fun
    | .directory _ => .ok (kilobytes directoryBytes)
    | .file bytes => .ok (kilobytes bytes.length)

def text (s : Storage) (path : String) : Except Fault String :=
  match s.trouble .read path with
  | some cause => .error ⟨cause, path⟩
  | none =>
    match s.find path with
    | .error _ => .error ⟨.absent, path⟩
    | .ok ⟨_, .directory _⟩ => .error ⟨.isDirectory, path⟩
    | .ok ⟨_, .file bytes⟩ => .ok (Text.ofBytes bytes)

def ignoreFile : String := ".gitignore"

/-- The rules in an ignore file; none if there is no such file or if it cannot be opened. -/
def ignoreRules (s : Storage) (path : String) : Ignore.Rules :=
  match s.find path with
  | .ok ⟨_, .file bytes⟩ =>
    match s.trouble .consult path with
    | some _ => []
    | none => .ofLines (Text.linesOfBytes bytes) (Path.parent path)
  | _ => []

end Storage

end Gazetteer

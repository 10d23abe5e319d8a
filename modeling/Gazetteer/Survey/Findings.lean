import Gazetteer.Eligibility
import Gazetteer.Language.Cabinet
import Gazetteer.Listing
import Gazetteer.Summary
import Gazetteer.Survey.Visible

/-! # Findings

A survey shows the visible entries below a directory and reads the symbols of the eligible files
among them, down to some depth. What cannot be read is shown like a file without symbols.
-/

namespace Gazetteer.Survey

structure Scope where
  /-- Where the built-in ignore rules hold. -/
  root : String
  /-- Whether files are read at all. -/
  analyze : Bool := false
  /-- The kinds of symbols that are listed below a file. -/
  kinds : List SymbolKind := []
  /-- The patterns that files are chosen by; without patterns, the suffixes of languages decide. -/
  patterns : List String := []
  /-- The depth of the lowest files that are read; entries of the root have depth zero. -/
  depth : Int := Summary.defaultDepth

/-- Files at a depth are read if analysis has come down to their directory. -/
def Scope.readsAt (scope : Scope) (active : Bool) (depth : Int) : Bool :=
  active && depth ≤ scope.depth

def Scope.descendsAt (scope : Scope) (active : Bool) (depth : Int) : Bool :=
  active && depth < scope.depth

/-- The symbol table of a file, if the file is covered and can be read. -/
def tableOf (s : Storage) (scope : Scope) (active : Bool) (depth : Int) (path : String)
    (c : Cabinet) : Option SymbolTable × Cabinet :=
  if scope.readsAt active depth && isEligible Language.allKinds scope.patterns path then
    match s.text path with
    | .ok text => c.extract path text
    | .error _ => (none, c)
  else (none, c)

mutual

/-- The entry of a directory with the symbol tables of the files. -/
def annotate (s : Storage) (scope : Scope) (active : Bool) (depth : Int) (dir : String) :
    Branch Unit → Cabinet → Branch (Option SymbolTable) × Cabinet
  | .file name size _, c =>
    let (table, c') := tableOf s scope active depth (Path.join dir name) c
    (.file name size table, c')
  | .folder name inside, c =>
    let (inside', c') := annotateAll s scope (scope.descendsAt active depth) (depth + 1)
      (Path.join dir name) inside c
    (.folder name inside', c')
  | .loop name, c => (.loop name, c)
  | .fault f, c => (.fault f, c)

def annotateAll (s : Storage) (scope : Scope) (active : Bool) (depth : Int) (dir : String) :
    List (Branch Unit) → Cabinet → List (Branch (Option SymbolTable)) × Cabinet
  | [], c => ([], c)
  | b :: bs, c =>
    let (b', c₁) := annotate s scope active depth dir b c
    let (bs', c₂) := annotateAll s scope active depth dir bs c₁
    (b' :: bs', c₂)

end

def describe (kinds : List SymbolKind) (indent : String) : Option SymbolTable → List String
  | none => []
  | some t => Listing.countsLine t indent :: Listing.lines t kinds indent

/-- Where a survey begins, and what has been found on the way there. -/
structure Station where
  dir : String
  inherited : Ignore.Rules := []
  indent : String := ""
  depth : Int := 0

structure Findings where
  lines : List Line
  tally : Tally
  deriving DecidableEq

namespace Findings

def text (f : Findings) : String := Outline.text f.lines

def ofBranches (kinds : List SymbolKind) (indent : String)
    (branches : List (Branch (Option SymbolTable))) : Findings where
  lines := Outline.linesOfAll (describe kinds) indent branches
  tally := Tally.empty.recordAll ((Outline.notesOfAll branches).filterMap id)

end Findings

/-- Survey what lies below a station. -/
def survey (s : Storage) (scope : Scope) (station : Station) (c : Cabinet) : Findings × Cabinet :=
  match visibleBelow s scope.root station.inherited station.dir with
  | none => (⟨[Outline.missingLine station.indent station.dir], Tally.empty⟩, c)
  | some branches =>
    let (noted, c') :=
      annotateAll s scope scope.analyze station.depth station.dir branches c
    (.ofBranches scope.kinds station.indent noted, c')

end Gazetteer.Survey

import Gazetteer.Entry

/-! # Tallies

The symbol tables that one request yields, in the order in which their files were met, and the
totals over them. A file that is recorded again keeps its place.
-/

namespace Gazetteer

structure Totals where
  files : Int := 0
  functions : Int := 0
  bindings : Int := 0
  classes : Int := 0
  deriving DecidableEq

abbrev Tally := List SymbolTable

namespace Tally

def empty : Tally := []

/-- Put a table in the place of the table of the same file, or at the end. -/
def record (t : SymbolTable) : Tally → Tally
  | [] => [t]
  | u :: us => if u.path = t.path then t :: us else u :: record t us

def recordAll (tally : Tally) (ts : List SymbolTable) : Tally :=
  ts.foldl (fun tally t => tally.record t) tally

def files (tally : Tally) : List String := tally.map (·.path)

def total (count : SymbolTable → Nat) (tally : Tally) : Nat :=
  tally.foldr (fun t n => count t + n) 0

def totals (tally : Tally) : Totals where
  files := tally.length
  functions := tally.total (·.discovered)
  bindings := tally.total (·.bindings.length)
  classes := tally.total (·.classes.length)

end Tally

end Gazetteer

import Gazetteer.Text.LetterCase
import Gazetteer.Text.Quoted

/-! # The journal

Events are noted from a level of gravity on. Levels are given by name in any letter case; the
standard output carries answers, so that the journal goes to the error stream alone.
-/

namespace Gazetteer

inductive Sink where
  | errorStream
  deriving DecidableEq

structure Journal where
  level : Nat
  sinks : List Sink
  deriving DecidableEq

namespace Journal

def levels : List (String × Nat) :=
  [("CRITICAL", 50), ("FATAL", 50), ("ERROR", 40), ("WARN", 30), ("WARNING", 30), ("INFO", 20),
    ("DEBUG", 10), ("NOTSET", 0)]

def defaultLevel : String := "INFO"

/-- The name in capital letters; without a name, or with an empty one, the default. -/
def canonicalName (name : Option String) : String :=
  match name with
  | none | some "" => defaultLevel
  | some s => Text.upper s

structure UnknownLevel where
  name : String
  deriving DecidableEq

def UnknownLevel.message (e : UnknownLevel) : String := "Unknown level: " ++ Text.quoted e.name

def setUp (name : Option String) : Except UnknownLevel Journal :=
  match levels.lookup (canonicalName name) with
  | some level => .ok { level, sinks := [.errorStream] }
  | none => .error ⟨canonicalName name⟩

end Journal

end Gazetteer

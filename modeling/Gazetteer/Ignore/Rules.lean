import Gazetteer.Ignore.Glob
import Gazetteer.Path

/-! # Ignore rules

A rule is an expression together with the directory it was written for. Rules are collected in a
list; any one of them suffices to ignore a path.
-/

namespace Gazetteer.Ignore

structure Rule where
  /-- The line the rule was read from, or the notation of a built-in expression. -/
  source : String
  regex : Regex
  /-- The directory from which paths are spelt. -/
  base : String
  deriving DecidableEq

/-- The spelling of a path that a rule looks at: directories end in a slash. -/
def spelling (home base path : String) (isDir : Bool) : String :=
  if isDir then Path.relativeTo home base path ++ "/" else Path.relativeTo home base path

/-- The expression occurs in the spelling from the base or in the bare name. -/
def Rule.ignores (r : Rule) (home path : String) (isDir : Bool) : Bool :=
  r.regex.search (spelling home r.base path isDir) || r.regex.search (Path.baseName path)

abbrev Rules := List Rule

namespace Rules

def ofLines (lines : List String) (base : String) : Rules :=
  lines.filterMap fun line => (compileLine line).map fun regex => ⟨Text.trim line, regex, base⟩

def ending (s : String) : Regex := .seq [.literal s, .finish]

def named (s : String) : Regex := .seq [.literal s, .alt .finish (.char '/')]

/-- Packages, version control, logs and scratch files, editor settings and build output. -/
def builtInRegexes : List Regex :=
  [Glob.topName "node_modules", Glob.topName ".git", ending ".log", ending ".tmp", ending ".temp",
    ending ".swp", ending ".DS_Store", named ".vscode", named ".idea", named ".vs",
    Glob.topName "dist", Glob.topName "build", Glob.topName "coverage"]

/-- The rules that hold below every root. -/
def builtIn (root : String) : Rules :=
  builtInRegexes.map fun regex => ⟨regex.print, regex, root⟩

def ignores (rules : Rules) (home path : String) (isDir : Bool) : Bool :=
  rules.any (·.ignores home path isDir)

def sourcesIgnoring (rules : Rules) (home path : String) (isDir : Bool) : List String :=
  (rules.filter (·.ignores home path isDir)).map (·.source)

def emptyPathMessage : String := "no path specified"

/-- Rules are not asked about an empty path; where there are none, nothing is asked. -/
def checkPath (rules : Rules) (path : String) : Except String Unit :=
  if path = "" && !rules.isEmpty then .error emptyPathMessage else .ok ()

end Rules

end Gazetteer.Ignore

import Gazetteer.Syntax.Source

/-! # Entries

What is noted about one source file: its functions, variables, classes, imports and exports.
-/

namespace Gazetteer

/-- The name of a function that nothing names. -/
def anonymous : String := "anonymous"

structure FunctionEntry where
  name : String
  position : Position
  code : String
  owner : Option String
  deriving DecidableEq

structure VariableEntry where
  name : String
  keyword : String
  position : Position
  code : String
  deriving DecidableEq

structure MethodEntry where
  name : String
  position : Position
  isStatic : Bool
  code : String
  deriving DecidableEq

structure ClassEntry where
  name : String
  position : Position
  code : String
  methods : List MethodEntry
  deriving DecidableEq

/-- An imported or exported name, and the name it goes by on the other side. -/
structure Item where
  name : String
  asName : Option String
  deriving DecidableEq

structure ImportEntry where
  source : String
  position : Position
  code : String
  items : List Item
  deriving DecidableEq

structure ExportEntry where
  /-- The module whose names are passed on. -/
  source : Option String
  position : Position
  code : String
  items : List Item
  isDefault : Bool
  deriving DecidableEq

structure SymbolTable where
  path : String
  language : String
  functions : List FunctionEntry
  bindings : List VariableEntry
  classes : List ClassEntry
  imports : List ImportEntry
  exports : List ExportEntry
  /-- How many functions were met, noted or not. -/
  discovered : Nat
  functions_le : functions.length ≤ discovered
  deriving DecidableEq

namespace SymbolTable

/-- A table that claims at least the functions it notes as discovered. -/
def make (path language : String) (functions : List FunctionEntry)
    (bindings : List VariableEntry) (classes : List ClassEntry) (imports : List ImportEntry)
    (exports : List ExportEntry) (discovered : Nat) : SymbolTable where
  path := path
  language := language
  functions := functions
  bindings := bindings
  classes := classes
  imports := imports
  exports := exports
  discovered := max discovered functions.length
  functions_le := Nat.le_max_right _ _

def mapPositions (f : Position → Position) (t : SymbolTable) : SymbolTable where
  path := t.path
  language := t.language
  functions := t.functions.map fun e => { e with position := f e.position }
  bindings := t.bindings.map fun e => { e with position := f e.position }
  classes := t.classes.map fun e =>
    { e with
      position := f e.position
      methods := e.methods.map fun m => { m with position := f m.position } }
  imports := t.imports.map fun e => { e with position := f e.position }
  exports := t.exports.map fun e => { e with position := f e.position }
  discovered := t.discovered
  functions_le := by simpa using t.functions_le

end SymbolTable

end Gazetteer

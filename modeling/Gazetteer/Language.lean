import Gazetteer.JavaScript.Symbols
import Gazetteer.Python.Symbols

/-! # Languages

The two families of languages that can be read, the file suffixes they go by, and the symbol table
of a syntax tree in either.
-/

namespace Gazetteer

inductive Language where
  | javascript
  | python
  deriving DecidableEq

namespace Language

def all : List Language := [javascript, python]

def name : Language → String
  | javascript => "javascript"
  | python => "python"

/-- The suffixes that a language answers for, without dots. -/
def kinds : Language → List String
  | javascript => ["js", "jsx", "ts", "tsx"]
  | python => ["py"]

/-- The suffixes of files that are read, and the language of each; TypeScript files are read as
JavaScript. -/
def kindTable : List (String × Language) :=
  [("js", javascript), ("jsx", javascript), ("ts", javascript), ("tsx", javascript), ("py", python)]

def allKinds : List String := kindTable.map (·.1)

def kindOfSuffix (suffix : String) : String :=
  Text.lower (String.ofList (suffix.toList.dropWhile (· == '.')))

/-- The language of a suffix, with or without leading dots and in any letter case. -/
def ofSuffix? (suffix : String) : Option Language := kindTable.lookup (kindOfSuffix suffix)

def inlineKinds : Language → List String
  | javascript => ["arrow_function"]
  | python => ["lambda"]

def candidates : Language → Source → Node → List Candidate
  | javascript => JavaScript.candidates
  | python => Python.candidates

def bindings : Language → Source → Node → List VariableEntry
  | javascript => JavaScript.bindings
  | python => Python.bindings

def classes : Language → Source → Node → List ClassEntry
  | javascript => JavaScript.classes
  | python => Python.classes

def imports : Language → Source → Node → List ImportEntry
  | javascript => JavaScript.imports
  | python => Python.imports

def exports : Language → Source → Node → List ExportEntry
  | javascript => JavaScript.exports
  | python => Python.exports

def functions (l : Language) (src : Source) (root : Node) : List FunctionEntry :=
  ((l.candidates src root).filter (isSignificant l.inlineKinds src)).map (·.entry)

/-- What a syntax tree notes about a source text, with positions as they are in the tree. -/
def collect (l : Language) (path : String) (src : Source) (root : Node) : SymbolTable :=
  .make path l.name (l.functions src root) (l.bindings src root) (l.classes src root)
    (l.imports src root) (l.exports src root) (l.candidates src root).length

/-- The symbol table of a syntax tree over a source text. -/
def tabulate (l : Language) (path : String) (src : Source) (root : Node) : SymbolTable :=
  (l.collect path src root).mapPositions src.inCharacters

end Language

end Gazetteer

import Gazetteer.Entry

/-! # Listings

What is written about one analyzed file: a line of counts and, kind by kind, what there is to say
about each symbol. Nothing is written about a kind without symbols or about unnamed functions.
-/

namespace Gazetteer

inductive SymbolKind where
  | functions
  | bindings
  | classes
  | imports
  | exports
  deriving DecidableEq

namespace SymbolKind

def all : List SymbolKind := [functions, bindings, classes, imports, exports]

def name : SymbolKind → String
  | functions => "functions"
  | bindings => "variables"
  | classes => "classes"
  | imports => "imports"
  | exports => "exports"

def title : SymbolKind → String
  | functions => "Functions:"
  | bindings => "Variables:"
  | classes => "Classes:"
  | imports => "Imports:"
  | exports => "Exports:"

def allName : String := "all"

def selectors : List String := all.map name ++ [allName]

/-- The kinds that a word selects; none if the word is unknown. -/
def selectedBy (word : String) : List SymbolKind :=
  all.filter fun k => word == k.name || word == allName

end SymbolKind

namespace Listing

def placeText (p : Position) : String := s!"[{p.startLine}:{p.startColumn}]"

def optionalText (before : String) (value : Option String) (after : String) : String :=
  match value with
  | none | some "" => ""
  | some s => before ++ s ++ after

def itemText (i : Item) : String := i.name ++ optionalText " as " i.asName ""

def itemsText (items : List Item) : String := ", ".intercalate (items.map itemText)

def itemsTail (items : List Item) : String :=
  if items.isEmpty then "" else ": " ++ itemsText items

def functionLine (f : FunctionEntry) : String :=
  "- " ++ f.name ++ optionalText " (in " f.owner ")" ++ " " ++ placeText f.position

def variableLine (v : VariableEntry) : String :=
  "- " ++ v.keyword ++ " " ++ v.name ++ " " ++ placeText v.position

def methodLine (m : MethodEntry) : String :=
  "  - " ++ (if m.isStatic then "static " else "") ++ m.name ++ " " ++ placeText m.position

def classLine (c : ClassEntry) : String := "- " ++ c.name ++ " " ++ placeText c.position

def importLine (i : ImportEntry) : String := "- from '" ++ i.source ++ "'" ++ itemsTail i.items

def exportLine (e : ExportEntry) : String :=
  "- " ++ (if e.isDefault then "default export" else "export") ++
    optionalText " from '" e.source "'" ++ itemsTail e.items

def listedFunctions (t : SymbolTable) : List FunctionEntry :=
  t.functions.filter (·.name != anonymous)

/-- What stands in front of every line of a listing. -/
def margin (indent : String) : String := indent ++ "    "

/-- What is written about a class, the last line end left out. -/
def classBlock (pad : String) (c : ClassEntry) : String :=
  pad ++ classLine c ++
    if c.methods.isEmpty then ""
    else "\n" ++ pad ++ "  Methods:\n" ++
      "\n".intercalate (c.methods.map fun m => pad ++ methodLine m)

def blocks (t : SymbolTable) (pad : String) : SymbolKind → List String
  | .functions => (listedFunctions t).map fun f => pad ++ functionLine f
  | .bindings => t.bindings.map fun v => pad ++ variableLine v
  | .classes => t.classes.map (classBlock pad)
  | .imports => t.imports.map fun i => pad ++ importLine i
  | .exports => t.exports.map fun e => pad ++ exportLine e

def sectionText (t : SymbolTable) (pad : String) (k : SymbolKind) : String :=
  if (blocks t pad k).isEmpty then ""
  else pad ++ k.title ++ "\n" ++ "\n".intercalate (blocks t pad k) ++ "\n"

def text (t : SymbolTable) (kinds : List SymbolKind) (indent : String) : String :=
  String.join (kinds.map (sectionText t (margin indent)))

/-! ## The same, line by line -/

def classLines (c : ClassEntry) : List String :=
  classLine c :: if c.methods.isEmpty then [] else "  Methods:" :: c.methods.map methodLine

def entryLines (t : SymbolTable) : SymbolKind → List String
  | .functions => (listedFunctions t).map functionLine
  | .bindings => t.bindings.map variableLine
  | .classes => t.classes.flatMap classLines
  | .imports => t.imports.map importLine
  | .exports => t.exports.map exportLine

def sectionLines (t : SymbolTable) (k : SymbolKind) : List String :=
  if (entryLines t k).isEmpty then [] else k.title :: entryLines t k

/-- The lines of a listing, line ends included. -/
def lines (t : SymbolTable) (kinds : List SymbolKind) (indent : String) : List String :=
  (kinds.flatMap (sectionLines t)).map fun line => margin indent ++ line ++ "\n"

/-! ## Counts -/

def countsLine (t : SymbolTable) (indent : String) : String :=
  indent ++ s!"└── [Analyzed: {t.discovered} functions, {t.bindings.length} variables, " ++
    s!"{t.classes.length} classes]\n"

end Listing

end Gazetteer

import Gazetteer.Failure
import Gazetteer.Machine
import Gazetteer.Survey.Traversal
import Gazetteer.Text.Blank

/-! # Requests

A request asks for a survey of a directory. Its parts come unchecked; each is read into what a
survey needs, or the request is rejected. The first part that is wrong decides. A machine may fail a
request in other ways, at a number that it cannot write and at directories that lie too deep.
-/

namespace Gazetteer

/-- A value as callers hand it over. -/
inductive Value where
  | null
  | bool (b : Bool)
  | integer (n : Int)
  /-- A number that is written with a fraction. -/
  | fraction
  | text (s : String)
  | array (items : List Value)
  | object (fields : List (String × Value))
  deriving Inhabited

namespace Value

/-- The members of a value: the items of an array, the keys of an object, the characters of a
text. Other values have none; they are told apart by a word. -/
def members : Value → Except String (List Value)
  | array items => .ok items
  | object fields => .ok (fields.map fun f => text f.1)
  | text s => .ok (s.toList.map fun c => text (String.ofList [c]))
  | null => .error "NoneType"
  | bool _ => .error "bool"
  | integer _ => .error "int"
  | fraction => .error "float"

end Value

inductive Rejection where
  | blankPath
  | systemDrive
  | topDirectory (path : String)
  | unknownSymbols (word : String)
  | badPattern
  /-- The patterns are given as a value without members. -/
  | noMembers (kind : String)
  | noInteger
  | negativeDepth (n : Int)
  deriving DecidableEq

def Rejection.message : Rejection → String
  | blankPath => "Directory path cannot be empty"
  | systemDrive => "C drive is not a project directory. Try different path"
  | topDirectory path =>
    "Filesystem root is not a project directory: " ++ path ++ ". Try different path"
  | unknownSymbols word =>
    "Invalid symbol type '" ++ word ++ "'. Expected one of: " ++
      ", ".intercalate SymbolKind.selectors
  | badPattern => "File patterns must be non-empty strings"
  | noMembers kind => "'" ++ kind ++ "' object is not iterable"
  | noInteger => "max_depth must be an integer"
  | negativeDepth n => s!"max_depth cannot be negative: {n}"

inductive Platform where
  | windows
  | unix
  deriving DecidableEq

namespace Platform

def ofName (name : String) : Platform := if name = "win32" then windows else unix

def onSystemDrive (p : Platform) (path : String) : Bool :=
  p == windows &&
    match path.toList with
    | drive :: ':' :: slash :: _ =>
      (drive == 'c' || drive == 'C') && (slash == '/' || slash == '\\')
    | _ => false

end Platform

namespace Request

/-- Check the path of a directory. Directories that are not there pass. -/
def checkPath (platform : Platform) (path : String) : Except Rejection Unit :=
  if Text.isBlankText path then .error .blankPath
  else if platform.onSystemDrive path then .error .systemDrive
  else
    let normal := Path.normalize path
    if Path.parent normal = normal then .error (.topDirectory normal) else .ok ()

def readKinds (word : String) : Except Rejection (List SymbolKind) :=
  if SymbolKind.selectors.contains word then .ok (SymbolKind.selectedBy word)
  else .error (.unknownSymbols word)

def readPattern (v : Value) : Except Rejection String :=
  match v with
  | .text s => if Text.isBlankText s then .error .badPattern else .ok s
  | _ => .error .badPattern

/-- The file patterns; nothing at all stands for none. -/
def readPatterns (v : Value) : Except Rejection (List String) :=
  match v with
  | .null => .ok []
  | _ =>
    match v.members with
    | .error kind => .error (.noMembers kind)
    | .ok items => items.mapM readPattern

def readDepth (v : Value) : Except Rejection Int :=
  match v with
  | .integer n => if n < 0 then .error (.negativeDepth n) else .ok n
  | _ => .error .noInteger

end Request

structure Request where
  path : String
  analyze : Bool := false
  /-- Whether symbols are listed below the files they are in. -/
  listSymbols : Bool := false
  symbols : String := SymbolKind.allName
  patterns : Value := .null
  depth : Value := .integer Summary.defaultDepth

namespace Request

def root (r : Request) : String := Path.normalize (Text.trim r.path)

/-- The scope of the survey that is asked for. -/
def scope (r : Request) : Except Rejection Survey.Scope := do
  checkPath .unix r.path
  let kinds ← readKinds r.symbols
  let patterns ← readPatterns r.patterns
  let depth ← readDepth r.depth
  return {
    root := r.root
    analyze := r.analyze
    kinds := if r.listSymbols then kinds else []
    patterns
    depth }

end Request

/-- The answer to a request: a page of text and the tables behind it. -/
structure Answer where
  text : String
  tally : Tally
  deriving DecidableEq

namespace Answer

/-- The page above an outline; totals are given if files were read. -/
def make (scope : Survey.Scope) (outline : String) (tally : Tally) : Answer where
  text := Summary.page scope.root
    (if scope.analyze then Summary.text tally.totals scope.patterns scope.depth else "") outline
  tally := tally

end Answer

inductive Mishap where
  | rejected (e : Rejection)
  | longNumber
  | noRoom
  deriving DecidableEq

def Mishap.message (m : Machine) : Mishap → String
  | rejected e => e.message
  | longNumber => m.longNumberMessage
  | noRoom => Machine.noRoomMessage

namespace Request

/-- The answer to a request with the languages of a cabinet, on a machine without bounds. -/
def answer (s : Storage) (r : Request) (c : Cabinet) : Except Rejection Answer × Cabinet :=
  match r.scope with
  | .error e => (.error e, c)
  | .ok scope =>
    let (found, c') := Survey.survey s scope { dir := scope.root } c
    (.ok (.make scope found.text found.tally), c')

/-- What comes of a rejection. Its message may be one that cannot be written. -/
def refuse (m : Machine) : Rejection → Mishap
  | .negativeDepth n => if m.writes n then .rejected (.negativeDepth n) else .longNumber
  | e => .rejected e

/-- Answer a request with the languages of a cabinet. The depth is written before anything is
looked at. -/
def attempt (m : Machine) (s : Storage) (r : Request) (c : Cabinet) :
    Except Mishap Answer × Cabinet :=
  match r.scope with
  | .error e => (.error (refuse m e), c)
  | .ok scope =>
    if m.writes scope.depth then
      match
        Survey.traverse s scope m.levels scope.analyze { dir := scope.root } { cabinet := c } with
      | (some outline, log) => (.ok (.make scope outline log.tally), log.cabinet)
      | (none, log) => (.error .noRoom, log.cabinet)
    else (.error .longNumber, c)

/-- The text that a caller is shown, whatever comes of the request. -/
def reply (m : Machine) (s : Storage) (r : Request) (c : Cabinet) : String × Cabinet :=
  match r.attempt m s c with
  | (.ok a, c') => (a.text, c')
  | (.error e, c') => (Reply.plain (e.message m), c')

end Request

end Gazetteer

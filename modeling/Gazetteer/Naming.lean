import Gazetteer.Entry
import Gazetteer.Syntax.Node

/-! # Names of unnamed functions

A function expression is named after the place it stands in. Each clue looks at one kind of place;
the first clue that yields a name decides, and without one the function is anonymous.
-/

namespace Gazetteer

/-- The text without its quote characters. -/
def stripQuotes (s : String) : String :=
  String.ofList (s.toList.filter fun c => c != '"' && c != '\'')

inductive Clue where
  /-- The function is what a variable is declared with. -/
  | boundVariable
  /-- The function is the value under a key of an object. -/
  | objectKey
  /-- The function is assigned to something. -/
  | assignmentTarget
  /-- The function handles the outcome of a promise. -/
  | promiseCallback
  deriving DecidableEq

namespace Clue

def all : List Clue := [boundVariable, objectKey, assignmentTarget, promiseCallback]

def promiseMethods : List String := ["then", "catch", "finally"]

def parentOf (kinds : List String) (p : Place) : Option Place :=
  p.parent?.filter fun q => kinds.contains q.node.kind

def boundVariableName (src : Source) (p : Place) : Option String := do
  let declarator ← parentOf ["variable_declarator"] p
  declarator.node.childText? src "name"

def objectKeyName (src : Source) (p : Place) : Option String := do
  let pair ← parentOf ["pair"] p
  let _ ← parentOf ["object"] pair
  (pair.node.childText? src "key").map stripQuotes

/-- The name that an assignment to this target gives. -/
def targetName (src : Source) (target : Node) : Option String :=
  if target.kind = "member_expression" then target.childText? src "property"
  else if target.kind = "attribute" then target.childText? src "attribute"
  else some (target.text src)

def assignmentTargetName (src : Source) (p : Place) : Option String := do
  let assignment ← parentOf ["assignment_expression", "assignment"] p
  let target ← assignment.node.child? "left"
  targetName src target

def promiseCallbackName (src : Source) (p : Place) : Option String := do
  let arguments ← parentOf ["arguments"] p
  let call ← parentOf ["call_expression"] arguments
  let callee ← call.node.child? "function"
  if callee.kind = "member_expression" then
    (callee.childText? src "property").filter promiseMethods.contains
  else none

/-- The name that a clue yields at a place. -/
def nameAt (src : Source) : Clue → Place → Option String
  | boundVariable => boundVariableName src
  | objectKey => objectKeyName src
  | assignmentTarget => assignmentTargetName src
  | promiseCallback => promiseCallbackName src

end Clue

/-- The first name other than the empty one that the clues yield. -/
def inferNameBy (clues : List Clue) (src : Source) (p : Place) : String :=
  (clues.findSome? fun clue => (clue.nameAt src p).filter (· != "")).getD anonymous

def inferName (src : Source) (p : Place) : String := inferNameBy Clue.all src p

end Gazetteer

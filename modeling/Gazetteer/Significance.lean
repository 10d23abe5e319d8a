import Gazetteer.Naming
import Gazetteer.Text.LetterCase

/-! # Significant functions

Short inline functions, short callbacks of array methods and short anonymous functions are met but
not noted.
-/

namespace Gazetteer

/-- A function that was met, with the place it was met at. -/
structure Candidate where
  place : Place
  entry : FunctionEntry

namespace Significance

def inlineLength : Nat := 15

def callbackLength : Nat := 50

def anonymousLength : Nat := 100

/-- How much of a call is searched for array methods. -/
def contextLength : Nat := 30

def arrayMethods : List String := [".map(", ".filter(", ".foreach(", ".find(", ".reduce("]

/-- The call or member access that a function is handed to. -/
def callContext (p : Place) : Option Node := do
  let q ← p.parent?
  let call ← if ["arguments", "argument_list"].contains q.node.kind then q.parent? else some q
  if ["call_expression", "member_expression", "call"].contains call.node.kind then
    some call.node
  else none

def occurs (word : List Char) : List Char → Bool
  | [] => word.isEmpty
  | c :: r => word.isPrefixOf (c :: r) || occurs word r

/-- The beginning of a call names an array method, in any letter case. -/
def callsArrayMethod (src : Source) (context : Node) : Bool :=
  let head := Text.lowerFrom [] ((context.text src).toList.take contextLength)
  arrayMethods.any fun m => occurs m.toList head

end Significance

open Significance in
/-- The function is worth noting; `inlineKinds` are the kinds of inline functions. -/
def isSignificant (inlineKinds : List String) (src : Source) (c : Candidate) : Bool :=
  let length := c.entry.code.length
  let isShortInline := inlineKinds.contains c.place.node.kind && length < inlineLength
  let isShortCallback := length < callbackLength &&
    (callContext c.place).any (callsArrayMethod src)
  !isShortInline && !isShortCallback && (c.entry.name != anonymous || anonymousLength < length)

end Gazetteer

import Gazetteer.JavaScript.Grammar.Lexeme
import Gazetteer.JavaScript.Grammar.Pattern

/-! # Goals of the JavaScript grammar

The constructs that contain one another without bound. Each part of the grammar reads its own
constructs and asks for these through `Rules`.
-/

namespace Gazetteer.JavaScript.Grammar

open Gazetteer.Reading

inductive Goal where
  | statement
  /-- Statements between braces; the flag tells that an expression may go on after them. -/
  | block (mid : Bool)
  | expressions
  /-- An expression without a comma of its own. -/
  | expression
  /-- An expression whose operators bind at least this tightly. -/
  | operand (level : Nat)
  | unary
  | newObject
  | arrowBody
  | markup
  deriving DecidableEq

abbrev Rules := Goal → Reader Forest

def spread (g : Rules) : Reader Forest :=
  node "spread_element" (punct "..." ++ g .expression)

def listOf (item : Reader Forest) : Reader Forest :=
  opt item ++ many (punct "," ++ opt item)

def listItem (g : Rules) : Reader Forest := spread g <|> g .expression

def bracketed (opening closing : String) (r : Reader Forest) : Reader Forest :=
  punct opening ++ r ++ sign closing

def arguments (g : Rules) : Reader Forest :=
  node "arguments" (bracketed "(" ")" (listOf (listItem g)))

/-- Parameters are read as expressions and taken as patterns. -/
def formalParameters (g : Rules) : Reader Forest := do
  return enclose "formal_parameters" (toPatterns (← bracketed "(" ")" (listOf (listItem g))))

def computedName (g : Rules) : Reader Forest :=
  node "computed_property_name" (bracketed "[" "]" (g .expression))

def propertyName (g : Rules) : Reader Forest :=
  oneOf [anyWordAs "property_identifier", privateName, string, number, computedName g]

end Gazetteer.JavaScript.Grammar

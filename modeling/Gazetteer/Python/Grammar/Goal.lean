import Gazetteer.Python.Grammar.Lexeme

/-! # Goals of the Python grammar

The constructs that contain one another without bound, and the targets that expressions turn into
when something is assigned to them.
-/

namespace Gazetteer.Python.Grammar

open Gazetteer.Reading

inductive Goal where
  /-- A statement of a block that is indented by the given amount. -/
  | statement (indent : Nat)
  /-- An expression without a comma of its own. -/
  | expression
  /-- An expression whose operators bind at least this tightly. -/
  | operand (level : Nat)
  /-- A name, a literal or a bracket, with the accesses and calls behind it. -/
  | primary
  /-- What an assignment assigns, which may be another assignment. -/
  | assigned
  /-- An expression between the braces of a formatted string. -/
  | interpolation
  deriving DecidableEq

abbrev Rules := Goal → Reader Forest

def commaList (item : Reader Forest) : Reader Forest :=
  sepBy1 (punct ",") item ++ opt (punct ",")

def star (g : Rules) : Reader Forest := node "list_splat" (punct "*" ++ g .expression)

def starOrExpression (g : Rules) : Reader Forest := star g <|> g .expression

def isSeveral (f : Forest) : Bool := f.any (·.kind == ",")

def expressions (g : Rules) : Reader Forest := do
  let f ← commaList (starOrExpression g)
  return if isSeveral f then enclose "expression_list" f else f

def targetKind (kind : String) : String :=
  match kind with
  | "tuple" | "parenthesized_expression" => "tuple_pattern"
  | "list" => "list_pattern"
  | "list_splat" => "list_splat_pattern"
  | k => k

mutual
def toTarget : Node → Node
  | ⟨kind, named, field, start, stop, children⟩ =>
    ⟨targetKind kind, named, field, start, stop,
      if targetKind kind = kind then children else toTargets children⟩
def toTargets : List Node → List Node
  | [] => []
  | n :: ns => toTarget n :: toTargets ns
end

def targetOf (f : Forest) : Forest :=
  if isSeveral f then enclose "pattern_list" (toTargets f) else toTargets f

def typeHint (g : Rules) : Reader Forest :=
  node "type" (starOrExpression g)

end Gazetteer.Python.Grammar

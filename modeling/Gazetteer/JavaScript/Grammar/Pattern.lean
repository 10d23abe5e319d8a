import Gazetteer.Syntax.Node

/-! # Binding patterns

Object and array literals, assignments and spreads have the same spelling as the patterns that
bind names. `toPattern` turns an expression that proves to be a target into the pattern it spells.
-/

namespace Gazetteer.JavaScript.Grammar

def patternKind (kind : String) : String :=
  match kind with
  | "object" => "object_pattern"
  | "array" => "array_pattern"
  | "pair" => "pair_pattern"
  | "spread_element" => "rest_pattern"
  | "assignment_expression" => "assignment_pattern"
  | "shorthand_property_identifier" => "shorthand_property_identifier_pattern"
  | k => k

def holdsTargets (kind : String) : Bool :=
  ["object", "array", "pair", "spread_element"].contains kind

mutual
def toPattern : Node → Node
  | ⟨kind, named, field, start, stop, children⟩ =>
    ⟨patternKind kind, named, field, start, stop,
      if holdsTargets kind then toPatterns children else children⟩
def toPatterns : List Node → List Node
  | [] => []
  | n :: ns => toPattern n :: toPatterns ns
end

def isTarget (n : Node) : Bool :=
  ["identifier", "undefined", "member_expression", "subscript_expression", "object", "array",
    "parenthesized_expression"].contains n.kind

end Gazetteer.JavaScript.Grammar

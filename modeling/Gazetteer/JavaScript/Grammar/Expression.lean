import Gazetteer.JavaScript.Grammar.Definition
import Gazetteer.JavaScript.Grammar.Markup

/-! # Expressions -/

namespace Gazetteer.JavaScript.Grammar

open Gazetteer.Reading

/-! ## Literals with inner structure -/

def templateChars : List Char → List Char
  | [] => []
  | '$' :: '\x7b' :: _ => []
  | c :: r => if c == '\x60' || c == '\\' then [] else c :: templateChars r

def templateFragment : Reader Forest := leaf "string_fragment" true do
  let cs := templateChars (← rest)
  require (!cs.isEmpty)
  exactly cs

def templateSubstitution (g : Rules) : Reader Forest :=
  node "template_substitution" (tightSign "$\x7b" ++ g .expressions ++ sign "\x7d")

def template (g : Rules) : Reader Forest := trivia ++ node "template_string"
  (tightSign "\x60" ++
    many (oneOf [templateFragment, escapeSequence, templateSubstitution g]) ++
    tightSign "\x60")

def array (g : Rules) : Reader Forest :=
  node "array" (bracketed "[" "]" (listOf (listItem g)))

def pair (g : Rules) : Reader Forest :=
  node "pair" (role "key" (propertyName g) ++ punct ":" ++ role "value" (g .expression))

/-- A property named like the variable it holds, with the default that a pattern may give it. -/
def shorthand (g : Rules) : Reader Forest := do
  let name ← identifierAs "shorthand_property_identifier"
  (do let value ← punct "=" ++ role "right" (g .expression)
      return enclose "object_assignment_pattern" (assign "left" (toPatterns name) ++ value)) <|>
    pure name

def property (g : Rules) : Reader Forest :=
  oneOf [spread g, method false g, pair g, shorthand g]

def object (g : Rules) : Reader Forest :=
  node "object" (bracketed "\x7b" "\x7d" (listOf (property g)))

/-! ## Arrow functions and parentheses -/

def arrowOf (g : Rules) (head : Forest) : Reader Forest := do
  let tail ← punct "=>" ++ role "body" (g .arrowBody)
  return enclose "arrow_function" (head ++ tail)

def isComma (n : Node) : Bool := n.kind == ","

def isParenthesized : Forest → Bool
  | [] => false
  | [n] => !isComma n && n.kind != "spread_element"
  | n :: m :: ns => !isComma n && n.kind != "spread_element" && isComma m && isParenthesized ns

def parentheses (g : Rules) : Reader Forest := do
  let opening ← punct "("
  let inside ← listOf (listItem g)
  let closing ← sign ")"
  let parameters := enclose "formal_parameters" (opening ++ toPatterns inside ++ closing)
  arrowOf g (assign "parameters" parameters) <|> do
    require (isParenthesized (inside.filter (!isExtra ·)))
    let inner := if inside.any isComma then enclose "sequence_expression" inside else inside
    return enclose "parenthesized_expression" (opening ++ inner ++ closing)

def variableOrArrow (g : Rules) : Reader Forest := do
  let name ← identifier
  arrowOf g (assign "parameter" name) <|> pure name

def asyncArrow (g : Rules) : Reader Forest := do
  let head ← asyncWord
  let parameters ← role "parameters" (formalParameters g) <|> role "parameter" identifier
  arrowOf g (head ++ parameters)

def metaProperty (object name : String) : Reader Forest :=
  node "meta_property" (keyword object ++ punct "." ++ keyword name)

/-! ## Access and calls -/

def optionalChain : Reader Forest := role "optional_chain" do
  return (← punct "?.").map fun n =>
    if isExtra n then n else { n with kind := "optional_chain", named := true }

def propertyAccess (dot : Reader Forest) (base : Forest) : Reader Forest := do
  let tail ← dot ++ role "property" (privateName <|> anyWordAs "property_identifier")
  return enclose "member_expression" (assign "object" base ++ tail)

def indexAccess (g : Rules) (chain : Reader Forest) (base : Forest) : Reader Forest := do
  let tail ← chain ++ bracketed "[" "]" (role "index" (g .expressions))
  return enclose "subscript_expression" (assign "object" base ++ tail)

def call (chain args : Reader Forest) (base : Forest) : Reader Forest := do
  let tail ← chain ++ role "arguments" args
  return enclose "call_expression" (assign "function" base ++ tail)

/-- Accesses without calls, as the class of a new object is written. -/
def accessStep (g : Rules) (base : Forest) : Reader Forest :=
  propertyAccess (punct ".") base <|> indexAccess g nothing base

def chainStep (g : Rules) (base : Forest) : Reader Forest :=
  oneOf [
    accessStep g base,
    call nothing (arguments g) base,
    call nothing (template g) base,
    propertyAccess optionalChain base,
    indexAccess g optionalChain base,
    call optionalChain (arguments g) base]

/-! ## Primary expressions -/

def wordExpression (g : Rules) : Reader Forest := do
  match String.ofList (← wordAhead) with
  | "function" => functionExpression g
  | "async" => oneOf [functionExpression g, asyncArrow g, variableOrArrow g]
  | "class" => classExpression g
  | "new" => metaProperty "new" "target" <|> g .newObject
  | "import" => metaProperty "import" "meta" <|> namedWord "import" "import"
  | "this" => namedWord "this" "this"
  | "super" => namedWord "super" "super"
  | "null" => namedWord "null" "null"
  | "true" => namedWord "true" "true"
  | "false" => namedWord "false" "false"
  | "undefined" => namedWord "undefined" "undefined"
  | _ => variableOrArrow g

def primary (g : Rules) : Reader Forest := trivia ++ do
  match (← rest).head? with
  | none => failure
  | some '(' => parentheses g
  | some '[' => array g
  | some '\x7b' => object g
  | some '"' | some '\'' => string
  | some '\x60' => template g
  | some '/' => regex
  | some '<' => g .markup
  | some '#' => privateName
  | some '@' => classExpression g
  | some '.' => number
  | some c => if c.isDigit then number else wordExpression g

def newObject (g : Rules) : Reader Forest :=
  node "new_expression" (keyword "new" ++
    role "constructor" (primary g >>= extend (accessStep g)) ++
    opt (role "arguments" (arguments g)))

/-! ## Operators -/

def binaryLevels : List (String × Nat) :=
  [("??", 1), ("||", 2), ("&&", 3), ("|", 4), ("^", 5), ("&", 6), ("==", 7), ("!=", 7),
    ("===", 7), ("!==", 7), ("<", 8), (">", 8), ("<=", 8), (">=", 8), ("instanceof", 8),
    ("in", 8), ("<<", 9), (">>", 9), (">>>", 9), ("+", 10), ("-", 10), ("*", 11), ("/", 11),
    ("%", 11), ("**", 12)]

def operatorAhead : Reader String := do
  let w ← wordAhead
  if w.isEmpty then
    match punctuatorOf (← rest) with
    | some p => return p
    | none => failure
  else return String.ofList w

/-- The right operand of `**` may hold another `**`; any other operator groups to the left. -/
def binaryStep (g : Rules) (level : Nat) (base : Forest) : Reader Forest := do
  let lead ← trivia
  let name ← operatorAhead
  match binaryLevels.lookup name with
  | none => failure
  | some l => do
    require (level ≤ l)
    let op ← leaf name false (exact name)
    let right ← g (.operand (if name = "**" then l else l + 1))
    return enclose "binary_expression"
      (assign "left" base ++ lead ++ assign "operator" op ++ assign "right" right)

def operand (g : Rules) (level : Nat) : Reader Forest :=
  g .unary >>= extend (binaryStep g level)

def unaryOperator : Reader Forest :=
  oneOf [punct "!", punct "~", punct "-", punct "+", keyword "typeof", keyword "void",
    keyword "delete"]

def stepOperator : Reader Forest := punct "++" <|> punct "--"

def postfixed (g : Rules) : Reader Forest := do
  let base ← primary g >>= extend (chainStep g)
  (do require (!(← statementEnds true))
      let op ← role "operator" stepOperator
      return enclose "update_expression" (assign "argument" base ++ op)) <|> pure base

def unary (g : Rules) : Reader Forest :=
  oneOf [
    node "unary_expression" (role "operator" unaryOperator ++ role "argument" (g .unary)),
    node "update_expression" (role "operator" stepOperator ++ role "argument" (g .unary)),
    node "await_expression" (keyword "await" ++ g .unary),
    postfixed g]

def augmentedOperators : List String :=
  ["+=", "-=", "*=", "/=", "%=", "^=", "&=", "|=", ">>=", ">>>=", "<<=", "**=", "&&=", "||=",
    "??="]

def yieldExpression (g : Rules) : Reader Forest :=
  node "yield_expression" (keyword "yield" ++
    ((punct "*" ++ g .expression) <|> opt do
      require (!(← statementEnds true))
      g .expression))

def lastNode? (f : Forest) : Option Node := (f.filter (!isExtra ·)).getLast?

def assignment (g : Rules) (left : Forest) : Reader Forest := do
  require ((lastNode? left).any isTarget)
  (do let tail ← punct "=" ++ role "right" (g .expression)
      return enclose "assignment_expression" (assign "left" (toPatterns left) ++ tail)) <|> do
    let tail ← role "operator" (oneOf (augmentedOperators.map punct)) ++
      role "right" (g .expression)
    return enclose "augmented_assignment_expression" (assign "left" left ++ tail)

def conditional (g : Rules) (condition : Forest) : Reader Forest := do
  let tail ← punct "?" ++ role "consequence" (g .expression) ++ punct ":" ++
    role "alternative" (g .expression)
  return enclose "ternary_expression" (assign "condition" condition ++ tail)

def expression (g : Rules) : Reader Forest := yieldExpression g <|> do
  let left ← g (.operand 1)
  oneOf [conditional g left, assignment g left, pure left]

def expressions (g : Rules) : Reader Forest := do
  let first ← g .expression
  let more ← many (punct "," ++ g .expression)
  return if more.isEmpty then first else enclose "sequence_expression" (first ++ more)

/-! ## Braces -/

def labelAhead : Reader Bool :=
  ahead (punct "\x7b" ++ identifierAs "statement_identifier" ++ punct ":")

/-- A brace with a labelled first item is an object if it can be one, any other brace a block if
it can be one. -/
def braceOf (asBlock asObject : Reader Forest) : Reader Forest := do
  if ← labelAhead then asObject <|> asBlock else asBlock <|> asObject

def arrowBody (g : Rules) : Reader Forest := do
  if ← ahead (punct "\x7b") then braceOf (g (.block true)) (g .expression) else g .expression

end Gazetteer.JavaScript.Grammar

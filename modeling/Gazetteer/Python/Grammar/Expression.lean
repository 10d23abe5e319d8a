import Gazetteer.Python.Grammar.Strings

/-! # Expressions -/

namespace Gazetteer.Python.Grammar

open Gazetteer.Reading

/-! ## Parameters -/

def splatParameter (g : Rules) (typed : Bool) : Reader Forest := do
  let name ← node "list_splat_pattern" (punct "*" ++ identifier) <|>
    node "dictionary_splat_pattern" (punct "**" ++ identifier)
  if typed then
    (do let tail ← punct ":" ++ role "type" (typeHint g)
        return enclose "typed_parameter" (name ++ tail)) <|> pure name
  else return name

def bracketParameter (g : Rules) : Reader Forest := do return toTargets (← g .primary)

def nameParameter (g : Rules) (typed : Bool) : Reader Forest := do
  let name ← identifier <|> bracketParameter g
  let type ← if typed then opt (punct ":" ++ role "type" (typeHint g)) else nothing
  let value ← opt (punct "=" ++ role "value" (g .expression))
  return match type.isEmpty, value.isEmpty with
    | true, true => name
    | false, true => enclose "typed_parameter" (name ++ type)
    | true, false => enclose "default_parameter" (assign "name" name ++ value)
    | false, false => enclose "typed_default_parameter" (assign "name" name ++ type ++ value)

def parameter (g : Rules) (typed : Bool) : Reader Forest :=
  oneOf [splatParameter g typed, node "keyword_separator" (punct "*"),
    node "positional_separator" (punct "/"), nameParameter g typed]

def lambda (g : Rules) : Reader Forest :=
  node "lambda" (keyword "lambda" ++
    opt (role "parameters" (node "lambda_parameters" (commaList (parameter g false)))) ++
    punct ":" ++ role "body" (g .expression))

/-! ## Comprehensions and brackets -/

def loopTarget (g : Rules) : Reader Forest := do
  return targetOf (← commaList (node "list_splat" (punct "*" ++ g .primary) <|> g .primary))

def forInClause (g : Rules) : Reader Forest :=
  node "for_in_clause" (opt (keyword "async") ++ keyword "for" ++ role "left" (loopTarget g) ++
    keyword "in" ++ role "right" (commaList (g (.operand 1))))

def ifClause (g : Rules) : Reader Forest :=
  node "if_clause" (keyword "if" ++ g (.operand 1))

def clauses (g : Rules) : Reader Forest := forInClause g ++ many (forInClause g <|> ifClause g)

/-- Items in a bracket, or one item with the loops that produce it; the flag tells which. -/
def contents (g : Rules) (item : Reader Forest) : Reader (Bool × Forest) := do
  let first ← item
  (do let loops ← clauses g
      return (true, assign "body" first ++ loops)) <|> do
    let more ← many (punct "," ++ item) ++ opt (punct ",")
    return (false, first ++ more)

def item (g : Rules) : Reader Forest := yielded g <|> starOrExpression g

def bracketOf (opening closing : String) (content : Reader (Bool × Forest))
    (kind : Bool → Forest → String) : Reader Forest := do
  let before ← punct opening
  nested do
    let (looped, inside) ← content <|> pure (false, [])
    let after ← sign closing
    return enclose (kind looped inside) (before ++ inside ++ after)

def parentheses (g : Rules) : Reader Forest :=
  bracketOf "(" ")" (contents g (item g)) fun looped inside =>
    if looped then "generator_expression"
    else if inside.isEmpty || isSeveral inside then "tuple"
    else "parenthesized_expression"

def list (g : Rules) : Reader Forest :=
  bracketOf "[" "]" (contents g (item g)) fun looped _ =>
    if looped then "list_comprehension" else "list"

def dictionarySplat (g : Rules) : Reader Forest :=
  node "dictionary_splat" (punct "**" ++ g .expression)

def entry (g : Rules) : Reader Forest := dictionarySplat g <|> do
  let key ← starOrExpression g
  (do let value ← punct ":" ++ role "value" (g .expression)
      return enclose "pair" (assign "key" key ++ value)) <|> pure key

def braces (g : Rules) : Reader Forest :=
  bracketOf "\x7b" "\x7d" (contents g (entry g)) fun looped inside =>
    let keyed := inside.isEmpty ||
      inside.any fun n => n.kind == "pair" || n.kind == "dictionary_splat"
    (if keyed then "dictionary" else "set") ++ if looped then "_comprehension" else ""

/-! ## Calls and accesses -/

def keywordArgument (g : Rules) : Reader Forest :=
  node "keyword_argument" (role "name" identifier ++ punct "=" ++ role "value" (g .expression))

def argument (g : Rules) : Reader Forest :=
  oneOf [keywordArgument g, star g, dictionarySplat g, g .expression]

def argumentList (g : Rules) : Reader Forest :=
  node "argument_list" (bracketed "(" ")" (opt (commaList (argument g))))

def generatorArgument (g : Rules) : Reader Forest :=
  node "generator_expression" (bracketed "(" ")" (role "body" (g .expression) ++ clauses g))

def subscript (g : Rules) : Reader Forest := role "subscript" do
  let first ← opt (starOrExpression g)
  (do let tail ← punct ":" ++ opt (g .expression) ++ opt (punct ":" ++ opt (g .expression))
      return enclose "slice" (first ++ tail)) <|> do
    require (!first.isEmpty)
    return first

def accessStep (g : Rules) (base : Forest) : Reader Forest :=
  oneOf [
    do let tail ← punct "." ++ role "attribute" identifier
       return enclose "attribute" (assign "object" base ++ tail),
    do let tail ← role "arguments" (argumentList g <|> generatorArgument g)
       return enclose "call" (assign "function" base ++ tail),
    do let tail ← bracketed "[" "]" (commaList (subscript g))
       return enclose "subscript" (assign "value" base ++ tail)]

def ellipsis : Reader Forest := do
  return (← punct "...").map fun n =>
    if isExtra n then n else { n with kind := "ellipsis", named := true }

def wordAtom (g : Rules) : Reader Forest := do
  match ← wordAhead with
  | "True" => namedWord "true" "True"
  | "False" => namedWord "false" "False"
  | "None" => namedWord "none" "None"
  | _ => strings g <|> identifier

def atom (g : Rules) : Reader Forest := trivia ++ do
  match (← rest).head? with
  | none => failure
  | some '(' => parentheses g
  | some '[' => list g
  | some '\x7b' => braces g
  | some '"' | some '\'' => strings g
  | some '.' => ellipsis <|> number
  | some c => if c.isDigit then number else wordAtom g

def primary (g : Rules) : Reader Forest := atom g >>= extend (accessStep g)

/-! ## Operators -/

/-- The operators between two operands and how tightly they bind; level 3 compares. -/
def binaryLevels : List (String × Nat) :=
  [("or", 1), ("and", 2), ("|", 4), ("^", 5), ("&", 6), ("<<", 7), (">>", 7), ("+", 8), ("-", 8),
    ("*", 9), ("@", 9), ("/", 9), ("%", 9), ("//", 9), ("**", 11)]

def operatorAhead : Reader String := do
  let w ← wordAhead
  if w = "" then
    match punctuatorOf (← rest) with
    | some p => return p
    | none => failure
  else return w

def binaryKind (op : String) : String :=
  if op = "or" || op = "and" then "boolean_operator" else "binary_operator"

def binaryStep (g : Rules) (level : Nat) (base : Forest) : Reader Forest := do
  let lead ← trivia
  let name ← operatorAhead
  match binaryLevels.lookup name with
  | none => failure
  | some l => do
    require (level ≤ l)
    let op ← leaf name false (exact name)
    let right ← g (.operand (if name = "**" then 10 else l + 1))
    return enclose (binaryKind name)
      (assign "left" base ++ lead ++ assign "operator" op ++ assign "right" right)

def twoWords (a b : String) : Reader Forest := do
  return (enclose (a ++ " " ++ b) (← keyword a ++ keyword b)).map fun n =>
    if isExtra n then n else { n with named := false }

def comparison : Reader Forest :=
  oneOf (["<", "<=", "==", "!=", ">=", ">", "<>"].map punct ++
    [keyword "in", twoWords "not" "in", twoWords "is" "not", keyword "is"])

def comparisons (g : Rules) (first : Forest) : Reader Forest := do
  let more ← many1 (role "operators" comparison ++ g (.operand 4))
  return enclose "comparison_operator" (first ++ more)

def unarySign : Reader Forest := oneOf [punct "+", punct "-", punct "~"]

def namedExpression (g : Rules) : Reader Forest :=
  node "named_expression" (role "name" identifier ++ punct ":=" ++ role "value" (g (.operand 1)))

/-- An operand in front of the operators that may follow it at a level. What begins with a word of
its own or a name goes on as far as it can. -/
def operandHead (g : Rules) (level : Nat) : Reader Forest :=
  if level ≤ 3 then
    oneOf [
      lambda g,
      node "not_operator" (keyword "not" ++ role "argument" (g (.operand 3))),
      namedExpression g,
      do let first ← g (.operand 4)
         comparisons g first <|> pure first]
  else
    oneOf [
      node "unary_operator" (role "operator" unarySign ++ role "argument" (g (.operand 10))),
      node "await" (keyword "await" ++ g .primary),
      g .primary]

def operand (g : Rules) (level : Nat) : Reader Forest :=
  operandHead g level >>= extend (binaryStep g level)

def conditional (g : Rules) (value : Forest) : Reader Forest := do
  let tail ← keyword "if" ++ g (.operand 1) ++ keyword "else" ++ g .expression
  return enclose "conditional_expression" (value ++ tail)

def aliased (g : Rules) (value : Forest) : Reader Forest := do
  let tail ← keyword "as" ++ role "alias" (node "as_pattern_target" (g (.operand 4)))
  return enclose "as_pattern" (value ++ tail)

def expression (g : Rules) : Reader Forest := do
  let value ← g (.operand 1)
  let whole ← conditional g value <|> pure value
  aliased g whole <|> pure whole

end Gazetteer.Python.Grammar

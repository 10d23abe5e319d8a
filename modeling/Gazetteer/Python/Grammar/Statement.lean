import Gazetteer.Python.Grammar.Expression

/-! # Statements and modules -/

namespace Gazetteer.Python.Grammar

open Gazetteer.Reading

/-! ## Simple statements -/

def augmentedOperators : List String :=
  ["+=", "-=", "*=", "/=", "@=", "//=", "%=", "**=", ">>=", "<<=", "&=", "^=", "|="]

def assignmentOf (g : Rules) (left : Forest) : Reader Forest :=
  oneOf [
    do let tail ← punct "=" ++ role "right" (g .assigned)
       return enclose "assignment" (assign "left" (targetOf left) ++ tail),
    do let tail ← punct ":" ++ role "type" (typeHint g) ++
         opt (punct "=" ++ role "right" (g .assigned))
       return enclose "assignment" (assign "left" (targetOf left) ++ tail),
    do let tail ← role "operator" (oneOf (augmentedOperators.map punct)) ++
         role "right" (g .assigned)
       return enclose "augmented_assignment" (assign "left" (targetOf left) ++ tail)]

def assigned (g : Rules) : Reader Forest := yielded g <|> do
  let f ← commaList (starOrExpression g)
  assignmentOf g f <|> pure (if isSeveral f then enclose "expression_list" f else f)

def simpleEnds : Reader Bool := ahead (punct ";" <|> lineEnd)

def expressionStatement (g : Rules) : Reader Forest := node "expression_statement" do
  let f ← yielded g <|> do
    let f ← commaList (starOrExpression g)
    assignmentOf g f <|> pure f
  require (← simpleEnds)
  return f

def dottedName : Reader Forest := node "dotted_name" (sepBy1 (punct ".") identifier)

def importedName : Reader Forest := do
  let name ← dottedName
  (do let tail ← keyword "as" ++ role "alias" identifier
      return enclose "aliased_import" (assign "name" name ++ tail)) <|> pure name

def importList : Reader Forest := commaList (role "name" importedName)

def importStatement : Reader Forest := node "import_statement" (keyword "import" ++ importList)

def namesFrom : Reader Forest := bracketed "(" ")" importList <|> importList

def futureImport : Reader Forest :=
  node "future_import_statement" (keyword "from" ++ keyword "__future__" ++ keyword "import" ++
    namesFrom)

def relativeImport : Reader Forest :=
  node "relative_import"
    (node "import_prefix" (many1 (sign ".")) ++ opt dottedName)

def importFrom : Reader Forest :=
  node "import_from_statement" (keyword "from" ++
    role "module_name" (relativeImport <|> dottedName) ++ keyword "import" ++
    (node "wildcard_import" (punct "*") <|> namesFrom))

def printStatement (g : Rules) : Reader Forest :=
  node "print_statement" (keyword "print" ++
    ((node "chevron" (punct ">>" ++ g .expression) ++
        many (punct "," ++ role "argument" (g .expression)) ++ opt (punct ",")) <|>
      commaList (role "argument" (g .expression))))

def printsToFile : Reader Bool := ahead (keyword "print" ++ punct ">>")

def execStatement (g : Rules) : Reader Forest :=
  node "exec_statement" (keyword "exec" ++ role "code" (strings g <|> identifier) ++
    opt (keyword "in" ++ sepBy1 (punct ",") (g .expression)))

def typeAlias (g : Rules) : Reader Forest :=
  node "type_alias_statement" (keyword "type" ++ role "left" (typeHint g) ++ punct "=" ++
    role "right" (typeHint g))

def wordOnly (kind word : String) : Reader Forest := node kind (keyword word)

def assertStatement (g : Rules) : Reader Forest :=
  node "assert_statement" (keyword "assert" ++ sepBy1 (punct ",") (g .expression))

def returnStatement (g : Rules) : Reader Forest :=
  node "return_statement" (keyword "return" ++ opt (expressions g))

def deleteStatement (g : Rules) : Reader Forest :=
  node "delete_statement" (keyword "del" ++ expressions g)

def raiseStatement (g : Rules) : Reader Forest :=
  node "raise_statement" (keyword "raise" ++ opt (expressions g) ++
    opt (keyword "from" ++ role "cause" (g .expression)))

def scopeStatement (kind word : String) : Reader Forest :=
  node kind (keyword word ++ sepBy1 (punct ",") identifier)

def wordStatement (g : Rules) (word : String) : Reader Forest :=
  match word with
  | "import" => importStatement
  | "from" => futureImport <|> importFrom
  | "assert" => assertStatement g
  | "return" => returnStatement g
  | "del" => deleteStatement g
  | "raise" => raiseStatement g
  | "pass" => wordOnly "pass_statement" "pass"
  | "break" => wordOnly "break_statement" "break"
  | "continue" => wordOnly "continue_statement" "continue"
  | "global" => scopeStatement "global_statement" "global"
  | "nonlocal" => scopeStatement "nonlocal_statement" "nonlocal"
  | "print" => do
    if ← printsToFile then printStatement g else expressionStatement g <|> printStatement g
  | "exec" => expressionStatement g <|> execStatement g
  | "type" => expressionStatement g <|> typeAlias g
  | _ => expressionStatement g

def simpleStatement (g : Rules) : Reader Forest := trivia ++ do
  wordStatement g (← wordAhead)

def line (g : Rules) : Reader Forest :=
  sepBy1 (punct ";") (simpleStatement g) ++ opt (punct ";") ++ lineEnd

/-! ## Blocks -/

def stays (indent : Nat) : Reader Unit := do
  match ← layout with
  | some l => require (!l.leaves indent)
  | none => pure ()

/-- Statements until a line leaves the block. The comments up to it belong to the block as far as
they are indented like it. -/
def blockItem (g : Rules) (indent : Nat) : Reader Forest := do
  stays indent
  (do skipWhile isSpaceOrBreak
      comment <|> continuation) <|> g (.statement indent)

def indentedBlock (indent : Nat) (item : Nat → Reader Forest) : Reader Forest := do
  match ← layout with
  | none => failure
  | some l => do
    require (indent < l.indent)
    statementTrivia ++ node "block" (many (item l.indent) ++ mark)

def colonTrivia : Reader Forest := do
  skipWhile isSpace
  many do
    let c ← comment <|> continuation
    skipWhile isSpace
    return c

/-- What a colon governs: an indented block, the rest of the line, or nothing. -/
def suiteOf (indent : Nat) (item : Nat → Reader Forest) (rest : Reader Forest) :
    Reader Forest := do
  let before ← colonTrivia
  let inside ← oneOf [indentedBlock indent item, do require (← layout).isSome; node "block" mark,
    node "block" rest]
  return before ++ inside

def suite (g : Rules) (indent : Nat) : Reader Forest :=
  suiteOf indent (blockItem g) (line g)

def clause (indent : Nat) (r : Reader Forest) : Reader Forest := do
  stays indent
  statementTrivia ++ r

/-! ## Compound statements -/

def elseClause (g : Rules) (indent : Nat) : Reader Forest :=
  node "else_clause" (keyword "else" ++ punct ":" ++ role "body" (suite g indent))

def ifStatement (g : Rules) (indent : Nat) : Reader Forest :=
  node "if_statement" (keyword "if" ++ role "condition" (g .expression) ++ punct ":" ++
    role "consequence" (suite g indent) ++
    many (role "alternative" (clause indent (node "elif_clause"
      (keyword "elif" ++ role "condition" (g .expression) ++ punct ":" ++
        role "consequence" (suite g indent))))) ++
    opt (role "alternative" (clause indent (elseClause g indent))))

def forStatement (g : Rules) (indent : Nat) : Reader Forest :=
  node "for_statement" (opt (keyword "async") ++ keyword "for" ++ role "left" (loopTarget g) ++
    keyword "in" ++ role "right" (expressions g) ++ punct ":" ++ role "body" (suite g indent) ++
    opt (role "alternative" (clause indent (elseClause g indent))))

def whileStatement (g : Rules) (indent : Nat) : Reader Forest :=
  node "while_statement" (keyword "while" ++ role "condition" (g .expression) ++ punct ":" ++
    role "body" (suite g indent) ++
    opt (role "alternative" (clause indent (elseClause g indent))))

def exceptClause (g : Rules) (indent : Nat) : Reader Forest := do
  let head ← keyword "except"
  let group ← opt (punct "*")
  let tail ← opt (commaList (g .expression)) ++ punct ":" ++ suite g indent
  return enclose (if group.isEmpty then "except_clause" else "except_group_clause")
    (head ++ group ++ tail)

def tryStatement (g : Rules) (indent : Nat) : Reader Forest :=
  node "try_statement" (keyword "try" ++ punct ":" ++ role "body" (suite g indent) ++
    many (clause indent (exceptClause g indent)) ++
    opt (clause indent (elseClause g indent)) ++
    opt (clause indent (node "finally_clause"
      (keyword "finally" ++ punct ":" ++ suite g indent))))

def withStatement (g : Rules) (indent : Nat) : Reader Forest :=
  node "with_statement" (opt (keyword "async") ++ keyword "with" ++
    node "with_clause" (commaList (node "with_item" (role "value" (g .expression)))) ++
    punct ":" ++ role "body" (suite g indent))

def typeParameters (g : Rules) : Reader Forest :=
  node "type_parameter" (bracketed "[" "]" (commaList do
    let name ← typeHint g <|> node "type" (node "splat_type" (punct "**" ++ identifier))
    (do let bound ← punct ":" ++ typeHint g
        return enclose "type" (enclose "constrained_type" (name ++ bound))) <|> pure name))

def parameters (g : Rules) : Reader Forest :=
  node "parameters" (bracketed "(" ")" (opt (commaList (parameter g true))))

def functionDefinition (g : Rules) (indent : Nat) : Reader Forest :=
  node "function_definition" (opt (keyword "async") ++ keyword "def" ++ role "name" identifier ++
    opt (role "type_parameters" (typeParameters g)) ++ role "parameters" (parameters g) ++
    opt (punct "->" ++ role "return_type" (typeHint g)) ++ punct ":" ++
    role "body" (suite g indent))

def classDefinition (g : Rules) (indent : Nat) : Reader Forest :=
  node "class_definition" (keyword "class" ++ role "name" identifier ++
    opt (role "type_parameters" (typeParameters g)) ++
    opt (role "superclasses" (argumentList g)) ++ punct ":" ++ role "body" (suite g indent))

def decorator (g : Rules) : Reader Forest :=
  node "decorator" (punct "@" ++ g .expression ++ lineEnd)

def decoratedDefinition (g : Rules) (indent : Nat) : Reader Forest :=
  node "decorated_definition" (many1 (decorator g ++ statementTrivia) ++
    role "definition" (classDefinition g indent <|> functionDefinition g indent))

def caseClause (g : Rules) (indent : Nat) : Reader Forest :=
  node "case_clause" (keyword "case" ++ node "case_pattern" (commaList (starOrExpression g)) ++
    opt (role "guard" (ifClause g)) ++ punct ":" ++ role "consequence" (suite g indent))

def caseItem (g : Rules) (indent : Nat) : Reader Forest := do
  stays indent
  (do skipWhile isSpaceOrBreak
      comment <|> continuation) <|> statementTrivia ++ role "alternative" (caseClause g indent)

def matchStatement (g : Rules) (indent : Nat) : Reader Forest :=
  node "match_statement" (keyword "match" ++ role "subject" (commaList (starOrExpression g)) ++
    punct ":" ++ role "body" (suiteOf indent (caseItem g) failure))

def compoundStatement (g : Rules) (indent : Nat) (word : String) : Reader Forest :=
  match word with
  | "if" => ifStatement g indent
  | "for" => forStatement g indent
  | "while" => whileStatement g indent
  | "try" => tryStatement g indent
  | "with" => withStatement g indent
  | "def" => functionDefinition g indent
  | "class" => classDefinition g indent
  | "match" => matchStatement g indent <|> line g
  | "async" => oneOf [functionDefinition g indent, forStatement g indent, withStatement g indent,
      line g]
  | _ => line g

def statement (g : Rules) (indent : Nat) : Reader Forest := statementTrivia ++ do
  match (← rest).head? with
  | none => failure
  | some '@' => decoratedDefinition g indent
  | some _ => compoundStatement g indent (← wordAhead)

/-! ## Modules -/

def moduleBody (g : Rules) : Reader Forest := many (g (.statement 0)) ++ statementTrivia

/-- What each goal reads, given what the goals read below it. -/
def ruleOf (g : Rules) : Rules
  | .statement indent => statement g indent
  | .expression => expression g
  | .operand level => operand g level
  | .primary => primary g
  | .assigned => assigned g
  | .interpolation => interpolation g

def rulesUpTo : Nat → Rules
  | 0 => fun _ _ => none
  | n + 1 => fun goal i => ruleOf (rulesUpTo n) goal i

def goalsPerCharacter : Nat := 12

/-- The syntax tree of a module; a text that is no module has an empty one. -/
def parse (cs : List Char) : Node :=
  let depth := goalsPerCharacter * (cs.length + 1)
  let children := run (moduleBody (rulesUpTo depth)) cs
  { kind := if children.isSome then "module" else "ERROR"
    named := true
    field := none
    start := 0
    stop := (Text.Utf8.encode cs).length
    children := (children.getD []).filter (!isMark ·) }

end Gazetteer.Python.Grammar

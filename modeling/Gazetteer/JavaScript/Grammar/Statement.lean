import Gazetteer.JavaScript.Grammar.Expression

/-! # Statements and modules -/

namespace Gazetteer.JavaScript.Grammar

open Gazetteer.Reading

def parenthesized (g : Rules) : Reader Forest :=
  node "parenthesized_expression" (bracketed "(" ")" (g .expressions))

def block (g : Rules) (mid : Bool) : Reader Forest :=
  node "statement_block"
    (bracketed "\x7b" "\x7d" (many (g .statement)) ++ opt (endMark mid))

def destructuring (g : Rules) : Reader Forest := do
  return toPatterns (← object g <|> array g)

def binding (g : Rules) : Reader Forest := identifier <|> destructuring g

/-! ## Declarations -/

def declarator (g : Rules) : Reader Forest :=
  node "variable_declarator" (role "name" (binding g) ++ opt (initializer g))

def endsInValue (f : Forest) : Bool :=
  (lastNode? f).any fun d => (d.child? "value").isSome

def declarators (g : Rules) : Reader Forest := do
  let ds ← sepBy1 (punct ",") (declarator g)
  return ds ++ (← semicolon (endsInValue ds))

def variableDeclaration (g : Rules) : Reader Forest :=
  node "variable_declaration" (keyword "var" ++ declarators g)

def letOrConst : Reader Forest := role "kind" (keyword "let" <|> keyword "const")

def lexicalDeclaration (g : Rules) : Reader Forest :=
  node "lexical_declaration" (letOrConst ++ declarators g)

def usingDeclaration (g : Rules) : Reader Forest :=
  node "using_declaration"
    (role "kind" (opt (keyword "await") ++ keyword "using") ++ do
      require (!(← statementEnds true))
      declarators g)

def declaration (g : Rules) : Reader Forest :=
  oneOf [functionDeclaration g, classDeclaration g, lexicalDeclaration g, variableDeclaration g,
    usingDeclaration g]

/-! ## Modules -/

def fromClause : Reader Forest := keyword "from" ++ role "source" string

def moduleName : Reader Forest := oneOf [identifier, string, keyword "default"]

def specifier (kind : String) : Reader Forest :=
  node kind (role "name" moduleName ++ opt (keyword "as" ++ role "alias" moduleName))

def specifiers (clause kind : String) : Reader Forest :=
  node clause (bracketed "\x7b" "\x7d"
    (opt (sepBy1 (punct ",") (specifier kind)) ++ opt (punct ",")))

def namespaceImport : Reader Forest :=
  node "namespace_import" (punct "*" ++ keyword "as" ++ identifier)

def namedImports : Reader Forest := specifiers "named_imports" "import_specifier"

def importClause : Reader Forest :=
  node "import_clause" (oneOf [
    namespaceImport,
    namedImports,
    identifier ++ opt (punct "," ++ (namespaceImport <|> namedImports))])

def importAttribute (g : Rules) : Reader Forest :=
  node "import_attribute" (keyword "with" ++ object g)

def importStatement (g : Rules) : Reader Forest :=
  node "import_statement" (keyword "import" ++
    ((importClause ++ fromClause) <|> role "source" string) ++
    opt (importAttribute g) ++ semicolon false)

def passedFrom (g : Rules) : Reader Forest := fromClause ++ opt (importAttribute g)

def exportClause : Reader Forest := specifiers "export_clause" "export_specifier"

def namespaceExport : Reader Forest :=
  node "namespace_export" (punct "*" ++ keyword "as" ++ moduleName)

def exportedNames (g : Rules) : Reader Forest :=
  oneOf [
    namespaceExport ++ passedFrom g,
    punct "*" ++ passedFrom g,
    exportClause ++ passedFrom g,
    exportClause] ++ semicolon false

def exportDefault (g : Rules) : Reader Forest :=
  keyword "default" ++
    (role "declaration" (declaration g) <|> (role "value" (g .expression) ++ semicolon true))

def exportStatement (g : Rules) : Reader Forest :=
  node "export_statement"
    (decorators g ++ keyword "export" ++
      oneOf [exportedNames g, exportDefault g, role "declaration" (declaration g)])

/-! ## Control flow -/

def elseClause (g : Rules) : Reader Forest :=
  node "else_clause" (keyword "else" ++ g .statement)

def ifStatement (g : Rules) : Reader Forest :=
  node "if_statement" (keyword "if" ++ role "condition" (parenthesized g) ++
    role "consequence" (g .statement) ++ opt (role "alternative" (elseClause g)))

def emptyStatement : Reader Forest := node "empty_statement" (punct ";")

def loopVariable (g : Rules) : Reader Forest :=
  oneOf [
    role "kind" (keyword "var") ++ role "left" (binding g) ++ opt (initializer g),
    letOrConst ++ role "left" (binding g),
    role "left" do return toPatterns (← primary g >>= extend (chainStep g))]

def forInStatement (g : Rules) : Reader Forest :=
  node "for_in_statement" (keyword "for" ++ opt (keyword "await") ++
    bracketed "(" ")" (loopVariable g ++ role "operator" (keyword "in" <|> keyword "of") ++
      role "right" (g .expressions)) ++
    role "body" (g .statement))

def forStatement (g : Rules) : Reader Forest :=
  node "for_statement" (keyword "for" ++
    bracketed "(" ")" (
      oneOf [
        role "initializer" (oneOf [lexicalDeclaration g, variableDeclaration g, emptyStatement]),
        role "initializer" (g .expressions) ++ punct ";"] ++
      role "condition" (emptyStatement <|> (g .expressions ++ punct ";")) ++
      opt (role "increment" (g .expressions))) ++
    role "body" (g .statement))

def whileStatement (g : Rules) : Reader Forest :=
  node "while_statement" (keyword "while" ++ role "condition" (parenthesized g) ++
    role "body" (g .statement))

def doStatement (g : Rules) : Reader Forest :=
  node "do_statement" (keyword "do" ++ role "body" (g .statement) ++ keyword "while" ++
    role "condition" (parenthesized g) ++ opt (semicolon false))

def withStatement (g : Rules) : Reader Forest :=
  node "with_statement" (keyword "with" ++ role "object" (parenthesized g) ++
    role "body" (g .statement))

def switchCase (g : Rules) : Reader Forest :=
  node "switch_case" (keyword "case" ++ role "value" (g .expressions) ++ punct ":" ++
    role "body" (many (g .statement)))

def switchDefault (g : Rules) : Reader Forest :=
  node "switch_default" (keyword "default" ++ punct ":" ++ role "body" (many (g .statement)))

def switchStatement (g : Rules) : Reader Forest :=
  node "switch_statement" (keyword "switch" ++ role "value" (parenthesized g) ++
    role "body" (node "switch_body"
      (bracketed "\x7b" "\x7d" (many (switchCase g <|> switchDefault g)))))

def catchClause (g : Rules) : Reader Forest :=
  node "catch_clause" (keyword "catch" ++
    opt (bracketed "(" ")" (role "parameter" (binding g))) ++ role "body" (g (.block false)))

def finallyClause (g : Rules) : Reader Forest :=
  node "finally_clause" (keyword "finally" ++ role "body" (g (.block false)))

def tryStatement (g : Rules) : Reader Forest :=
  node "try_statement" (keyword "try" ++ role "body" (g (.block false)) ++
    opt (role "handler" (catchClause g)) ++ opt (role "finalizer" (finallyClause g)))

def onSameLine (r : Reader Forest) : Reader Forest := opt do
  require (!(← statementEnds false))
  r

def label : Reader Forest := role "label" (identifierAs "statement_identifier")

def jump (kind word : String) : Reader Forest :=
  node kind (keyword word ++ onSameLine label ++ semicolon false)

def returnStatement (g : Rules) : Reader Forest := node "return_statement" do
  let head ← keyword "return"
  let value ← onSameLine (g .expressions)
  return head ++ value ++ (← semicolon (!value.isEmpty))

def throwStatement (g : Rules) : Reader Forest :=
  node "throw_statement" (keyword "throw" ++ g .expressions ++ semicolon true)

def debuggerStatement : Reader Forest :=
  node "debugger_statement" (keyword "debugger" ++ semicolon false)

def labeledStatement (g : Rules) : Reader Forest :=
  node "labeled_statement" (label ++ punct ":" ++ role "body" (g .statement))

def expressionStatement (g : Rules) : Reader Forest :=
  node "expression_statement" (g .expressions ++ semicolon true)

def simpleStatement (g : Rules) : Reader Forest := labeledStatement g <|> expressionStatement g

def wordStatement (g : Rules) : Reader Forest := do
  match String.ofList (← wordAhead) with
  | "var" => variableDeclaration g
  | "let" | "const" => lexicalDeclaration g <|> simpleStatement g
  | "using" | "await" => usingDeclaration g <|> simpleStatement g
  | "function" => functionDeclaration g <|> simpleStatement g
  | "async" => functionDeclaration g <|> simpleStatement g
  | "class" => classDeclaration g <|> simpleStatement g
  | "import" => importStatement g <|> simpleStatement g
  | "export" => exportStatement g <|> simpleStatement g
  | "if" => ifStatement g
  | "for" => forInStatement g <|> forStatement g
  | "while" => whileStatement g
  | "do" => doStatement g
  | "with" => withStatement g
  | "switch" => switchStatement g
  | "try" => tryStatement g
  | "break" => jump "break_statement" "break"
  | "continue" => jump "continue_statement" "continue"
  | "return" => returnStatement g
  | "throw" => throwStatement g
  | "debugger" => debuggerStatement
  | _ => simpleStatement g

def statement (g : Rules) : Reader Forest := statementTrivia ++ do
  match (← rest).head? with
  | none => failure
  | some '\x7b' => braceOf (g (.block false)) (expressionStatement g)
  | some ';' => emptyStatement
  | some '@' => oneOf [classDeclaration g, exportStatement g, expressionStatement g]
  | some _ => wordStatement g

/-! ## Programs -/

def hashBang : Reader Forest := trivia ++ leaf "hash_bang_line" true do
  exact "#!"
  skipWhile (· != '\n')

def program (g : Rules) : Reader Forest :=
  opt hashBang ++ many (g .statement) ++ statementTrivia

/-- What each goal reads, given what the goals read below it. -/
def ruleOf (g : Rules) : Rules
  | .statement => statement g
  | .block mid => block g mid
  | .expressions => expressions g
  | .expression => expression g
  | .operand level => operand g level
  | .unary => unary g
  | .newObject => newObject g
  | .arrowBody => arrowBody g
  | .markup => markup g

def rulesUpTo : Nat → Rules
  | 0 => fun _ _ => none
  | n + 1 => fun goal i => ruleOf (rulesUpTo n) goal i

/-- How many goals may be open before a character is consumed. -/
def goalsPerCharacter : Nat := 12

/-- The syntax tree of a program; a text that is no program has an empty one. -/
def parse (cs : List Char) : Node :=
  let depth := goalsPerCharacter * (cs.length + 1)
  let children := run (program (rulesUpTo depth)) cs
  { kind := if children.isSome then "program" else "ERROR"
    named := true
    field := none
    start := 0
    stop := (Text.Utf8.encode cs).length
    children := children.getD [] }

end Gazetteer.JavaScript.Grammar

import Gazetteer.JavaScript.Grammar.Goal

/-! # Functions, methods and classes -/

namespace Gazetteer.JavaScript.Grammar

open Gazetteer.Reading

/-- The word that makes a function asynchronous. A line break behind it makes it a name instead. -/
def asyncWord : Reader Forest := do
  let word ← keyword "async"
  require (!(← statementEnds true))
  return word

def functionOf (g : Rules) (mid : Bool) (plain generator : String) (name : Reader Forest) :
    Reader Forest := do
  let head ← opt asyncWord ++ keyword "function"
  let star ← opt (punct "*")
  let tail ← role "name" name ++ role "parameters" (formalParameters g) ++
    role "body" (g (.block mid))
  return enclose (if star.isEmpty then plain else generator) (head ++ star ++ tail)

def functionExpression (g : Rules) : Reader Forest :=
  functionOf g true "function_expression" "generator_function" (opt identifier)

def functionDeclaration (g : Rules) : Reader Forest :=
  functionOf g false "function_declaration" "generator_function_declaration" identifier

/-! ## Members -/

def decoratorName : Reader Forest := identifier >>= extend fun base => do
  let tail ← punct "." ++ role "property" (anyWordAs "property_identifier")
  return enclose "member_expression" (assign "object" base ++ tail)

def decorator (g : Rules) : Reader Forest := node "decorator" do
  let at_ ← punct "@"
  let name ← decoratorName
  let call : Reader Forest := do
    let args ← role "arguments" (arguments g)
    return enclose "call_expression" (assign "function" name ++ args)
  return at_ ++ (← call <|> pure name)

def decorators (g : Rules) : Reader Forest := many (role "decorator" (decorator g))

/-- A word that qualifies the member after it, unless the member ends with the word. -/
def modifier (inClass : Bool) (s : String) : Reader Forest := do
  let w ← keyword s
  require (!(inClass && (← statementEnds false)))
  return w

def staticGet : Reader Forest := trivia ++ leaf "static get" false do
  exact "static"
  skipSome Char.isWhitespace
  exact "get"
  skipWhile fun c => c.isWhitespace && c != '\n'
  exact "\n"

def methodCore (g : Rules) : Reader Forest :=
  role "name" (propertyName g) ++ role "parameters" (formalParameters g) ++
    role "body" (g (.block false))

def maybeBefore (first second : Reader Forest) : Reader Forest := (first ++ second) <|> second

def method (inClass : Bool) (g : Rules) : Reader Forest :=
  node "method_definition" (decorators g ++
    maybeBefore (staticGet <|> modifier inClass "static")
      (maybeBefore (modifier inClass "async")
        (maybeBefore (oneOf [modifier inClass "get", modifier inClass "set", punct "*"])
          (methodCore g))))

def initializer (g : Rules) : Reader Forest := punct "=" ++ role "value" (g .expression)

def field (g : Rules) : Reader Forest := do
  let head ← decorators g ++
    maybeBefore (staticGet <|> modifier true "static") (role "property" (propertyName g))
  let value ← opt (initializer g)
  let close ← semicolon (!value.isEmpty)
  return assign "member" (enclose "field_definition" (head ++ value)) ++ close

def staticBlock (g : Rules) : Reader Forest :=
  node "class_static_block" (keyword "static" ++ role "body" (g (.block false)))

def member (g : Rules) : Reader Forest :=
  oneOf [
    role "member" (method true g) ++ opt (punct ";"),
    role "member" (staticBlock g),
    field g,
    punct ";"]

def classBody (g : Rules) : Reader Forest :=
  node "class_body" (bracketed "\x7b" "\x7d" (many (member g)))

def heritage (g : Rules) : Reader Forest :=
  node "class_heritage" (keyword "extends" ++ g .expression)

def classOf (g : Rules) (name : Reader Forest) : Reader Forest :=
  decorators g ++ keyword "class" ++ role "name" name ++ opt (heritage g) ++
    role "body" (classBody g)

def classExpression (g : Rules) : Reader Forest := node "class" (classOf g (opt identifier))

def classDeclaration (g : Rules) : Reader Forest :=
  node "class_declaration" (classOf g identifier ++ opt (endMark false))

end Gazetteer.JavaScript.Grammar

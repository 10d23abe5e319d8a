import Gazetteer.Significance

/-! # Symbols of a JavaScript tree

Five independent readings of a syntax tree: functions, variables, classes, imports and exports.
Node kinds that a reading does not know are passed over.
-/

namespace Gazetteer.JavaScript

def declaredFunctionKinds : List String :=
  ["function_declaration", "generator_function_declaration"]

def functionKinds : List String :=
  declaredFunctionKinds ++ ["method_definition", "arrow_function", "function_expression",
    "function", "generator_function"]

def declarationKinds : List String := ["lexical_declaration", "variable_declaration"]

/-- The name of the class or object literal that a method is defined in. -/
def methodOwner? (src : Source) (method : Place) : Option String := do
  let container ← method.parent?
  let named (p : Place) : Option String :=
    let name := inferName src p
    if name = anonymous then none else some name
  match container.node.kind, container.parent? with
  | "class_body", some cls =>
    match cls.node.childName? src "name" with
    | some name => some name
    | none => named cls
  | "object", _ => named container
  | _, _ => none

def ownName (src : Source) (n : Node) : String := (n.childName? src "name").getD anonymous

def functionName (src : Source) (p : Place) : String :=
  if declaredFunctionKinds.contains p.node.kind || p.node.kind = "method_definition" then
    ownName src p.node
  else
    let inferred := inferName src p
    if inferred = anonymous then ownName src p.node else inferred

def candidate (src : Source) (p : Place) : Candidate where
  place := p
  entry :=
    { name := functionName src p
      position := p.node.position src
      code := p.node.text src
      owner := if p.node.kind = "method_definition" then methodOwner? src p else none }

def candidates (src : Source) (root : Node) : List Candidate :=
  ((Place.root root).descendants functionKinds []).map (candidate src)

/-- The declaration that a top-level statement makes, exported or not. -/
def topDeclaration? (statement : Node) : Option Node :=
  (if statement.kind = "export_statement" then statement.child? "declaration"
    else some statement).filter fun d => declarationKinds.contains d.kind

def variableOf? (src : Source) (keyword : String) (declarator : Node) : Option VariableEntry :=
  if declarator.kind = "variable_declarator" then
    (declarator.childName? src "name").map fun name =>
      { name, keyword, position := declarator.position src, code := declarator.text src }
  else none

def declaredVariables (src : Source) (declaration : Node) : List VariableEntry :=
  let keyword := (declaration.childName? src "kind").getD "var"
  declaration.namedChildren.filterMap (variableOf? src keyword)

def bindings (src : Source) (root : Node) : List VariableEntry :=
  (root.namedChildren.filterMap topDeclaration?).flatMap (declaredVariables src)

def methodOf? (src : Source) (member : Node) : Option MethodEntry :=
  if member.kind = "method_definition" then
    (member.childName? src "name").map fun name =>
      { name
        position := member.position src
        isStatic := member.hasChild "static"
        code := member.text src }
  else none

def members (cls : Node) : List Node := (cls.child? "body").elim [] Node.namedChildren

def classOf? (src : Source) (cls : Node) : Option ClassEntry :=
  (cls.childName? src "name").map fun name =>
    { name
      position := cls.position src
      code := cls.text src
      methods := (members cls).filterMap (methodOf? src) }

def classes (src : Source) (root : Node) : List ClassEntry :=
  ((Place.root root).descendants ["class_declaration"] []).filterMap fun p => classOf? src p.node

def specifier? (src : Source) (kind : String) (n : Node) : Option Item :=
  if n.kind = kind then
    (n.childName? src "name").map fun name => { name, asName := n.childText? src "alias" }
  else none

def boundItems (src : Source) (n : Node) : List Item :=
  match n.kind with
  | "identifier" => [{ name := "default", asName := some (n.text src) }]
  | "namespace_import" =>
    [{ name := "*", asName := (n.namedChildren.find? (·.kind == "identifier")).map (·.text src) }]
  | "named_imports" => n.namedChildren.filterMap (specifier? src "import_specifier")
  | _ => []

def importOf? (src : Source) (n : Node) : Option ImportEntry :=
  (n.childText? src "source").map fun source =>
    { source := stripQuotes source
      position := n.position src
      code := n.text src
      items := (n.namedChildren.filter (·.kind == "import_clause")).flatMap fun clause =>
        clause.namedChildren.flatMap (boundItems src) }

def imports (src : Source) (root : Node) : List ImportEntry :=
  ((Place.root root).descendants ["import_statement"] []).filterMap fun p => importOf? src p.node

def passedItems (src : Source) (n : Node) : List Item :=
  match n.kind with
  | "*" => [{ name := "*", asName := none }]
  | "namespace_export" => [{ name := "*", asName := n.namedChildren.head?.map (·.text src) }]
  | "export_clause" => n.namedChildren.filterMap (specifier? src "export_specifier")
  | _ => []

def statementItems (src : Source) (n : Node) : List Item :=
  match n.child? "value" with
  | some value =>
    if value.kind = "identifier" then [{ name := value.text src, asName := none }] else []
  | none => n.children.flatMap (passedItems src)

/-- The name of a declaration: of its first declarator, or its own. -/
def declaredName? (src : Source) (declaration : Node) : Option String :=
  if declarationKinds.contains declaration.kind then
    (declaration.namedChildren.find? (·.kind == "variable_declarator")).bind fun d =>
      d.childName? src "name"
  else declaration.childName? src "name"

/-- The statement itself, and a second entry for the name it declares. -/
def exportsOf (src : Source) (n : Node) : List ExportEntry :=
  let entry : ExportEntry :=
    { source := (n.childName? src "source").map stripQuotes
      position := n.position src
      code := n.text src
      items := statementItems src n
      isDefault := n.hasChild "default" }
  match (n.child? "declaration").bind (declaredName? src) with
  | some name => [entry, { entry with source := none, items := [{ name, asName := none }] }]
  | none => [entry]

def exports (src : Source) (root : Node) : List ExportEntry :=
  ((Place.root root).descendants ["export_statement"] []).flatMap fun p => exportsOf src p.node

end Gazetteer.JavaScript

import Gazetteer.Significance
import Gazetteer.Text.Blank

/-! # Symbols of a Python tree

Five independent readings of a syntax tree: functions, variables, classes, imports and the names a
module declares public.
-/

namespace Gazetteer.Python

/-- The class whose body directly holds a definition, decorated or not. -/
def enclosingClass? (p : Place) : Option Node := do
  let q ← p.parent?
  let block ← if q.node.kind = "decorated_definition" then q.parent? else some q
  let owner ← if block.node.kind = "block" then block.parent? else none
  if owner.node.kind = "class_definition" then some owner.node else none

def functionName (src : Source) (p : Place) : String :=
  if p.node.kind = "lambda" then inferName src p
  else (p.node.childName? src "name").getD anonymous

def candidate (src : Source) (p : Place) : Candidate where
  place := p
  entry :=
    { name := functionName src p
      position := p.node.position src
      code := p.node.text src
      owner :=
        if p.node.kind = "lambda" then none
        else (enclosingClass? p).bind fun cls => cls.childText? src "name" }

def candidates (src : Source) (root : Node) : List Candidate :=
  ((Place.root root).descendants ["function_definition", "lambda"] []).map (candidate src)

def inDeclarationScope (p : Place) : Bool :=
  match p.parent? with
  | none => false
  | some statement =>
    statement.node.kind == "expression_statement" &&
      match statement.parent? with
      | none => false
      | some scope =>
        scope.node.kind == "module" ||
          (scope.node.kind == "block" &&
            scope.parent?.any (·.node.kind == "class_definition"))

def variableOf? (src : Source) (p : Place) : Option VariableEntry :=
  if inDeclarationScope p then
    ((p.node.child? "left").filter (·.kind == "identifier")).map fun left =>
      { name := left.text src
        keyword := "var"
        position := p.node.position src
        code := p.node.text src }
  else none

def bindings (src : Source) (root : Node) : List VariableEntry :=
  ((Place.root root).descendants ["assignment"] []).filterMap (variableOf? src)

/-- The definition in a statement of a class body, with the texts of its decorators. -/
def definition (src : Source) (statement : Node) : Option Node × List String :=
  if statement.kind = "decorated_definition" then
    (statement.child? "definition",
      (statement.namedChildren.filter (·.kind == "decorator")).map fun d => Text.trim (d.text src))
  else (some statement, [])

def methodOf? (src : Source) (statement : Node) : Option MethodEntry :=
  let (defined, decorators) := definition src statement
  (defined.filter (·.kind == "function_definition")).bind fun d =>
    (d.childName? src "name").map fun name =>
      { name
        position := d.position src
        isStatic := decorators.contains "@staticmethod"
        code := d.text src }

def members (cls : Node) : List Node := (cls.child? "body").elim [] Node.namedChildren

def classOf? (src : Source) (cls : Node) : Option ClassEntry :=
  (cls.childName? src "name").map fun name =>
    { name
      position := cls.position src
      code := cls.text src
      methods := (members cls).filterMap (methodOf? src) }

def classes (src : Source) (root : Node) : List ClassEntry :=
  ((Place.root root).descendants ["class_definition"] []).filterMap fun p => classOf? src p.node

def importedName (src : Source) (n : Node) : Option Item :=
  if n.kind = "aliased_import" then
    (n.childName? src "name").map fun name => { name, asName := n.childText? src "alias" }
  else
    let name := n.text src
    if name = "" then none else some { name, asName := none }

def moduleImports (src : Source) (n : Node) : List ImportEntry :=
  ((n.childrenIn "name").filterMap (importedName src)).map fun item =>
    { source := item.name
      position := n.position src
      code := n.text src
      items := [{ name := "module", asName := item.asName }] }

def importSource? (src : Source) (n : Node) : Option String :=
  if n.kind = "future_import_statement" then some "__future__"
  else n.childName? src "module_name"

def nameImportOf? (src : Source) (n : Node) : Option ImportEntry :=
  (importSource? src n).map fun source =>
    { source
      position := n.position src
      code := n.text src
      items := (n.childrenIn "name").filterMap (importedName src) ++
        if n.namedChildren.any (·.kind == "wildcard_import") then [{ name := "*", asName := none }]
        else [] }

def importsOf (src : Source) (n : Node) : List ImportEntry :=
  if n.kind = "import_statement" then moduleImports src n else (nameImportOf? src n).toList

def importKinds : List String :=
  ["import_statement", "import_from_statement", "future_import_statement"]

def imports (src : Source) (root : Node) : List ImportEntry :=
  ((Place.root root).descendants importKinds []).flatMap fun p => importsOf src p.node

/-- The public names of a module, when an assignment lists them as strings. -/
def publicNames? (src : Source) (assignment : Node) : Option ExportEntry :=
  if assignment.kind = "assignment" && assignment.childText? src "left" == some "__all__" then
    ((assignment.child? "right").filter fun v => ["list", "tuple"].contains v.kind).map fun v =>
      { source := none
        position := assignment.position src
        code := assignment.text src
        items := (v.namedChildren.filter (·.kind == "string")).map fun entry =>
          { name := stripQuotes (entry.text src), asName := none }
        isDefault := false }
  else none

def exports (src : Source) (root : Node) : List ExportEntry :=
  (root.namedChildren.filter (·.kind == "expression_statement")).flatMap fun statement =>
    statement.namedChildren.filterMap (publicNames? src)

end Gazetteer.Python

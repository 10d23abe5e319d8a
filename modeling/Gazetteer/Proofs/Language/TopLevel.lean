import Gazetteer.Proofs.Language.Functions
import Gazetteer.Proofs.Syntax.Tops

/-! # Statements at the top

What is read off a statement at the top of a tree does not depend on the statements beside it: no
reading looks past the top, nor at more than its kind. The lists of a table are those of the tables
of the parts, one after the other.
-/

namespace Gazetteer

namespace Language

variable {l : Language} {src : Source} {top top' : Node} {p : Place}

/-- A node that stands at the top of trees of the language. Its children have no roles. -/
structure IsTop (l : Language) (top : Node) : Prop where
  kind : top.kind = l.rootKind
  fieldless : ∀ n ∈ top.children, n.field = none

theorem IsTop.child?_eq_none (h : l.IsTop top) (role : String) : top.child? role = none :=
  List.find?_eq_none.mpr fun n hn => by simp [h.fieldless n hn]

def contextKinds : List String :=
  ["variable_declarator", "pair", "object", "assignment_expression", "assignment", "arguments",
    "argument_list", "call_expression", "member_expression", "call"]

theorem IsTop.kind_notMem (h : l.IsTop top) (kinds : List String) (hk : kinds ⊆ contextKinds) :
    top.kind ∉ kinds := by
  intro hm
  have hc := hk hm
  rw [h.kind] at hc
  cases l <;> revert hc <;> decide

/-! ## Names -/

theorem parentOf_on {kinds : List String} (h : top.kind ∉ kinds) (p : Place) :
    Clue.parentOf kinds (p.on top) = (Clue.parentOf kinds p).map (·.on top) := by
  unfold Clue.parentOf
  cases hq : p.parent? with
  | none => simp [Place.parent?_on_of_none hq, Place.root, h]
  | some q =>
    rw [Place.parent?_on_of_some hq]
    by_cases hk : q.node.kind ∈ kinds <;> simp [Option.filter_some, hk]

theorem nameAt_on (h : l.IsTop top) (clue : Clue) (p : Place) :
    clue.nameAt src (p.on top) = clue.nameAt src p := by
  have above (kinds : List String) (hk : kinds ⊆ contextKinds) (q : Place) :
      Clue.parentOf kinds (q.on top) = (Clue.parentOf kinds q).map (·.on top) :=
    parentOf_on (h.kind_notMem kinds hk) q
  cases clue with
  | boundVariable =>
    simp only [Clue.nameAt, Clue.boundVariableName, above ["variable_declarator"]
      (by decide)]
    cases Clue.parentOf ["variable_declarator"] p <;> rfl
  | objectKey =>
    simp only [Clue.nameAt, Clue.objectKeyName, above ["pair"] (by decide)]
    cases Clue.parentOf ["pair"] p with
    | none => rfl
    | some pair =>
      simp only [Option.map_some, Option.bind_eq_bind, Option.bind_some,
        above ["object"] (by decide)]
      cases Clue.parentOf ["object"] pair <;> rfl
  | assignmentTarget =>
    simp only [Clue.nameAt, Clue.assignmentTargetName,
      above ["assignment_expression", "assignment"] (by decide)]
    cases Clue.parentOf ["assignment_expression", "assignment"] p <;> rfl
  | promiseCallback =>
    simp only [Clue.nameAt, Clue.promiseCallbackName, above ["arguments"] (by decide)]
    cases Clue.parentOf ["arguments"] p with
    | none => rfl
    | some arguments =>
      simp only [Option.map_some, Option.bind_eq_bind, Option.bind_some,
        above ["call_expression"] (by decide)]
      cases Clue.parentOf ["call_expression"] arguments <;> rfl

theorem inferName_on (h : l.IsTop top) (p : Place) :
    inferName src (p.on top) = inferName src p := by
  simp only [inferName, inferNameBy, nameAt_on h]

theorem inferName_root (src : Source) (top : Node) :
    inferName src (.root top) = anonymous := by
  rfl

/-! ## Functions -/

theorem callContext_on (h : l.IsTop top) (p : Place) :
    Significance.callContext (p.on top) = Significance.callContext p := by
  have ha : ["arguments", "argument_list"].contains top.kind = false := by
    simpa using h.kind_notMem ["arguments", "argument_list"] (by decide)
  have hc : ["call_expression", "member_expression", "call"].contains top.kind = false := by
    simpa using h.kind_notMem ["call_expression", "member_expression", "call"]
      (by decide)
  unfold Significance.callContext
  cases hq : p.parent? with
  | none =>
    simp only [Place.parent?_on_of_none hq, Place.root, Option.bind_eq_bind, Option.bind_some,
      Option.bind_none, ha, hc, Bool.false_eq_true, if_false]
  | some q =>
    cases hk : ["arguments", "argument_list"].contains q.node.kind with
    | false =>
      simp only [Place.parent?_on_of_some hq, Option.bind_eq_bind, Option.bind_some, Place.node_on,
        hk, Bool.false_eq_true, if_false]
      rfl
    | true =>
      cases hr : q.parent? with
      | none =>
        simp only [Place.parent?_on_of_some hq, Option.bind_eq_bind, Option.bind_some,
          Place.node_on, hk, if_true, Place.parent?_on_of_none hr, hr, Place.root, Option.bind_none,
          hc, Bool.false_eq_true, if_false]
      | some r =>
        simp only [Place.parent?_on_of_some hq, Option.bind_eq_bind, Option.bind_some,
          Place.node_on, hk, if_true, Place.parent?_on_of_some hr, hr]
        rfl

theorem methodOwner?_on (h : javascript.IsTop top) (p : Place) :
    JavaScript.methodOwner? src (p.on top) = JavaScript.methodOwner? src p := by
  have hk : top.kind = "program" := h.kind
  have hn : top.childName? src "name" = none := by
    simp [Node.childName?, Node.childText?, h.child?_eq_none]
  unfold JavaScript.methodOwner?
  cases hq : p.parent? with
  | none => simp [Place.parent?_on_of_none hq, Place.root, hk]
  | some q =>
    simp only [Place.parent?_on_of_some hq, Option.bind_eq_bind, Option.bind_some, Place.node_on,
      inferName_on h]
    cases hr : q.parent? with
    | none =>
      -- A class body at the top has the top in the place of its class.
      rw [Place.parent?_on_of_none hr]
      by_cases hb : q.node.kind = "class_body"
      · simp [hb, hn, Place.root]
        exact inferName_root src top
      · by_cases ho : q.node.kind = "object"
        · simp [ho]
        · simp [hb]
    | some r =>
      rw [Place.parent?_on_of_some hr]
      by_cases hb : q.node.kind = "class_body"
      · simp only [hb]
        rw [inferName_on h]
        rfl
      · by_cases ho : q.node.kind = "object"
        · simp [ho]
        · simp [hb]

theorem enclosingClass?_on (h : python.IsTop top) (p : Place) :
    Python.enclosingClass? (p.on top) = Python.enclosingClass? p := by
  have hk : top.kind = "module" := h.kind
  rw [enclosingClass?_eq, enclosingClass?_eq]
  obtain ⟨n, _ | ⟨m, _ | ⟨k, _ | ⟨j, above⟩⟩⟩⟩ := p <;>
    simp [definingClass?, Place.parent?, Place.on, classAbove?, wrapperKinds, bodyKind, classKind,
      hk]

/-- What is noted about a function depends on its own tree. -/
theorem entry_candidate_on (h : l.IsTop top) (p : Place) :
    (l.candidate src (p.on top)).entry = (l.candidate src p).entry := by
  cases l with
  | javascript =>
    simp only [candidate, JavaScript.candidate, JavaScript.functionName, Place.node_on,
      inferName_on h, methodOwner?_on h]
    rfl
  | python =>
    simp only [candidate, Python.candidate, Python.functionName, Place.node_on, inferName_on h,
      enclosingClass?_on h]

theorem isSignificant_candidate_on (h : l.IsTop top) (p : Place) :
    isSignificant l.inlineKinds src (l.candidate src (p.on top)) =
      isSignificant l.inlineKinds src (l.candidate src p) := by
  simp only [isSignificant, candidate_place, entry_candidate_on h, callContext_on h, Place.node_on]

/-- The functions of a tree are read off the trees below its top. -/
theorem functions_eq (h : l.IsTop top) (src : Source) : l.functions src top =
    ((((Place.placesIn top.children).filter (Place.isNamedOf l.functionKinds)).map
      (l.candidate src)).filter (isSignificant l.inlineKinds src)).map (·.entry) := by
  simp only [functions, candidates_eq, Place.below_root, List.filter_map, List.map_map,
    Function.comp_def, Place.isNamedOf_on, entry_candidate_on h, isSignificant_candidate_on h]

/-! ## Variables of Python -/

theorem inDeclarationScope_on (h : top.kind = top'.kind) (p : Place) :
    Python.inDeclarationScope (p.on top) = Python.inDeclarationScope (p.on top') := by
  obtain ⟨n, _ | ⟨m, _ | ⟨k, _ | ⟨j, above⟩⟩⟩⟩ := p <;>
    simp [Python.inDeclarationScope, Place.parent?, Place.on, h]

/-! ## The parts of a tree -/

variable {path : String} {left right whole : Node}

theorem functions_joins (h : left.Joins right whole) (hl : l.IsTop left) (hr : l.IsTop right)
    (hw : l.IsTop whole) :
    l.functions src whole = l.functions src left ++ l.functions src right := by
  rw [functions_eq hl, functions_eq hr, functions_eq hw, h.placesIn, List.map_append,
    List.filter_append, List.map_append]

theorem length_candidates_joins (h : left.Joins right whole) (l : Language) (src : Source) :
    (l.candidates src whole).length =
      (l.candidates src left).length + (l.candidates src right).length := by
  simp only [candidates_eq, ← Place.descendants_eq_filter, Place.descendants_root, h.placesIn,
    List.length_map, List.length_append]

theorem bindings_joins (h : left.Joins right whole) (l : Language) (src : Source) :
    l.bindings src whole = l.bindings src left ++ l.bindings src right := by
  cases l with
  | javascript =>
    simp only [bindings, JavaScript.bindings, h.namedChildren, List.filterMap_append,
      List.flatMap_append]
  | python =>
    have hv {part : Node} (hk : part.kind = whole.kind) (p : Place) :
        Python.variableOf? src (p.on part) = Python.variableOf? src (p.on whole) := by
      simp only [Python.variableOf?, inDeclarationScope_on hk, Place.node_on]
    simp only [bindings, Python.bindings, Place.descendants_root, h.placesIn, List.map_append,
      List.filterMap_append, List.filterMap_map, Function.comp_def, hv h.kind_left,
      hv h.kind_right]

theorem classes_joins (h : left.Joins right whole) (l : Language) (src : Source) :
    l.classes src whole = l.classes src left ++ l.classes src right := by
  cases l with
  | javascript => exact h.filterMap_descendants _ (JavaScript.classOf? src)
  | python => exact h.filterMap_descendants _ (Python.classOf? src)

theorem imports_joins (h : left.Joins right whole) (l : Language) (src : Source) :
    l.imports src whole = l.imports src left ++ l.imports src right := by
  cases l with
  | javascript => exact h.filterMap_descendants _ (JavaScript.importOf? src)
  | python => exact h.flatMap_descendants _ (Python.importsOf src)

theorem exports_joins (h : left.Joins right whole) (l : Language) (src : Source) :
    l.exports src whole = l.exports src left ++ l.exports src right := by
  cases l with
  | javascript => exact h.flatMap_descendants _ (JavaScript.exportsOf src)
  | python =>
    simp only [exports, Python.exports, h.namedChildren, List.filter_append, List.flatMap_append]

end Language

/-- The lists of a table are those of two others, one after the other, and as many functions were
met as for both. -/
structure SymbolTable.Joins (left right whole : SymbolTable) : Prop where
  functions : whole.functions = left.functions ++ right.functions
  bindings : whole.bindings = left.bindings ++ right.bindings
  classes : whole.classes = left.classes ++ right.classes
  imports : whole.imports = left.imports ++ right.imports
  exports : whole.exports = left.exports ++ right.exports
  discovered : whole.discovered = left.discovered + right.discovered

theorem SymbolTable.Joins.mapPositions {left right whole : SymbolTable}
    (h : left.Joins right whole) (f : Position → Position) :
    (left.mapPositions f).Joins (right.mapPositions f) (whole.mapPositions f) where
  functions := by simp only [SymbolTable.mapPositions, h.functions, List.map_append]
  bindings := by simp only [SymbolTable.mapPositions, h.bindings, List.map_append]
  classes := by simp only [SymbolTable.mapPositions, h.classes, List.map_append]
  imports := by simp only [SymbolTable.mapPositions, h.imports, List.map_append]
  exports := by simp only [SymbolTable.mapPositions, h.exports, List.map_append]
  discovered := h.discovered

namespace Language

variable {l : Language} {src : Source}

/-- The table of a tree is made of the tables of its parts: whatever stands at the top on one side,
the same symbols are listed for the other. -/
theorem table_of_joined (l : Language) (path : String) (src : Source) {left right whole : Node}
    (h : left.Joins right whole) (hk : whole.kind = l.rootKind)
    (hf : ∀ n ∈ whole.children, n.field = none) :
    (l.tabulate path src left).Joins (l.tabulate path src right) (l.tabulate path src whole) := by
  have hw : l.IsTop whole := ⟨hk, hf⟩
  have hl : l.IsTop left := ⟨h.kind_left.trans hk, fun n hn =>
    hf n (h.children ▸ List.mem_append_left _ hn)⟩
  have hr : l.IsTop right := ⟨h.kind_right.trans hk, fun n hn =>
    hf n (h.children ▸ List.mem_append_right _ hn)⟩
  refine SymbolTable.Joins.mapPositions ?_ src.inCharacters
  exact
    { functions := functions_joins h hl hr hw
      bindings := bindings_joins h l src
      classes := classes_joins h l src
      imports := imports_joins h l src
      exports := exports_joins h l src
      discovered := by simp only [discovered_collect, length_candidates_joins h] }

/-- The tree of `const f = () => 1 + 2 + 3`. -/
def bindingStatement : Node :=
  ⟨"lexical_declaration", true, none, 0, 25,
    [⟨"const", false, some "kind", 0, 5, []⟩,
      ⟨"variable_declarator", true, none, 6, 25,
        [⟨"identifier", true, some "name", 6, 7, []⟩, ⟨"=", false, none, 8, 9, []⟩,
          ⟨"arrow_function", true, some "value", 10, 25, []⟩]⟩]⟩

/-- The tree of `class C { m() {} }` after it. -/
def classStatement : Node :=
  ⟨"class_declaration", true, none, 26, 44,
    [⟨"class", false, none, 26, 31, []⟩, ⟨"identifier", true, some "name", 32, 33, []⟩,
      ⟨"class_body", true, some "body", 34, 44,
        [⟨"method_definition", true, none, 36, 42,
          [⟨"property_identifier", true, some "name", 36, 37, []⟩,
            ⟨"formal_parameters", true, some "parameters", 37, 39, []⟩,
            ⟨"statement_block", true, some "body", 40, 42, []⟩]⟩]⟩]⟩

def program (statements : List Node) : Node := ⟨"program", true, none, 0, 44, statements⟩

theorem table_of_joined_bindingStatement :
    let src := Source.ofString "const f = () => 1 + 2 + 3\nclass C { m() {} }"
    let left := program [bindingStatement]
    let right := program [classStatement]
    let whole := program [bindingStatement, classStatement]
    let t := javascript.tabulate "m.js" src whole
    left.Joins right whole ∧ whole.kind = javascript.rootKind ∧
      (∀ n ∈ whole.children, n.field = none) ∧
      (javascript.tabulate "m.js" src left).Joins (javascript.tabulate "m.js" src right) t ∧
      t.functions.map (fun e => (e.name, e.owner)) = [("f", none), ("m", some "C")] ∧
      t.bindings.map (·.name) = ["f"] ∧ t.classes.map (·.name) = ["C"] ∧ t.discovered = 2 := by
  have h : (program [bindingStatement]).Joins (program [classStatement])
      (program [bindingStatement, classStatement]) := ⟨rfl, rfl, rfl⟩
  have hf : ∀ n ∈ (program [bindingStatement, classStatement]).children, n.field = none := by
    decide
  exact ⟨h, rfl, hf, table_of_joined javascript "m.js" _ h rfl hf, by decide +kernel,
    by decide +kernel, by decide +kernel, by decide +kernel⟩

end Language

end Gazetteer

import Gazetteer.Language
import Gazetteer.Proofs.Significance
import Gazetteer.Proofs.Syntax.Preorder

/-! # Exported declarations

A declaration that is exported where it is made is listed twice among the exports, as a statement
and by its name. The reading of functions, of classes or of variables lists that name as well.
-/

namespace Gazetteer.JavaScript

variable {src : Source} {root n d : Node} {name : String}

/-- The node declares a name: a function or a class declares its own, and any other declaration that
of its first declarator. -/
inductive Declares (src : Source) (d : Node) (name : String) : Prop where

  | definition (hk : d.kind ∈ "class_declaration" :: declaredFunctionKinds)
      (hn : d.childName? src "name" = some name)

  | binding {before after : List Node} {declarator : Node} (hk : d.kind ∈ declarationKinds)
      (hs : d.namedChildren = before ++ declarator :: after)
      (hb : ∀ m ∈ before, m.kind ≠ "variable_declarator")
      (hd : declarator.kind = "variable_declarator")
      (hn : declarator.childName? src "name" = some name)

theorem not_declaration_of_definition (h : d.kind ∈ "class_declaration" :: declaredFunctionKinds) :
    d.kind ∉ declarationKinds := by
  simp only [declaredFunctionKinds, List.mem_cons, List.not_mem_nil, or_false] at h
  rcases h with h | h | h <;> simp [h, declarationKinds]

theorem declaredName?_of_declares (h : Declares src d name) : declaredName? src d = some name := by
  unfold declaredName?
  cases h with
  | definition hk hn =>
    rw [if_neg (by simpa using not_declaration_of_definition hk), hn]
  | @binding before after declarator hk hs hb hd hn =>
    have hf : before.find? (·.kind == "variable_declarator") = none :=
      List.find?_eq_none.mpr fun m hm => by simpa using hb m hm
    rw [if_pos (by simpa using hk), hs, List.find?_append, hf,
      List.find?_cons_of_pos (by simpa using hd)]
    exact hn

/-! ## The exports -/

/-- What is noted about an export statement. -/
def statementEntry (src : Source) (n : Node) : ExportEntry where
  source := (n.childName? src "source").map stripQuotes
  position := n.position src
  code := n.text src
  items := statementItems src n
  isDefault := n.hasChild "default"

theorem statementEntry_mem_exportsOf (src : Source) (n : Node) :
    statementEntry src n ∈ exportsOf src n := by
  rw [exportsOf]
  split <;> exact List.mem_cons_self

theorem exportsOf_of_declares (hd : n.child? "declaration" = some d) (h : Declares src d name) :
    exportsOf src n =
      [statementEntry src n,
        { statementEntry src n with source := none, items := [{ name, asName := none }] }] := by
  rw [exportsOf, hd, Option.bind_some, declaredName?_of_declares h]
  rfl

theorem mem_below_of_mem_namedChildren (hn : n ∈ root.namedChildren) :
    ⟨n, [root]⟩ ∈ (Place.root root).below :=
  Place.mem_below_of_mem_children List.mem_cons_self
    (Place.mem_children_of_mem (List.mem_filter.mp hn).1)

theorem exportsOf_infix_exports (src : Source) (hn : n ∈ root.namedChildren)
    (hk : n.kind = "export_statement") :
    exportsOf src n <:+: exports src root := by
  have hnamed : n.named = true := (List.mem_filter.mp hn).2
  have hm : ⟨n, [root]⟩ ∈ (Place.root root).descendants ["export_statement"] [] :=
    Place.mem_descendants_iff.mpr
      ⟨mem_below_of_mem_namedChildren hn, by simp [Place.isNamedOf, hnamed, hk]⟩
  obtain ⟨before, after, hs⟩ := List.append_of_mem hm
  refine ⟨before.flatMap fun p => exportsOf src p.node,
    after.flatMap fun p => exportsOf src p.node, ?_⟩
  rw [exports, hs, List.flatMap_append, List.flatMap_cons, List.append_assoc]

/-! ## The declarations -/

theorem mem_below_of_exported (hn : n ∈ root.namedChildren)
    (hd : n.child? "declaration" = some d) : ⟨d, [n, root]⟩ ∈ (Place.root root).below := by
  have hp : ⟨n, [root]⟩ ∈ (Place.root root).below := mem_below_of_mem_namedChildren hn
  exact Place.mem_below_of_mem_children (List.mem_cons_of_mem _ hp)
    (Place.mem_children_of_mem (List.mem_of_find?_eq_some hd))

section Exported

variable (hn : n ∈ root.namedChildren) (hk : n.kind = "export_statement")
  (hd : n.child? "declaration" = some d) (hnamed : d.named = true)

include hn hk hd hnamed

theorem mem_functions_of_exported (hf : d.kind ∈ declaredFunctionKinds)
    (hname : d.childName? src "name" = some name) (ha : name ≠ anonymous) :
    name ∈ (Language.javascript.functions src root).map (·.name) := by
  have hm : ⟨d, [n, root]⟩ ∈ (Place.root root).descendants functionKinds [] := by
    refine Place.mem_descendants_iff.mpr ⟨mem_below_of_exported hn hd, ?_⟩
    simp [Place.isNamedOf, hnamed, functionKinds, hf]
  have he : (candidate src ⟨d, [n, root]⟩).entry.name = name := by
    simp [candidate, functionName, hf, ownName, hname]
  have hs : isSignificant Language.javascript.inlineKinds src (candidate src ⟨d, [n, root]⟩) := by
    refine isSignificant_of_named ?_ (fun _ => Significance.not_handedTo rfl ?_) (he ▸ ha)
    · simp only [declaredFunctionKinds, List.mem_cons, List.not_mem_nil, or_false] at hf
      rcases hf with hf | hf <;> simp [Language.inlineKinds, candidate, hf]
    · simp [hk, Significance.argumentKinds, Significance.callKinds]
  exact List.mem_map.mpr ⟨_, List.mem_map_of_mem (List.mem_filter.mpr
    ⟨List.mem_map_of_mem hm, hs⟩), he⟩

omit hk in
theorem mem_classes_of_exported (hc : d.kind = "class_declaration")
    (hname : d.childName? src "name" = some name) :
    name ∈ (classes src root).map (·.name) := by
  have hm : ⟨d, [n, root]⟩ ∈ (Place.root root).descendants ["class_declaration"] [] :=
    Place.mem_descendants_iff.mpr
      ⟨mem_below_of_exported hn hd, by simp [Place.isNamedOf, hnamed, hc]⟩
  have hentry : ∃ entry, classOf? src d = some entry ∧ entry.name = name := by
    rw [classOf?, hname]
    exact ⟨_, rfl, rfl⟩
  obtain ⟨entry, he, hen⟩ := hentry
  exact List.mem_map.mpr ⟨entry, List.mem_filterMap.mpr ⟨_, hm, he⟩, hen⟩

omit hnamed in
theorem mem_bindings_of_exported {declarator : Node} (hb : d.kind ∈ declarationKinds)
    (hm : declarator ∈ d.namedChildren) (hv : declarator.kind = "variable_declarator")
    (hname : declarator.childName? src "name" = some name) :
    name ∈ (bindings src root).map (·.name) := by
  have ht : topDeclaration? n = some d := by
    simp [topDeclaration?, hk, hd, hb]
  have hentry : ∃ entry,
      variableOf? src ((d.childName? src "kind").getD "var") declarator = some entry ∧
        entry.name = name := by
    rw [variableOf?, if_pos hv, hname]
    exact ⟨_, rfl, rfl⟩
  obtain ⟨entry, he, hen⟩ := hentry
  exact List.mem_map.mpr ⟨entry, List.mem_flatMap.mpr ⟨d, List.mem_filterMap.mpr ⟨n, hn, ht⟩,
    List.mem_filterMap.mpr ⟨declarator, hm, he⟩⟩, hen⟩

end Exported

/-- An exported declaration of a name is listed among the exports twice in a row, as the statement
and by the name that it declares. The name is that of a function, class or variable of the table. -/
theorem exported_declaration_listed (path : String) (src : Source)
    (hn : n ∈ root.namedChildren) (hk : n.kind = "export_statement")
    (hd : n.child? "declaration" = some d) (hnamed : d.named = true) (h : Declares src d name)
    (ha : d.kind ∈ declaredFunctionKinds → name ≠ anonymous) :
    let t := Language.javascript.tabulate path src root
    let entry : ExportEntry :=
      { statementEntry src n with position := src.inCharacters (n.position src) }
    [entry, { entry with source := none, items := [{ name, asName := none }] }] <:+: t.exports ∧
      (d.kind ∈ declaredFunctionKinds → name ∈ t.functions.map (·.name)) ∧
      (d.kind = "class_declaration" → name ∈ t.classes.map (·.name)) ∧
      (d.kind ∈ declarationKinds → name ∈ t.bindings.map (·.name)) := by
  intro t entry
  have hfunctions : t.functions.map (·.name) =
      (Language.javascript.functions src root).map (·.name) := List.map_map
  have hclasses : t.classes.map (·.name) = (classes src root).map (·.name) := List.map_map
  have hbindings : t.bindings.map (·.name) = (bindings src root).map (·.name) := List.map_map
  have hexports := exportsOf_infix_exports src hn hk
  rw [exportsOf_of_declares hd h] at hexports
  rw [hfunctions, hclasses, hbindings]
  have hlisted := hexports.map fun e : ExportEntry =>
    ({ e with position := src.inCharacters e.position } : ExportEntry)
  refine ⟨hlisted, ?_⟩
  cases h with
  | definition hdk hname =>
    refine ⟨fun hf => ?_, fun hc => ?_, fun hb => ?_⟩
    · exact mem_functions_of_exported hn hk hd hnamed hf hname (ha hf)
    · exact mem_classes_of_exported hn hd hnamed hc hname
    · exact absurd hb (not_declaration_of_definition hdk)
  | @binding before after declarator hdk hs _ hv hname =>
    refine ⟨fun hf => ?_, fun hc => ?_, fun hb => ?_⟩
    · exact absurd hdk (not_declaration_of_definition (List.mem_cons_of_mem _ hf))
    · exact absurd hdk (not_declaration_of_definition (hc ▸ List.mem_cons_self))
    · exact mem_bindings_of_exported hn hk hd hb (hs ▸ by simp) hv hname

/-- The declaration in `export default function f() {}`. -/
def exportedFunction : Node :=
  ⟨"function_declaration", true, some "declaration", 15, 30,
    [⟨"function", false, none, 15, 23, []⟩, ⟨"identifier", true, some "name", 24, 25, []⟩,
      ⟨"formal_parameters", true, some "parameters", 25, 27, []⟩,
      ⟨"statement_block", true, some "body", 28, 30, []⟩]⟩

def exportOfFunction : Node :=
  ⟨"export_statement", true, none, 0, 30,
    [⟨"export", false, none, 0, 6, []⟩, ⟨"default", false, none, 7, 14, []⟩, exportedFunction]⟩

def exportingTree : Node := ⟨"program", true, none, 0, 30, [exportOfFunction]⟩

theorem exported_declaration_listed_of_exportingTree :
    let src := Source.ofString "export default function f() {}"
    let t := Language.javascript.tabulate "m.js" src exportingTree
    let entry : ExportEntry :=
      { source := none, position := ⟨1, 0, 1, 30⟩, code := "export default function f() {}"
        items := [], isDefault := true }
    Declares src exportedFunction "f" ∧
      [entry, { entry with items := [{ name := "f", asName := none }] }] <:+: t.exports ∧
      "f" ∈ t.functions.map (·.name) := by
  intro src t entry
  have hd : Declares src exportedFunction "f" := .definition (by decide) (by decide +kernel)
  have hn : exportOfFunction ∈ exportingTree.namedChildren :=
    List.mem_filter.mpr ⟨List.mem_singleton_self _, rfl⟩
  have he : { statementEntry src exportOfFunction with
      position := src.inCharacters (exportOfFunction.position src) } = entry := by
    decide +kernel
  obtain ⟨hl, hf, -⟩ := exported_declaration_listed "m.js" src hn rfl rfl rfl hd (by decide)
  rw [he] at hl
  exact ⟨hd, hl, hf (by decide)⟩

end Gazetteer.JavaScript

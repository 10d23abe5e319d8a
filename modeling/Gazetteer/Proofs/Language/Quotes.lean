import Gazetteer.Language
import Gazetteer.Proofs.JavaScript.Exports
import Gazetteer.Proofs.Naming

/-! # Strings that are noted

A string is noted as the module that names come from, as the key that a function is named after, or
as a name that a module declares public. All of them are noted in the same way, without any quotes.
-/

namespace Gazetteer

variable {quote : Char} {inner : String} {src : Source} {root n : Node}

namespace JavaScript

variable {statement : Node}

theorem importOf?_of_isQuoted (h : IsQuoted quote inner (n.text src))
    (hn : statement.child? "source" = some n) :
    ∃ e, importOf? src statement = some e ∧ e.source = without (otherQuote quote) inner := by
  rw [importOf?, Node.childText?_of_child? src hn]
  exact ⟨_, rfl, stripQuotes_of_isQuoted h⟩

theorem source_statementEntry_of_isQuoted (h : IsQuoted quote inner (n.text src))
    (hn : statement.child? "source" = some n) :
    (statementEntry src statement).source = some (without (otherQuote quote) inner) := by
  rw [statementEntry, Node.childName?_of_child? hn (ne_empty_of_isQuoted h), Option.map_some,
    stripQuotes_of_isQuoted h]

def IsExpression (c : Candidate) : Prop :=
  c.place.node.kind ∉ "method_definition" :: declaredFunctionKinds

theorem name_of_isUnder {c : Candidate} (hc : c ∈ candidates src root) (hx : IsExpression c)
    (hu : Clue.IsUnder n c.place) (hne : stripQuotes (n.text src) ≠ "")
    (ha : stripQuotes (n.text src) ≠ anonymous) : c.entry.name = stripQuotes (n.text src) := by
  obtain ⟨p, -, rfl⟩ := List.mem_map.mp hc
  have hk : ¬(declaredFunctionKinds.contains p.node.kind || p.node.kind = "method_definition") := by
    simpa [IsExpression, candidate, and_comm] using hx
  have hi : inferName src p = stripQuotes (n.text src) := inferName_of_isUnder hu hne
  simp only [candidate, functionName, if_neg hk, hi, if_neg ha]

end JavaScript

namespace Python

variable {assignment value : Node}

structure ListsPublic (src : Source) (root assignment value : Node) : Prop where
  at_top : ∃ s ∈ root.namedChildren, s.kind = "expression_statement" ∧ assignment ∈ s.namedChildren
  kind_eq : assignment.kind = "assignment"
  left_eq : assignment.childText? src "left" = some "__all__"
  right_eq : assignment.child? "right" = some value
  value_mem : value.kind ∈ ["list", "tuple"]

def strings (value : Node) : List Node := value.namedChildren.filter (·.kind == "string")

def publicEntry (src : Source) (assignment value : Node) : ExportEntry where
  source := none
  position := assignment.position src
  code := assignment.text src
  items := (strings value).map fun n => { name := stripQuotes (n.text src), asName := none }
  isDefault := false

theorem publicEntry_mem_exports (h : ListsPublic src root assignment value) :
    publicEntry src assignment value ∈ exports src root := by
  obtain ⟨s, hs, hk, ha⟩ := h.at_top
  have he : publicNames? src assignment = some (publicEntry src assignment value) := by
    have hv : (["list", "tuple"].contains value.kind) = true := by
      simpa using h.value_mem
    rw [publicNames?, if_pos (by simp [h.kind_eq, h.left_eq]), h.right_eq, Option.filter_some,
      if_pos hv]
    rfl
  exact List.mem_flatMap.mpr ⟨s, List.mem_filter.mpr ⟨hs, by simp [hk]⟩,
    List.mem_filterMap.mpr ⟨assignment, ha, he⟩⟩

theorem items_publicEntry_of_isQuoted {i : Nat} (h : IsQuoted quote inner (n.text src))
    (hi : (strings value)[i]? = some n) :
    (publicEntry src assignment value).items[i]? =
      some { name := without (otherQuote quote) inner, asName := none } := by
  rw [publicEntry, List.getElem?_map, hi, Option.map_some, stripQuotes_of_isQuoted h]

end Python

/-- A string that stands between two quotes of one kind is noted without the quotes of the other
kind, wherever it is noted: as the module of an import or of a re-export, as the key that a function
is named after, and among the public names of a module. That is what stands between the quotes if
and only if none of the other kind is among it. -/
theorem quotes_left_out (path : String) (root : Node) (h : IsQuoted quote inner (n.text src)) :
    let js := Language.javascript.tabulate path src root
    let py := Language.python.tabulate path src root
    let noted := without (otherQuote quote) inner
    let inCharacters := src.inCharacters
    (∀ p ∈ (Place.root root).descendants ["import_statement"] [],
      p.node.child? "source" = some n → ∃ e : ImportEntry,
        JavaScript.importOf? src p.node = some e ∧ e.source = noted ∧
          { e with position := inCharacters e.position } ∈ js.imports) ∧
    (∀ p ∈ (Place.root root).descendants ["export_statement"] [],
      p.node.child? "source" = some n →
        let e := JavaScript.statementEntry src p.node
        e.source = some noted ∧
          { e with position := inCharacters e.position } ∈ js.exports) ∧
    (∀ c ∈ JavaScript.candidates src root, JavaScript.IsExpression c → Clue.IsUnder n c.place →
      Clue.objectKeyName src c.place = some noted ∧
        (noted ≠ "" → noted ≠ anonymous → c.entry.name = noted) ∧
        (isSignificant Language.javascript.inlineKinds src c →
          { c.entry with position := inCharacters c.entry.position } ∈ js.functions)) ∧
    (∀ assignment value, Python.ListsPublic src root assignment value →
      let e := Python.publicEntry src assignment value
      (∀ i : Nat, (Python.strings value)[i]? = some n →
          e.items[i]? = some { name := noted, asName := none }) ∧
        { e with position := inCharacters e.position } ∈ py.exports) ∧
    (noted = inner ↔ otherQuote quote ∉ inner.toList) := by
  intro js py noted inCharacters
  have hs : stripQuotes (n.text src) = noted := stripQuotes_of_isQuoted h
  refine ⟨?_, ?_, ?_, ?_, without_eq_self_iff⟩
  · intro p hp hn
    obtain ⟨e, he, hsource⟩ := JavaScript.importOf?_of_isQuoted h hn
    have hm : e ∈ JavaScript.imports src root := List.mem_filterMap.mpr ⟨p, hp, he⟩
    exact ⟨e, he, hsource, List.mem_map_of_mem hm⟩
  · intro p hp hn e
    have hm : e ∈ JavaScript.exports src root :=
      List.mem_flatMap.mpr ⟨p, hp, JavaScript.statementEntry_mem_exportsOf src p.node⟩
    exact ⟨JavaScript.source_statementEntry_of_isQuoted h hn, List.mem_map_of_mem hm⟩
  · intro c hc hx hu
    rw [← hs]
    refine ⟨Clue.objectKeyName_of_isUnder src hu, JavaScript.name_of_isUnder hc hx hu, fun hk => ?_⟩
    exact List.mem_map_of_mem (List.mem_map_of_mem (List.mem_filter.mpr ⟨hc, hk⟩))
  · intro assignment value hl e
    have hm : e ∈ Python.exports src root := Python.publicEntry_mem_exports hl
    exact ⟨fun i hi => Python.items_publicEntry_of_isQuoted h hi, List.mem_map_of_mem hm⟩

/-- The string in `__all__ = ["it's"]`. -/
def publicString : Node :=
  ⟨"string", true, none, 11, 17,
    [⟨"string_start", true, none, 11, 12, []⟩, ⟨"string_content", true, none, 12, 16, []⟩,
      ⟨"string_end", true, none, 16, 17, []⟩]⟩

def publicList : Node :=
  ⟨"list", true, some "right", 10, 18,
    [⟨"[", false, none, 10, 11, []⟩, publicString, ⟨"]", false, none, 17, 18, []⟩]⟩

def publicAssignment : Node :=
  ⟨"assignment", true, none, 0, 18,
    [⟨"identifier", true, some "left", 0, 7, []⟩, ⟨"=", false, none, 8, 9, []⟩, publicList]⟩

def publicStatement : Node := ⟨"expression_statement", true, none, 0, 18, [publicAssignment]⟩

def publicModule : Node := ⟨"module", true, none, 0, 18, [publicStatement]⟩

theorem quotes_left_out_of_publicModule :
    let src := Source.ofString "__all__ = [\"it's\"]"
    let t := Language.python.tabulate "m.py" src publicModule
    IsQuoted '"' "it's" (publicString.text src) ∧
      Python.ListsPublic src publicModule publicAssignment publicList ∧
      ∃ e ∈ t.exports, e.items[0]? = some { name := "its", asName := none } := by
  intro src t
  have hq : IsQuoted '"' "it's" (publicString.text src) :=
    ⟨.inl rfl, by decide, by decide +kernel⟩
  have hl : Python.ListsPublic src publicModule publicAssignment publicList :=
    ⟨⟨publicStatement, List.mem_singleton_self _, rfl, List.mem_singleton_self _⟩, rfl,
      by decide +kernel, rfl, by decide⟩
  obtain ⟨-, -, -, hp, -⟩ := quotes_left_out "m.py" publicModule hq
  obtain ⟨hi, hm⟩ := hp publicAssignment publicList hl
  exact ⟨hq, hl, _, hm, hi 0 rfl⟩

/-- The string in `import x from "it's";`. -/
def apostropheString : Node :=
  ⟨"string", true, some "source", 14, 20,
    [⟨"\"", false, none, 14, 15, []⟩, ⟨"string_fragment", true, none, 15, 19, []⟩,
      ⟨"\"", false, none, 19, 20, []⟩]⟩

def apostropheImport : Node :=
  ⟨"program", true, none, 0, 21, [⟨"import_statement", true, none, 0, 21,
    [⟨"import", false, none, 0, 6, []⟩,
      ⟨"import_clause", true, none, 7, 8, [⟨"identifier", true, none, 7, 8, []⟩]⟩,
      ⟨"from", false, none, 9, 13, []⟩, apostropheString, ⟨";", false, none, 20, 21, []⟩]⟩]⟩

/-- An apostrophe between double quotes is left out as well. -/
theorem apostrophe_left_out :
    let src := Source.ofString "import x from \"it's\";"
    let t := Language.javascript.tabulate "m.js" src apostropheImport
    IsQuoted '"' "it's" (apostropheString.text src) ∧ t.imports.map (·.source) = ["its"] := by
  intro src t
  exact ⟨⟨.inl rfl, by decide, by decide +kernel⟩, by decide +kernel⟩

end Gazetteer

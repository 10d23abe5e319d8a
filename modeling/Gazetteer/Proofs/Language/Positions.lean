import Gazetteer.Language
import Gazetteer.Proofs.JavaScript.Spans
import Gazetteer.Proofs.Python.Spans
import Gazetteer.Proofs.Syntax.Cut

/-! # Positions in a symbol table

Every entry of a table is read off one node. Its position, once columns are counted in characters,
cuts the code of the entry out of the source text.
-/

namespace Gazetteer

/-- Every entry of the table, methods included, has a position and a code that are related. -/
structure SymbolTable.Relates (t : SymbolTable) (r : Position → String → Prop) : Prop where
  functions : ∀ e ∈ t.functions, r e.position e.code
  bindings : ∀ e ∈ t.bindings, r e.position e.code
  classes : ∀ e ∈ t.classes, r e.position e.code
  methods : ∀ e ∈ t.classes, ∀ m ∈ e.methods, r m.position m.code
  imports : ∀ e ∈ t.imports, r e.position e.code
  exports : ∀ e ∈ t.exports, r e.position e.code

theorem SymbolTable.Relates.mapPositions {t : SymbolTable} {r r' : Position → String → Prop}
    {f : Position → Position} (h : t.Relates r)
    (hf : ∀ position code, r position code → r' (f position) code) :
    (t.mapPositions f).Relates r' where
  functions := by
    intro _ he
    obtain ⟨e, hm, rfl⟩ := List.mem_map.mp he
    exact hf _ _ (h.functions e hm)
  bindings := by
    intro _ he
    obtain ⟨e, hm, rfl⟩ := List.mem_map.mp he
    exact hf _ _ (h.bindings e hm)
  classes := by
    intro _ he
    obtain ⟨e, hm, rfl⟩ := List.mem_map.mp he
    exact hf _ _ (h.classes e hm)
  methods := by
    intro _ he _ hd
    obtain ⟨e, hm, rfl⟩ := List.mem_map.mp he
    obtain ⟨d, hn, rfl⟩ := List.mem_map.mp hd
    exact hf _ _ (h.methods e hm d hn)
  imports := by
    intro _ he
    obtain ⟨e, hm, rfl⟩ := List.mem_map.mp he
    exact hf _ _ (h.imports e hm)
  exports := by
    intro _ he
    obtain ⟨e, hm, rfl⟩ := List.mem_map.mp he
    exact hf _ _ (h.exports e hm)

theorem SymbolTable.Relates.imp {t : SymbolTable} {r r' : Position → String → Prop}
    (h : t.Relates r) (hr : ∀ position code, r position code → r' position code) :
    t.Relates r' where
  functions e he := hr _ _ (h.functions e he)
  bindings e he := hr _ _ (h.bindings e he)
  classes e he := hr _ _ (h.classes e he)
  methods e he m hm := hr _ _ (h.methods e he m hm)
  imports e he := hr _ _ (h.imports e he)
  exports e he := hr _ _ (h.exports e he)

namespace Language

variable {l : Language} {path text : String} {src : Source} {root : Node}

theorem hasSpan_candidates {c : Candidate} (h : c ∈ l.candidates src root) :
    root.HasSpan src c.entry.position c.entry.code := by
  cases l with
  | javascript => exact JavaScript.hasSpan_candidates h
  | python => exact Python.hasSpan_candidates h

theorem hasSpan_functions {e : FunctionEntry} (h : e ∈ l.functions src root) :
    root.HasSpan src e.position e.code := by
  obtain ⟨c, hc, rfl⟩ := List.mem_map.mp h
  exact hasSpan_candidates (List.mem_filter.mp hc).1

theorem relates_collect : (l.collect path src root).Relates (root.HasSpan src) where
  functions _ := hasSpan_functions
  bindings := by
    cases l with
    | javascript => exact fun _ => JavaScript.hasSpan_bindings
    | python => exact fun _ => Python.hasSpan_bindings
  classes := by
    cases l with
    | javascript => exact fun _ h => (JavaScript.hasSpan_classes h).1
    | python => exact fun _ h => (Python.hasSpan_classes h).1
  methods := by
    cases l with
    | javascript => exact fun _ h => (JavaScript.hasSpan_classes h).2
    | python => exact fun _ h => (Python.hasSpan_classes h).2
  imports := by
    cases l with
    | javascript => exact fun _ => JavaScript.hasSpan_imports
    | python => exact fun _ => Python.hasSpan_imports
  exports := by
    cases l with
    | javascript => exact fun _ => JavaScript.hasSpan_exports
    | python => exact fun _ => Python.hasSpan_exports

/-- The position of every entry cuts the code of the entry out of the source text, if the spans of
the tree begin and end between characters. -/
theorem cut_position_eq_code (l : Language) (path text : String) (root : Node)
    (h : ∀ n ∈ root.nodes, n.start ≤ n.stop ∧
      IsBoundary text.toList n.start ∧ IsBoundary text.toList n.stop) :
    (l.tabulate path (Source.ofString text) root).Relates fun position code =>
      position.cut text = code := by
  refine relates_collect.mapPositions ?_
  rintro _ _ ⟨n, hn, rfl, rfl⟩
  obtain ⟨hle, hs, ht⟩ := h n hn
  exact cut_inCharacters_position hs ht hle

/-- The tree of an assignment that spans two lines, over `é = (⏎ü)`. -/
def assignmentTree : Node :=
  ⟨"module", true, none, 0, 10, [⟨"expression_statement", true, none, 0, 10,
    [⟨"assignment", true, none, 0, 10,
      [⟨"identifier", true, some "left", 0, 2, []⟩, ⟨"=", false, none, 3, 4, []⟩,
        ⟨"tuple", true, some "right", 5, 10, []⟩]⟩]⟩]⟩

theorem cut_position_of_assignment :
    (∀ n ∈ assignmentTree.nodes, n.start ≤ n.stop ∧
      IsBoundary "é = (\nü)".toList n.start ∧ IsBoundary "é = (\nü)".toList n.stop) ∧
    let t := python.tabulate "m.py" (Source.ofString "é = (\nü)") assignmentTree
    (t.Relates fun position code => position.cut "é = (\nü)" = code) ∧
      t.bindings.map (·.position) = [⟨1, 0, 2, 2⟩] := by
  have h : ∀ n ∈ assignmentTree.nodes, n.start ≤ n.stop ∧
      IsBoundary "é = (\nü)".toList n.start ∧ IsBoundary "é = (\nü)".toList n.stop := by
    have h0 : IsBoundary "é = (\nü)".toList 0 := ⟨0, by decide⟩
    have h2 : IsBoundary "é = (\nü)".toList 2 := ⟨1, by decide⟩
    have h3 : IsBoundary "é = (\nü)".toList 3 := ⟨2, by decide⟩
    have h4 : IsBoundary "é = (\nü)".toList 4 := ⟨3, by decide⟩
    have h5 : IsBoundary "é = (\nü)".toList 5 := ⟨4, by decide⟩
    have h10 : IsBoundary "é = (\nü)".toList 10 := ⟨8, by decide⟩
    intro n hn
    simp only [assignmentTree, Node.nodes, Node.nodesAll, List.append_nil, List.cons_append,
      List.nil_append, List.mem_cons, List.not_mem_nil, or_false] at hn
    rcases hn with rfl | rfl | rfl | rfl | rfl | rfl
    · exact ⟨by decide, h0, h10⟩
    · exact ⟨by decide, h0, h10⟩
    · exact ⟨by decide, h0, h10⟩
    · exact ⟨by decide, h0, h2⟩
    · exact ⟨by decide, h3, h4⟩
    · exact ⟨by decide, h5, h10⟩
  exact ⟨h, cut_position_eq_code python "m.py" _ assignmentTree h, by decide +kernel⟩

end Language

end Gazetteer

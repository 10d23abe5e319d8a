import Gazetteer.Proofs.Python.Spans
import Gazetteer.Proofs.Syntax.Nesting

/-! # The order of Python symbols

Each reading of a tree with nested spans notes its symbols in the order in which they begin. A
method begins where its definition does, after the decorators.
-/

namespace Gazetteer.Python

open Node

variable {src : Source} {root n : Node}

theorem precedes_candidates (h : root.WellNested) (src : Source) :
    (candidates src root).Pairwise fun c c' => c.entry.position.Precedes c'.entry.position :=
  List.pairwise_map.mpr <| (h.pairwise_start_descendants ["function_definition", "lambda"]).imp
    Source.precedes_position

theorem precedes_bindings (h : root.WellNested) (src : Source) :
    (bindings src root).Pairwise fun e e' => e.position.Precedes e'.position := by
  refine precedes_filterMap src (h.pairwise_start_descendants _) fun p _ e he => ?_
  unfold variableOf? at he
  split at he
  · obtain ⟨left, -, rfl⟩ := Option.map_eq_some_iff.mp he
    exact ⟨p.node.stop, rfl⟩
  · cases he

/-! ## Classes -/

theorem precedes_classes (h : root.WellNested) (src : Source) :
    (classes src root).Pairwise fun e e' => e.position.Precedes e'.position := by
  refine precedes_filterMap src (h.pairwise_start_descendants _) fun p _ e he => ?_
  obtain ⟨name, -, rfl⟩ := Option.map_eq_some_iff.mp he
  exact ⟨p.node.stop, rfl⟩

theorem begins_inside_of_definition {statement : Node} (hs : statement.WellNested)
    (h : (definition src statement).1 = some n) :
    statement.start ≤ n.start ∧ n.start ≤ statement.stop := by
  unfold definition at h
  split at h
  · exact hs.begins_inside (List.mem_of_find?_eq_some h)
  · obtain rfl := Option.some.inj h
    exact ⟨Nat.le_refl _, hs.nested.start_le_stop⟩

theorem begins_inside_of_methodOf? {statement : Node} {e : MethodEntry}
    (hs : statement.WellNested) (h : methodOf? src statement = some e) :
    ∃ start stop, (statement.start ≤ start ∧ start ≤ statement.stop) ∧
      e.position = src.position start stop := by
  obtain ⟨d, hd, h⟩ := Option.bind_eq_some_iff.mp h
  obtain ⟨hd, -⟩ := Option.filter_eq_some_iff.mp hd
  obtain ⟨name, -, rfl⟩ := Option.map_eq_some_iff.mp h
  exact ⟨d.start, d.stop, begins_inside_of_definition hs hd, rfl⟩

theorem precedes_methods (h : root.WellNested) {cls : ClassEntry} (hc : cls ∈ classes src root) :
    cls.methods.Pairwise fun e e' => e.position.Precedes e'.position := by
  obtain ⟨p, hp, hc⟩ := List.mem_filterMap.mp hc
  obtain ⟨name, -, rfl⟩ := Option.map_eq_some_iff.mp hc
  have hn := Place.mem_nodes_of_mem_descendants hp
  have hm : ∀ statement ∈ members p.node, statement.WellNested := fun statement hm =>
    h.of_mem (mem_nodes_of_mem_body hn hm)
  dsimp only
  rw [List.filterMap_eq_flatMap_toList]
  refine precedes_flatMap_of_apart src ((h.of_mem hn).apart_body _) (fun statement _ => ?_)
    fun statement hs e he => begins_inside_of_methodOf? (hm statement hs) (Option.mem_toList.mp he)
  cases methodOf? src statement with
  | none => exact .nil
  | some e => exact List.pairwise_singleton _ e

/-! ## Imports and exports -/

theorem position_of_mem_importsOf {e : ImportEntry} (h : e ∈ importsOf src n) :
    e.position = n.position src := by
  unfold importsOf at h
  split at h
  · obtain ⟨item, -, rfl⟩ := List.mem_map.mp h
    rfl
  · obtain ⟨source, -, rfl⟩ := Option.map_eq_some_iff.mp (Option.mem_toList.mp h)
    rfl

theorem precedes_imports (h : root.WellNested) (src : Source) :
    (imports src root).Pairwise fun e e' => e.position.Precedes e'.position :=
  precedes_flatMap src (h.pairwise_start_descendants _) fun p _ _ he =>
    ⟨p.node.stop, position_of_mem_importsOf he⟩

theorem position_of_publicNames? {e : ExportEntry} (h : publicNames? src n = some e) :
    e.position = n.position src := by
  unfold publicNames? at h
  split at h
  · obtain ⟨value, -, rfl⟩ := Option.map_eq_some_iff.mp h
    rfl
  · cases h

theorem precedes_exports (h : root.WellNested) (src : Source) :
    (exports src root).Pairwise fun e e' => e.position.Precedes e'.position := by
  have hw : ∀ statement ∈ root.namedChildren.filter (·.kind == "expression_statement"),
      statement.WellNested := fun _ hs =>
    h.of_mem_children (List.mem_of_mem_filter (List.mem_of_mem_filter hs))
  refine precedes_flatMap_of_apart src (h.apart_namedChildren.filter _) (fun statement hs => ?_)
    fun statement hs e he => ?_
  · exact precedes_filterMap src (hw statement hs).pairwise_start_namedChildren
      fun assignment _ e he => ⟨assignment.stop, position_of_publicNames? he⟩
  · obtain ⟨assignment, hm, he⟩ := List.mem_filterMap.mp he
    exact ⟨_, _, (hw statement hs).begins_inside (List.mem_of_mem_filter hm),
      position_of_publicNames? he⟩

end Gazetteer.Python

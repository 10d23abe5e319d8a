import Gazetteer.Proofs.Syntax.Nodes
import Gazetteer.Python.Symbols

/-! # Spans of Python symbols

Each reading of a tree notes the position and the text of one and the same node. A method that has
decorators is noted without them.
-/

namespace Gazetteer.Python

open Node

variable {src : Source} {root n : Node}

theorem hasSpan_candidates {c : Candidate} (h : c ∈ candidates src root) :
    root.HasSpan src c.entry.position c.entry.code := by
  obtain ⟨p, hp, rfl⟩ := List.mem_map.mp h
  exact hasSpan_of_mem (Place.mem_nodes_of_mem_descendants hp)

theorem hasSpan_bindings {e : VariableEntry} (h : e ∈ bindings src root) :
    root.HasSpan src e.position e.code := by
  obtain ⟨p, hp, he⟩ := List.mem_filterMap.mp h
  unfold variableOf? at he
  split at he
  · obtain ⟨left, -, rfl⟩ := Option.map_eq_some_iff.mp he
    exact hasSpan_of_mem (Place.mem_nodes_of_mem_descendants hp)
  · simp at he

theorem mem_nodes_of_definition {statement : Node} (hs : statement ∈ root.nodes)
    (hn : (definition src statement).1 = some n) : n ∈ root.nodes := by
  unfold definition at hn
  split at hn
  · exact mem_nodes_of_child? hs hn
  · obtain rfl := Option.some.inj hn
    exact hs

theorem hasSpan_method {statement : Node} {m : MethodEntry} (hs : statement ∈ root.nodes)
    (hm : methodOf? src statement = some m) : root.HasSpan src m.position m.code := by
  obtain ⟨d, hd, hm⟩ := Option.bind_eq_some_iff.mp hm
  obtain ⟨hd, -⟩ := Option.filter_eq_some_iff.mp hd
  obtain ⟨name, -, rfl⟩ := Option.map_eq_some_iff.mp hm
  exact hasSpan_of_mem (mem_nodes_of_definition hs hd)

theorem hasSpan_classes {cls : ClassEntry} (h : cls ∈ classes src root) :
    root.HasSpan src cls.position cls.code ∧
      ∀ m ∈ cls.methods, root.HasSpan src m.position m.code := by
  obtain ⟨p, hp, hc⟩ := List.mem_filterMap.mp h
  have hn := Place.mem_nodes_of_mem_descendants hp
  obtain ⟨name, -, rfl⟩ := Option.map_eq_some_iff.mp hc
  refine ⟨hasSpan_of_mem hn, fun m hm => ?_⟩
  obtain ⟨statement, hb, hm⟩ := List.mem_filterMap.mp hm
  exact hasSpan_method (mem_nodes_of_mem_body hn hb) hm

theorem hasSpan_imports {e : ImportEntry} (h : e ∈ imports src root) :
    root.HasSpan src e.position e.code := by
  obtain ⟨p, hp, he⟩ := List.mem_flatMap.mp h
  have hn := Place.mem_nodes_of_mem_descendants hp
  unfold importsOf at he
  split at he
  · obtain ⟨item, -, rfl⟩ := List.mem_map.mp he
    exact hasSpan_of_mem hn
  · obtain ⟨source, -, rfl⟩ := Option.map_eq_some_iff.mp (Option.mem_toList.mp he)
    exact hasSpan_of_mem hn

theorem hasSpan_exports {e : ExportEntry} (h : e ∈ exports src root) :
    root.HasSpan src e.position e.code := by
  obtain ⟨statement, hs, he⟩ := List.mem_flatMap.mp h
  obtain ⟨assignment, ha, he⟩ := List.mem_filterMap.mp he
  have hn : assignment ∈ root.nodes := by
    have hm := mem_nodes_of_mem_namedChildren (mem_nodes_self root) (List.mem_filter.mp hs).1
    exact mem_nodes_of_mem_namedChildren hm ha
  unfold publicNames? at he
  split at he
  · obtain ⟨value, -, rfl⟩ := Option.map_eq_some_iff.mp he
    exact hasSpan_of_mem hn
  · simp at he

end Gazetteer.Python

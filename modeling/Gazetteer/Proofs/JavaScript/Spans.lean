import Gazetteer.JavaScript.Symbols
import Gazetteer.Proofs.Syntax.Nodes

/-! # Spans of JavaScript symbols

Each reading of a tree notes the position and the text of one and the same node.
-/

namespace Gazetteer.JavaScript

open Node

variable {src : Source} {root n : Node}

theorem hasSpan_candidates {c : Candidate} (h : c ∈ candidates src root) :
    root.HasSpan src c.entry.position c.entry.code := by
  obtain ⟨p, hp, rfl⟩ := List.mem_map.mp h
  exact hasSpan_of_mem (Place.mem_nodes_of_mem_descendants hp)

theorem mem_nodes_of_topDeclaration {statement : Node} (hs : statement ∈ root.nodes)
    (hn : topDeclaration? statement = some n) : n ∈ root.nodes := by
  unfold topDeclaration? at hn
  obtain ⟨hn, -⟩ := Option.filter_eq_some_iff.mp hn
  split at hn
  · exact mem_nodes_of_child? hs hn
  · obtain rfl := Option.some.inj hn
    exact hs

theorem hasSpan_variable {keyword : String} {e : VariableEntry} (hn : n ∈ root.nodes)
    (he : variableOf? src keyword n = some e) : root.HasSpan src e.position e.code := by
  unfold variableOf? at he
  split at he
  · obtain ⟨name, -, rfl⟩ := Option.map_eq_some_iff.mp he
    exact hasSpan_of_mem hn
  · simp at he

theorem hasSpan_bindings {e : VariableEntry} (h : e ∈ bindings src root) :
    root.HasSpan src e.position e.code := by
  obtain ⟨declaration, hd, he⟩ := List.mem_flatMap.mp h
  obtain ⟨statement, hs, ht⟩ := List.mem_filterMap.mp hd
  have hn : declaration ∈ root.nodes :=
    mem_nodes_of_topDeclaration (mem_nodes_of_mem_namedChildren (mem_nodes_self root) hs) ht
  obtain ⟨declarator, hm, he⟩ := List.mem_filterMap.mp he
  exact hasSpan_variable (mem_nodes_of_mem_namedChildren hn hm) he

theorem hasSpan_method {m : MethodEntry} (hn : n ∈ root.nodes) (hm : methodOf? src n = some m) :
    root.HasSpan src m.position m.code := by
  unfold methodOf? at hm
  split at hm
  · obtain ⟨name, -, rfl⟩ := Option.map_eq_some_iff.mp hm
    exact hasSpan_of_mem hn
  · simp at hm

theorem hasSpan_classes {cls : ClassEntry} (h : cls ∈ classes src root) :
    root.HasSpan src cls.position cls.code ∧
      ∀ m ∈ cls.methods, root.HasSpan src m.position m.code := by
  obtain ⟨p, hp, hc⟩ := List.mem_filterMap.mp h
  have hn := Place.mem_nodes_of_mem_descendants hp
  obtain ⟨name, -, rfl⟩ := Option.map_eq_some_iff.mp hc
  refine ⟨hasSpan_of_mem hn, fun m hm => ?_⟩
  obtain ⟨member, hb, hm⟩ := List.mem_filterMap.mp hm
  exact hasSpan_method (mem_nodes_of_mem_body hn hb) hm

theorem hasSpan_imports {e : ImportEntry} (h : e ∈ imports src root) :
    root.HasSpan src e.position e.code := by
  obtain ⟨p, hp, he⟩ := List.mem_filterMap.mp h
  obtain ⟨source, -, rfl⟩ := Option.map_eq_some_iff.mp he
  exact hasSpan_of_mem (Place.mem_nodes_of_mem_descendants hp)

theorem hasSpan_exports {e : ExportEntry} (h : e ∈ exports src root) :
    root.HasSpan src e.position e.code := by
  obtain ⟨p, hp, he⟩ := List.mem_flatMap.mp h
  have hs : root.HasSpan src (p.node.position src) (p.node.text src) :=
    hasSpan_of_mem (Place.mem_nodes_of_mem_descendants hp)
  unfold exportsOf at he
  dsimp only at he
  split at he
  · rcases List.mem_cons.mp he with rfl | he
    · exact hs
    · obtain rfl := List.mem_singleton.mp he
      exact hs
  · obtain rfl := List.mem_singleton.mp he
    exact hs

end Gazetteer.JavaScript

import Gazetteer.Proofs.JavaScript.Spans
import Gazetteer.Proofs.Syntax.Nesting

/-! # The order of JavaScript symbols

Each reading of a tree with nested spans notes its symbols in the order in which they begin.
-/

namespace Gazetteer.JavaScript

open Node

variable {src : Source} {root n : Node}

theorem precedes_candidates (h : root.WellNested) (src : Source) :
    (candidates src root).Pairwise fun c c' => c.entry.position.Precedes c'.entry.position :=
  List.pairwise_map.mpr <| (h.pairwise_start_descendants functionKinds).imp
    Source.precedes_position

/-! ## Variables -/

theorem position_of_variableOf? {keyword : String} {e : VariableEntry}
    (h : variableOf? src keyword n = some e) : e.position = n.position src := by
  unfold variableOf? at h
  split at h
  · obtain ⟨name, -, rfl⟩ := Option.map_eq_some_iff.mp h
    rfl
  · cases h

theorem inside_of_topDeclaration? {statement : Node} (hs : statement.Nested)
    (h : topDeclaration? statement = some n) :
    statement.start ≤ n.start ∧ n.stop ≤ statement.stop := by
  unfold topDeclaration? at h
  obtain ⟨h, -⟩ := Option.filter_eq_some_iff.mp h
  split at h
  · exact hs.inside n (List.mem_of_find?_eq_some h)
  · obtain rfl := Option.some.inj h
    exact ⟨Nat.le_refl _, Nat.le_refl _⟩

theorem precedes_bindings (h : root.WellNested) (src : Source) :
    (bindings src root).Pairwise fun e e' => e.position.Precedes e'.position := by
  have hmem : ∀ statement ∈ root.namedChildren, statement ∈ root.nodes := fun _ =>
    mem_nodes_of_mem_namedChildren (mem_nodes_self root)
  have hd : ∀ d ∈ root.namedChildren.filterMap topDeclaration?, d.WellNested := by
    intro d hd
    obtain ⟨statement, hs, ht⟩ := List.mem_filterMap.mp hd
    exact h.of_mem (mem_nodes_of_topDeclaration (hmem statement hs) ht)
  refine precedes_flatMap_of_apart src ?_ (fun d hm => ?_) fun d hm e he => ?_
  · exact h.apart_namedChildren.filterMap fun statement hs _ =>
      inside_of_topDeclaration? (h statement (hmem statement hs))
  · exact precedes_filterMap src (hd d hm).pairwise_start_namedChildren fun declarator _ e he =>
      ⟨declarator.stop, position_of_variableOf? he⟩
  · obtain ⟨declarator, hn, he⟩ := List.mem_filterMap.mp he
    exact ⟨_, _, (hd d hm).begins_inside (List.mem_of_mem_filter hn), position_of_variableOf? he⟩

/-! ## Classes -/

theorem position_of_methodOf? {e : MethodEntry} (h : methodOf? src n = some e) :
    e.position = n.position src := by
  unfold methodOf? at h
  split at h
  · obtain ⟨name, -, rfl⟩ := Option.map_eq_some_iff.mp h
    rfl
  · cases h

theorem position_of_classOf? {e : ClassEntry} (h : classOf? src n = some e) :
    e.position = n.position src := by
  obtain ⟨name, -, rfl⟩ := Option.map_eq_some_iff.mp h
  rfl

theorem precedes_classes (h : root.WellNested) (src : Source) :
    (classes src root).Pairwise fun e e' => e.position.Precedes e'.position :=
  precedes_filterMap src (h.pairwise_start_descendants _) fun p _ _ he =>
    ⟨p.node.stop, position_of_classOf? he⟩

theorem precedes_methods (h : root.WellNested) {cls : ClassEntry} (hc : cls ∈ classes src root) :
    cls.methods.Pairwise fun e e' => e.position.Precedes e'.position := by
  obtain ⟨p, hp, hc⟩ := List.mem_filterMap.mp hc
  obtain ⟨name, -, rfl⟩ := Option.map_eq_some_iff.mp hc
  refine precedes_filterMap src ?_ fun member _ e he => ⟨member.stop, position_of_methodOf? he⟩
  exact (h.of_mem (Place.mem_nodes_of_mem_descendants hp)).pairwise_start_body _

/-! ## Imports and exports -/

theorem precedes_imports (h : root.WellNested) (src : Source) :
    (imports src root).Pairwise fun e e' => e.position.Precedes e'.position := by
  refine precedes_filterMap src (h.pairwise_start_descendants _) fun p _ e he => ⟨p.node.stop, ?_⟩
  obtain ⟨source, -, rfl⟩ := Option.map_eq_some_iff.mp he
  rfl

theorem position_of_mem_exportsOf {e : ExportEntry} (h : e ∈ exportsOf src n) :
    e.position = n.position src := by
  unfold exportsOf at h
  dsimp only at h
  split at h
  · rcases List.mem_cons.mp h with rfl | h
    · rfl
    · obtain rfl := List.mem_singleton.mp h
      rfl
  · obtain rfl := List.mem_singleton.mp h
    rfl

theorem precedes_exports (h : root.WellNested) (src : Source) :
    (exports src root).Pairwise fun e e' => e.position.Precedes e'.position :=
  precedes_flatMap src (h.pairwise_start_descendants _) fun p _ _ he =>
    ⟨p.node.stop, position_of_mem_exportsOf he⟩

end Gazetteer.JavaScript

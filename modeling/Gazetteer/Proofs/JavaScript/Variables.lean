import Gazetteer.Language
import Gazetteer.Proofs.Syntax.Preorder
import Mathlib.Data.List.Basic

/-! # Variables at the top

The variables of a tree are read off the declarators at its top, in source order. A declarator is
listed if its name has any text, so a pattern that takes a value apart is listed as a variable.
-/

namespace Gazetteer.JavaScript

variable {src : Source} {root : Node} {p d : Place}

/-- A declarator in a declaration at the top of a tree, exported or not. -/
inductive IsTopDeclarator (root : Node) : Place → Prop where

  | plain {d v : Node} : d ∈ root.namedChildren → d.kind ∈ declarationKinds →
      v ∈ d.namedChildren → v.kind = "variable_declarator" → IsTopDeclarator root ⟨v, [d, root]⟩

  | exported {n d v : Node} : n ∈ root.namedChildren → n.kind = "export_statement" →
      n.child? "declaration" = some d → d.kind ∈ declarationKinds → v ∈ d.namedChildren →
      v.kind = "variable_declarator" → IsTopDeclarator root ⟨v, [d, n, root]⟩

def declarationAt? (s : Place) : Option Place :=
  (if s.node.kind = "export_statement" then
    (s.node.child? "declaration").map fun d => ⟨d, s.node :: s.above⟩
  else some s).filter fun d => declarationKinds.contains d.node.kind

def declaratorsAt (d : Place) : List Place :=
  d.children.filter (Place.isNamedOf ["variable_declarator"])

/-- The declarators at the top of a tree, in source order. -/
def topDeclarators (root : Node) : List Place :=
  (((Place.root root).children.filter (·.node.named)).filterMap declarationAt?).flatMap
    declaratorsAt

/-- What a declarator is noted as. -/
def variableAt (src : Source) (p : Place) : VariableEntry where
  name := (p.node.childText? src "name").getD ""
  keyword := (p.parent?.bind fun d => d.node.childName? src "kind").getD "var"
  position := p.node.position src
  code := p.node.text src

def namesText (src : Source) (p : Place) : Bool := (p.node.childName? src "name").isSome

def namesIdentifier (p : Place) : Bool := (p.node.child? "name").any (·.kind == "identifier")

/-! ## Declarators -/

theorem declarationAt?_eq_some_iff {s : Place} : declarationAt? s = some d ↔
    d.node.kind ∈ declarationKinds ∧ (d = s ∨ s.node.kind = "export_statement" ∧
      ∃ n, s.node.child? "declaration" = some n ∧ d = ⟨n, s.node :: s.above⟩) := by
  have hne : s.node.kind ∈ declarationKinds → s.node.kind ≠ "export_statement" := fun hd he => by
    rw [he] at hd
    exact absurd hd (by decide)
  rw [declarationAt?, Option.filter_eq_some_iff]
  simp only [List.contains_eq_mem, decide_eq_true_eq]
  rw [and_comm]
  refine and_congr_right fun hd => ?_
  by_cases hk : s.node.kind = "export_statement"
  · rw [if_pos hk, Option.map_eq_some_iff]
    constructor
    · rintro ⟨n, hn, rfl⟩
      exact .inr ⟨hk, n, hn, rfl⟩
    · rintro (rfl | ⟨-, n, hn, rfl⟩)
      · exact absurd hk (hne hd)
      · exact ⟨n, hn, rfl⟩
  · rw [if_neg hk]
    simp [hk, eq_comm]

theorem mem_declaratorsAt_iff : p ∈ declaratorsAt d ↔ ∃ v ∈ d.node.namedChildren,
    v.kind = "variable_declarator" ∧ p = ⟨v, d.node :: d.above⟩ := by
  simp only [declaratorsAt, Place.children, Place.isNamedOf, Node.namedChildren, List.mem_filter,
    List.mem_map, List.contains_eq_mem, List.mem_singleton, Bool.and_eq_true, decide_eq_true_eq]
  constructor
  · rintro ⟨⟨v, hv, rfl⟩, hn, hk⟩
    exact ⟨v, ⟨hv, hn⟩, hk, rfl⟩
  · rintro ⟨v, ⟨hv, hn⟩, hk, rfl⟩
    exact ⟨⟨v, hv, rfl⟩, hn, hk⟩

theorem mem_statements_iff {s : Place} :
    s ∈ (Place.root root).children.filter (·.node.named) ↔
      ∃ n ∈ root.namedChildren, s = ⟨n, [root]⟩ := by
  simp only [Place.children, Place.root, Node.namedChildren, List.mem_filter, List.mem_map]
  constructor
  · rintro ⟨⟨n, hn, rfl⟩, hnamed⟩
    exact ⟨n, ⟨hn, hnamed⟩, rfl⟩
  · rintro ⟨n, ⟨hn, hnamed⟩, rfl⟩
    exact ⟨⟨n, hn, rfl⟩, hnamed⟩

theorem mem_topDeclarators_iff : p ∈ topDeclarators root ↔ IsTopDeclarator root p := by
  simp only [topDeclarators, List.mem_flatMap, List.mem_filterMap, mem_statements_iff,
    declarationAt?_eq_some_iff, mem_declaratorsAt_iff]
  constructor
  · rintro ⟨d, ⟨-, ⟨n, hn, rfl⟩, hd, rfl | ⟨hk, m, hm, rfl⟩⟩, v, hv, hvk, rfl⟩
    · exact .plain hn hd hv hvk
    · exact .exported hn hk hm hd hv hvk
  · rintro (⟨hn, hd, hv, hvk⟩ | ⟨hn, hk, hm, hd, hv, hvk⟩)
    · exact ⟨_, ⟨_, ⟨_, hn, rfl⟩, hd, .inl rfl⟩, _, hv, hvk, rfl⟩
    · exact ⟨_, ⟨_, ⟨_, hn, rfl⟩, hd, .inr ⟨hk, _, hm, rfl⟩⟩, _, hv, hvk, rfl⟩

theorem topDeclarators_sublist (root : Node) :
    (topDeclarators root).Sublist (Place.root root).below := by
  have hd (d : Place) : (declaratorsAt d).Sublist (d.preorder []) :=
    (List.filter_sublist.trans (Place.children_sublist_below d)).trans
      (Place.below_sublist_preorder d)
  have hs (s : Place) :
      ((declarationAt? s).toList.flatMap declaratorsAt).Sublist (s.preorder []) := by
    cases h : declarationAt? s with
    | none => exact List.nil_sublist _
    | some d =>
      rw [Option.toList_some, List.flatMap_singleton]
      rcases (declarationAt?_eq_some_iff.mp h).2 with rfl | ⟨-, n, hn, rfl⟩
      · exact hd d
      · have hc : ⟨n, s.node :: s.above⟩ ∈ s.children :=
          Place.mem_children_of_mem (List.mem_of_find?_eq_some hn)
        exact ((hd _).trans (Place.preorder_sublist_below hc)).trans
          (Place.below_sublist_preorder s)
  calc (topDeclarators root).Sublist
        (((Place.root root).children.filterMap declarationAt?).flatMap declaratorsAt) :=
      (List.filter_sublist.filterMap declarationAt?).flatMap declaratorsAt
    _ |>.Sublist (Place.root root).below := by
      rw [List.filterMap_eq_flatMap_toList, List.flatMap_assoc, Place.below_eq_flatMap]
      exact List.Sublist.flatMap_right _ fun s _ => hs s

/-! ## Entries -/

/-- Two selections of a list are noted alike only if they are the same, as long as what is noted
tells what the first one selects. -/
theorem map_filter_eq_iff {α β : Type} {f : α → β} {q r : α → Bool} (g : β → Bool)
    (hg : ∀ a, g (f a) = q a) (l : List α) :
    (l.filter q).map f = (l.filter r).map f ↔ ∀ a ∈ l, r a = q a := by
  constructor
  · intro h
    have hr : ∀ a ∈ l, r a = true → q a = true := fun a ha hra => by
      have hm : f a ∈ (l.filter q).map f := by
        rw [h]
        exact List.mem_map_of_mem (List.mem_filter.mpr ⟨ha, hra⟩)
      obtain ⟨b, hb, he⟩ := List.mem_map.mp hm
      rw [← hg, ← he, hg]
      exact (List.mem_filter.mp hb).2
    have hs : l.filter r = (l.filter q).filter r := by
      rw [List.filter_filter]
      refine List.filter_congr fun a ha => ?_
      cases hra : r a with
      | true => simp [hr a ha hra]
      | false => simp
    have hlen : ((l.filter q).filter r).length = (l.filter q).length := by
      rw [← hs]
      simpa using (congrArg List.length h).symm
    have hq := List.length_filter_eq_length_iff.mp hlen
    intro a ha
    cases hqa : q a with
    | true => exact hq a (List.mem_filter.mpr ⟨ha, hqa⟩)
    | false => exact Bool.eq_false_iff.mpr fun hra => by simp [hr a ha hra] at hqa
  · intro h
    rw [List.filter_congr h]

theorem name_variableAt (src : Source) (p : Place) :
    ((variableAt src p).name != "") = namesText src p := by
  rw [variableAt, namesText, Node.childName?]
  cases p.node.childText? src "name" with
  | none => rfl
  | some text => by_cases h : text = "" <;> simp [h, Option.filter]

theorem variableOf?_eq {v : Node} (d : Place) (hk : v.kind = "variable_declarator") :
    variableOf? src ((d.node.childName? src "kind").getD "var") v =
      if namesText src ⟨v, d.node :: d.above⟩ then some (variableAt src ⟨v, d.node :: d.above⟩)
      else none := by
  rw [variableOf?, if_pos hk, namesText]
  cases hn : v.childName? src "name" with
  | none => rfl
  | some name =>
    obtain ⟨ht, -⟩ := Option.filter_eq_some_iff.mp hn
    simp [variableAt, Place.parent?, ht]

theorem declaredVariables_eq (src : Source) (d : Place) :
    declaredVariables src d.node =
      ((declaratorsAt d).filter (namesText src)).map (variableAt src) := by
  rw [declaredVariables, declaratorsAt, Node.namedChildren, Place.children, List.filter_filter,
    List.filter_map, List.map_map, ← List.filterMap_eq_map, List.filterMap_filter,
    List.filterMap_filter]
  refine List.filterMap_congr fun v _ => ?_
  by_cases hk : v.kind = "variable_declarator"
  · rw [variableOf?_eq d hk]
    cases hn : v.named <;> simp [Place.isNamedOf, hk, hn]
  · simp [variableOf?, Place.isNamedOf, hk]

theorem map_node_declarationAt? (root : Node) :
    (((Place.root root).children.filter (·.node.named)).filterMap declarationAt?).map (·.node) =
      root.namedChildren.filterMap topDeclaration? := by
  rw [Place.children, List.filter_map, List.map_filterMap, List.filterMap_map]
  refine List.filterMap_congr fun n _ => ?_
  by_cases hk : n.kind = "export_statement"
  · cases hd : n.child? "declaration" <;>
      simp [declarationAt?, topDeclaration?, hk, hd, Option.filter]
  · simp [declarationAt?, topDeclaration?, hk, Option.filter]

theorem bindings_eq (src : Source) (root : Node) :
    bindings src root = ((topDeclarators root).filter (namesText src)).map (variableAt src) := by
  rw [bindings, ← map_node_declarationAt?, topDeclarators, List.flatMap_map, List.filter_flatMap,
    List.map_flatMap]
  exact List.flatMap_congr fun d _ => declaredVariables_eq src d

/-- The variables of a table are the declarators at the top whose names have a text, in source
order. They are the declarators of identifiers if and only if no other name has a text. -/
theorem bindings_eq_identifiers_iff (path : String) (src : Source) (root : Node) :
    let t := Language.javascript.tabulate path src root
    let ds := topDeclarators root
    let listed (p : Place) : VariableEntry :=
      { variableAt src p with position := src.inCharacters (p.node.position src) }
    ds.Sublist (Place.root root).below ∧ (∀ p, p ∈ ds ↔ IsTopDeclarator root p) ∧
      t.bindings = (ds.filter (namesText src)).map listed ∧
      (t.bindings = (ds.filter namesIdentifier).map listed ↔
        ∀ p ∈ ds, namesIdentifier p = namesText src p) := by
  intro t ds listed
  have hb : t.bindings = (ds.filter (namesText src)).map listed := by
    calc t.bindings
      _ = (bindings src root).map fun e => { e with position := src.inCharacters e.position } := rfl
      _ = (ds.filter (namesText src)).map listed := by
        rw [bindings_eq, List.map_map]
        rfl
  have hname : ∀ p, ((listed p).name != "") = namesText src p := name_variableAt src
  refine ⟨topDeclarators_sublist root, fun p => mem_topDeclarators_iff, hb, ?_⟩
  rw [hb]
  exact map_filter_eq_iff (fun e : VariableEntry => e.name != "") hname ds

/-- The tree of `const {a} = b;`. -/
def destructuringTree : Node :=
  ⟨"program", true, none, 0, 14, [⟨"lexical_declaration", true, none, 0, 14,
    [⟨"const", false, some "kind", 0, 5, []⟩,
      ⟨"variable_declarator", true, none, 6, 13,
        [⟨"object_pattern", true, some "name", 6, 9,
          [⟨"\x7b", false, none, 6, 7, []⟩,
            ⟨"shorthand_property_identifier_pattern", true, none, 7, 8, []⟩,
            ⟨"\x7d", false, none, 8, 9, []⟩]⟩,
          ⟨"=", false, none, 10, 11, []⟩, ⟨"identifier", true, some "value", 12, 13, []⟩]⟩,
      ⟨";", false, none, 13, 14, []⟩]⟩]⟩

/-- A pattern that takes a value apart is listed as a variable. -/
theorem pattern_listed :
    let src := Source.ofString "const {a} = b;"
    let t := Language.javascript.tabulate "m.js" src destructuringTree
    t.bindings.map (·.name) = ["{a}"] ∧
      ((topDeclarators destructuringTree).filter namesIdentifier).map (variableAt src) = [] := by
  decide +kernel

end Gazetteer.JavaScript

import Gazetteer.Proofs.Syntax.Preorder

/-! # Places below a top

The trees that stand side by side below a top have places of their own. In the whole tree these are
the same places with the top as the last node above them.
-/

namespace Gazetteer

namespace Place

variable {p q : Place} {top : Node}

/-- A place of a tree that stands below a top. -/
def on (p : Place) (top : Node) : Place := ⟨p.node, p.above ++ [top]⟩

@[simp] theorem node_on (p : Place) (top : Node) : (p.on top).node = p.node := rfl

@[simp] theorem isNamedOf_on (kinds : List String) (p : Place) (top : Node) :
    (p.on top).isNamedOf kinds = p.isNamedOf kinds := rfl

theorem parent?_on_of_none (h : p.parent? = none) : (p.on top).parent? = some (root top) := by
  obtain ⟨n, _ | ⟨m, above⟩⟩ := p
  · rfl
  · cases h

theorem parent?_on_of_some (h : p.parent? = some q) : (p.on top).parent? = some (q.on top) := by
  obtain ⟨n, _ | ⟨m, above⟩⟩ := p
  · cases h
  · cases h
    rfl

/-- The places of trees that stand side by side. -/
def placesIn (ns : List Node) : List Place := preorderAll [] [] ns

theorem preorderAll_append (skip : List String) (above ns ms : List Node) :
    preorderAll skip above (ns ++ ms) = preorderAll skip above ns ++ preorderAll skip above ms := by
  simp only [preorderAll_eq_flatMap, List.map_append, List.flatMap_append]

theorem placesIn_append (ns ms : List Node) : placesIn (ns ++ ms) = placesIn ns ++ placesIn ms :=
  preorderAll_append [] [] ns ms

mutual

theorem preorderOf_on (skip : List String) (top : Node) (above : List Node) (n : Node) :
    preorderOf skip (above ++ [top]) n = (preorderOf skip above n).map (·.on top) := by
  obtain ⟨kind, named, field, start, stop, children⟩ := n
  rw [preorderOf, preorderOf, List.map_cons]
  congr 1
  split
  · rfl
  · exact preorderAll_on skip top (_ :: above) children

theorem preorderAll_on (skip : List String) (top : Node) (above ns : List Node) :
    preorderAll skip (above ++ [top]) ns = (preorderAll skip above ns).map (·.on top) := by
  cases ns with
  | nil => rfl
  | cons n ns =>
    rw [preorderAll, preorderAll, List.map_append, preorderOf_on, preorderAll_on]

end

theorem below_root (top : Node) :
    (root top).below = (placesIn top.children).map (·.on top) :=
  preorderAll_on [] top [] top.children

theorem descendants_root (top : Node) (kinds : List String) :
    (root top).descendants kinds [] =
      ((placesIn top.children).filter (isNamedOf kinds)).map (·.on top) := by
  rw [descendants_eq_filter, below_root, List.filter_map]
  rfl

end Place

/-! ## Trees side by side -/

/-- A node has the kind of two others and the children of one before those of the other. -/
structure Node.Joins (left right whole : Node) : Prop where
  kind_left : left.kind = whole.kind
  kind_right : right.kind = whole.kind
  children : whole.children = left.children ++ right.children

namespace Node.Joins

open Place

variable {left right whole : Node}

theorem namedChildren (h : Joins left right whole) :
    whole.namedChildren = left.namedChildren ++ right.namedChildren := by
  simp only [Node.namedChildren, h.children, List.filter_append]

theorem placesIn (h : Joins left right whole) (kinds : List String) :
    (Place.placesIn whole.children).filter (isNamedOf kinds) =
      (Place.placesIn left.children).filter (isNamedOf kinds) ++
        (Place.placesIn right.children).filter (isNamedOf kinds) := by
  rw [h.children, placesIn_append, List.filter_append]

/-- The nodes that are met below the whole are met below its parts. -/
theorem map_node_descendants (h : Joins left right whole) (kinds : List String) :
    ((root whole).descendants kinds []).map (·.node) =
      ((root left).descendants kinds []).map (·.node) ++
        ((root right).descendants kinds []).map (·.node) := by
  simp only [descendants_root, h.placesIn, List.map_append]
  simp only [List.map_map, Function.comp_def, node_on]

theorem filterMap_descendants {α : Type} (h : Joins left right whole) (kinds : List String)
    (f : Node → Option α) :
    ((root whole).descendants kinds []).filterMap (fun p => f p.node) =
      ((root left).descendants kinds []).filterMap (fun p => f p.node) ++
        ((root right).descendants kinds []).filterMap fun p => f p.node := by
  have hm (ps : List Place) :
      ps.filterMap (fun p => f p.node) = (ps.map (·.node)).filterMap f := by
    rw [List.filterMap_map]
    rfl
  rw [hm, hm, hm, h.map_node_descendants, List.filterMap_append]

theorem flatMap_descendants {α : Type} (h : Joins left right whole) (kinds : List String)
    (f : Node → List α) :
    ((root whole).descendants kinds []).flatMap (fun p => f p.node) =
      ((root left).descendants kinds []).flatMap (fun p => f p.node) ++
        ((root right).descendants kinds []).flatMap fun p => f p.node := by
  have hm (ps : List Place) :
      ps.flatMap (fun p => f p.node) = (ps.map (·.node)).flatMap f := by
    rw [List.flatMap_map]
  rw [hm, hm, hm, h.map_node_descendants, List.flatMap_append]

end Node.Joins

end Gazetteer

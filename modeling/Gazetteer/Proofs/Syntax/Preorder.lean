import Gazetteer.Proofs.Syntax.Nodes
import Mathlib.Data.List.Flatten

/-! # Places in source order

The places of a tree in one list, each before those below it. The walk with a stack meets the places
in this order. Every place below another one is the child of exactly one place, so what is looked
for from above, child by child, is found as often as from below.
-/

namespace Gazetteer.Place

variable {kinds skip : List String} {above : List Node} {n : Node} {ns : List Node}

mutual

/-- A node that stands below the given ones, and then what is below it; nothing is below a node
whose kind is in `skip`. -/
def preorderOf (skip : List String) (above : List Node) : Node → List Place
  | ⟨kind, named, field, start, stop, children⟩ =>
    ⟨⟨kind, named, field, start, stop, children⟩, above⟩ ::
      if skip.contains kind then []
      else preorderAll skip (⟨kind, named, field, start, stop, children⟩ :: above) children

def preorderAll (skip : List String) (above : List Node) : List Node → List Place
  | [] => []
  | n :: ns => preorderOf skip above n ++ preorderAll skip above ns

end

def preorder (skip : List String) (p : Place) : List Place := preorderOf skip p.above p.node

def below (p : Place) : List Place := preorderAll [] (p.node :: p.above) p.node.children

theorem preorderOf_eq (skip : List String) (above : List Node) (n : Node) :
    preorderOf skip above n =
      ⟨n, above⟩ :: if skip.contains n.kind then []
        else preorderAll skip (n :: above) n.children := by
  cases n
  rfl

theorem preorderAll_eq_flatMap (skip : List String) (above : List Node) (ns : List Node) :
    preorderAll skip above ns = (ns.map (⟨·, above⟩)).flatMap (preorder skip) := by
  induction ns with
  | nil => rfl
  | cons n ns ih => rw [preorderAll, ih, List.map_cons, List.flatMap_cons, preorder]

theorem preorder_eq (skip : List String) (p : Place) :
    p.preorder skip =
      p :: if skip.contains p.node.kind then [] else p.children.flatMap (preorder skip) := by
  rw [preorder, preorderOf_eq, preorderAll_eq_flatMap]
  rfl

/-! ## The walk -/

/-- A walk meets what is below the places on its stack in source order. -/
theorem visit_eq_filter (kinds skip : List String) (stack : List Place) :
    visit kinds skip stack = (stack.flatMap (preorder skip)).filter (isNamedOf kinds) := by
  have atTop : ∀ p : Place,
      (if p.isNamedOf kinds then [p] else []) = [p].filter (isNamedOf kinds) := fun p => by
    rw [List.filter_cons, List.filter_nil]
  fun_induction visit kinds skip stack with
  | case1 => rfl
  | case2 p stack found hs ih =>
    have hf : found = [p].filter (isNamedOf kinds) := atTop p
    rw [List.flatMap_cons, preorder_eq, if_pos hs, List.filter_append, ← hf, ih]
  | case3 p stack found hs ih =>
    have hf : found = [p].filter (isNamedOf kinds) := atTop p
    rw [List.flatMap_cons, preorder_eq, if_neg hs, List.cons_append, ← List.singleton_append,
      List.filter_append, ← hf, ih, List.flatMap_append]

theorem below_eq_flatMap (p : Place) : p.below = p.children.flatMap (preorder []) :=
  preorderAll_eq_flatMap _ _ _

theorem preorder_eq_cons_below (p : Place) : p.preorder [] = p :: p.below := by
  rw [preorder_eq, if_neg (by simp), below_eq_flatMap]

theorem descendants_eq_filter (p : Place) (kinds : List String) :
    p.descendants kinds [] = p.below.filter (isNamedOf kinds) := by
  rw [descendants, visit_eq_filter, below_eq_flatMap]

theorem mem_descendants_iff {p q : Place} :
    q ∈ p.descendants kinds [] ↔ q ∈ p.below ∧ q.isNamedOf kinds = true := by
  rw [descendants_eq_filter, List.mem_filter]

/-! ## Parts of the list -/

theorem below_sublist_preorder (p : Place) : p.below.Sublist (p.preorder []) := by
  rw [preorder_eq_cons_below]
  exact List.sublist_cons_self _ _

theorem preorder_sublist_below {p q : Place} (h : q ∈ p.children) :
    (q.preorder []).Sublist p.below := by
  rw [below_eq_flatMap]
  exact List.sublist_flatten_of_mem (List.mem_map_of_mem h)

theorem children_sublist_below (p : Place) : p.children.Sublist p.below := by
  have h : (p.children.flatMap fun q => [q]).Sublist (p.children.flatMap (preorder [])) := by
    refine List.Sublist.flatMap_right _ fun q _ => ?_
    rw [preorder_eq_cons_below]
    exact List.singleton_sublist.mpr List.mem_cons_self
  rwa [List.flatMap_singleton', ← below_eq_flatMap] at h

/-! ## Nodes -/

mutual

theorem map_node_preorderOf (above : List Node) (n : Node) :
    (preorderOf [] above n).map (·.node) = n.nodes := by
  obtain ⟨kind, named, field, start, stop, children⟩ := n
  rw [preorderOf, if_neg (by simp), List.map_cons, Node.nodes, map_node_preorderAll]

theorem map_node_preorderAll (above : List Node) (ns : List Node) :
    (preorderAll [] above ns).map (·.node) = Node.nodesAll ns := by
  cases ns with
  | nil => rfl
  | cons n ns =>
    rw [preorderAll, List.map_append, map_node_preorderOf, map_node_preorderAll, Node.nodesAll]

end

theorem map_node_below (p : Place) : p.below.map (·.node) = Node.nodesAll p.node.children :=
  map_node_preorderAll _ _

theorem mem_nodes_of_mem_below {p q : Place} (h : q ∈ p.below) : q.node ∈ p.node.nodes := by
  rw [Node.nodes_eq, ← map_node_below]
  exact List.mem_cons_of_mem _ (List.mem_map_of_mem h)

/-! ## Children -/

mutual

theorem perm_flatMap_children_of (above : List Node) (n : Node) :
    (preorderAll [] (n :: above) n.children).Perm ((preorderOf [] above n).flatMap children) := by
  obtain ⟨kind, named, field, start, stop, children⟩ := n
  rw [preorderOf, if_neg (by simp), List.flatMap_cons]
  exact perm_flatMap_children_all _ children

theorem perm_flatMap_children_all (above : List Node) (ns : List Node) :
    (preorderAll [] above ns).Perm
      (ns.map (⟨·, above⟩) ++ (preorderAll [] above ns).flatMap children) := by
  cases ns with
  | nil => exact .nil
  | cons n ns =>
    have hn := perm_flatMap_children_of above n
    have hs := perm_flatMap_children_all above ns
    rw [preorderAll, List.flatMap_append, List.map_cons, List.cons_append]
    have hp : preorderOf [] above n = ⟨n, above⟩ :: preorderAll [] (n :: above) n.children := by
      rw [preorderOf_eq, if_neg (by simp)]
    calc preorderOf [] above n ++ preorderAll [] above ns
      _ = ⟨n, above⟩ :: (preorderAll [] (n :: above) n.children ++ preorderAll [] above ns) := by
        rw [hp, List.cons_append]
      _ |>.Perm (⟨n, above⟩ :: ((preorderOf [] above n).flatMap children ++
            (ns.map (⟨·, above⟩) ++ (preorderAll [] above ns).flatMap children))) :=
        (hn.append hs).cons _
      _ |>.Perm (⟨n, above⟩ :: (ns.map (⟨·, above⟩) ++ ((preorderOf [] above n).flatMap children ++
            (preorderAll [] above ns).flatMap children))) := by
        rw [← List.append_assoc, ← List.append_assoc]
        exact (List.perm_append_comm.append_right _).cons _

end

theorem below_perm_flatMap_children (p : Place) :
    p.below.Perm ((p :: p.below).flatMap children) :=
  perm_flatMap_children_all _ _

theorem mem_below_of_mem_children {p q r : Place} (hq : q ∈ p :: p.below)
    (hr : r ∈ q.children) : r ∈ p.below :=
  (below_perm_flatMap_children p).mem_iff.mpr (List.mem_flatMap.mpr ⟨q, hq, hr⟩)

theorem mem_children_of_mem {p : Place} (h : n ∈ p.node.children) :
    ⟨n, p.node :: p.above⟩ ∈ p.children :=
  List.mem_map_of_mem h

/-- What is gathered from the places below is what is gathered from their children in turn, if
there is none at the top. -/
theorem flatMap_below_perm {α : Type} {p : Place} {f : Place → List α}
    (hp : p.children.flatMap f = []) :
    (p.below.flatMap f).Perm (p.below.flatMap fun q => q.children.flatMap f) := by
  have h := (below_perm_flatMap_children p).flatMap_right f
  rwa [List.flatMap_assoc, List.flatMap_cons, hp, List.nil_append] at h

end Gazetteer.Place

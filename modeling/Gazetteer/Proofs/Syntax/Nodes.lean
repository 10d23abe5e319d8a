import Gazetteer.Syntax.Node

/-! # The nodes of a tree

All nodes of a tree in one list. Whatever is reached from a node of the tree by going down, or by
walking its descendants, is a node of the tree again.
-/

namespace Gazetteer

namespace Node

variable {root n m : Node} {role : String}

mutual
def nodes : Node → List Node
  | ⟨kind, named, field, start, stop, children⟩ =>
    ⟨kind, named, field, start, stop, children⟩ :: nodesAll children
def nodesAll : List Node → List Node
  | [] => []
  | n :: ns => nodes n ++ nodesAll ns
end

theorem nodes_eq (n : Node) : n.nodes = n :: nodesAll n.children := by
  cases n
  rfl

theorem mem_nodes_self (n : Node) : n ∈ n.nodes := by
  rw [nodes_eq]
  exact List.mem_cons_self

theorem mem_nodesAll_iff {ns : List Node} : m ∈ nodesAll ns ↔ ∃ n ∈ ns, m ∈ n.nodes := by
  induction ns with
  | nil => simp [nodesAll]
  | cons n ns ih => simp [nodesAll, ih]

mutual
theorem nodes_trans (hm : m ∈ n.nodes) : ∀ {root : Node}, n ∈ root.nodes → m ∈ root.nodes
  | ⟨_, _, _, _, _, children⟩, h => by
    rw [nodes, List.mem_cons] at h ⊢
    rcases h with rfl | h
    · rwa [nodes, List.mem_cons] at hm
    · exact .inr (nodesAll_trans hm h)
theorem nodesAll_trans (hm : m ∈ n.nodes) : ∀ {ns : List Node}, n ∈ nodesAll ns → m ∈ nodesAll ns
  | [], h => by simp [nodesAll] at h
  | k :: ns, h => by
    rw [nodesAll, List.mem_append] at h ⊢
    rcases h with h | h
    · exact .inl (nodes_trans hm h)
    · exact .inr (nodesAll_trans hm h)
end

theorem mem_nodes_of_mem_children (hn : n ∈ root.nodes) (hm : m ∈ n.children) :
    m ∈ root.nodes := by
  refine nodes_trans ?_ hn
  rw [nodes_eq]
  exact List.mem_cons_of_mem _ (mem_nodesAll_iff.mpr ⟨m, hm, mem_nodes_self m⟩)

theorem mem_nodes_of_mem_namedChildren (hn : n ∈ root.nodes) (hm : m ∈ n.namedChildren) :
    m ∈ root.nodes :=
  mem_nodes_of_mem_children hn ((List.mem_filter.mp hm).1)

theorem mem_nodes_of_child? (hn : n ∈ root.nodes) (hm : n.child? role = some m) :
    m ∈ root.nodes :=
  mem_nodes_of_mem_children hn (List.mem_of_find?_eq_some hm)

theorem mem_nodes_of_mem_body (hn : n ∈ root.nodes)
    (hm : m ∈ (n.child? role).elim [] namedChildren) : m ∈ root.nodes := by
  cases hb : n.child? role with
  | none => simp [hb] at hm
  | some body =>
    rw [hb] at hm
    exact mem_nodes_of_mem_namedChildren (mem_nodes_of_child? hn hb) hm

end Node

namespace Place

variable {p : Place} {kinds skip : List String}

theorem mem_nodes_of_mem_children {q : Place} (h : p ∈ q.children) : p.node ∈ q.node.nodes := by
  obtain ⟨n, hn, rfl⟩ := List.mem_map.mp h
  exact Node.mem_nodes_of_mem_children (Node.mem_nodes_self _) hn

theorem mem_nodes_of_mem_visit {stack : List Place} (h : p ∈ visit kinds skip stack) :
    ∃ q ∈ stack, p.node ∈ q.node.nodes := by
  have atTop : ∀ (q : Place) (stack : List Place), p ∈ (if q.isNamedOf kinds then [q] else []) →
      ∃ r ∈ q :: stack, p.node ∈ r.node.nodes := by
    intro q stack hp
    split at hp
    · obtain rfl := List.mem_singleton.mp hp
      exact ⟨p, List.mem_cons_self, Node.mem_nodes_self _⟩
    · simp at hp
  fun_induction visit kinds skip stack with
  | case1 => simp at h
  | case2 q stack found hs ih =>
    rcases List.mem_append.mp h with hp | hp
    · exact atTop q stack hp
    · obtain ⟨r, hr, hn⟩ := ih hp
      exact ⟨r, List.mem_cons_of_mem _ hr, hn⟩
  | case3 q stack found hs ih =>
    rcases List.mem_append.mp h with hp | hp
    · exact atTop q stack hp
    · obtain ⟨r, hr, hn⟩ := ih hp
      rcases List.mem_append.mp hr with hr | hr
      · exact ⟨q, List.mem_cons_self, Node.nodes_trans hn (mem_nodes_of_mem_children hr)⟩
      · exact ⟨r, List.mem_cons_of_mem _ hr, hn⟩

theorem mem_nodes_of_mem_descendants {root : Node}
    (h : p ∈ (Place.root root).descendants kinds skip) : p.node ∈ root.nodes := by
  obtain ⟨q, hq, hn⟩ := mem_nodes_of_mem_visit h
  exact Node.nodes_trans hn (mem_nodes_of_mem_children hq)

end Place

namespace Node

variable {root n : Node} {src : Source} {position : Position} {code : String}

/-- Some node of the tree has this position and spells this text. -/
def HasSpan (root : Node) (src : Source) (position : Position) (code : String) : Prop :=
  ∃ n ∈ root.nodes, n.position src = position ∧ n.text src = code

theorem hasSpan_of_mem (h : n ∈ root.nodes) :
    root.HasSpan src (n.position src) (n.text src) :=
  ⟨n, h, rfl, rfl⟩

end Node

end Gazetteer

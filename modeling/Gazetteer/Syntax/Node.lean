import Gazetteer.Syntax.Source

/-! # Syntax trees

Concrete syntax trees with kinds, fields and byte spans. A `Place` is a node together with the
nodes above it. `Place.descendants` walks a tree with an explicit stack.
-/

namespace Gazetteer

structure Node where
  kind : String
  /-- False for keywords and punctuation. -/
  named : Bool
  /-- The role of the node under its parent. -/
  field : Option String
  start : Nat
  stop : Nat
  children : List Node

namespace Node

mutual
def size : Node → Nat
  | ⟨_, _, _, _, _, children⟩ => sizes children + 1
def sizes : List Node → Nat
  | [] => 0
  | n :: ns => n.size + sizes ns
end

theorem size_eq (n : Node) : n.size = sizes n.children + 1 := by
  cases n; simp [size]

theorem sizes_append (ns ms : List Node) : sizes (ns ++ ms) = sizes ns + sizes ms := by
  induction ns with
  | nil => simp [sizes]
  | cons n ns ih => simp [sizes, ih, Nat.add_assoc]

theorem size_le_sizes {n : Node} {ns : List Node} (h : n ∈ ns) : n.size ≤ sizes ns := by
  induction ns with
  | nil => simp at h
  | cons m ns ih =>
    rw [sizes]
    rcases List.mem_cons.mp h with rfl | h
    · exact Nat.le_add_right _ _
    · exact Nat.le_trans (ih h) (Nat.le_add_left _ _)

def namedChildren (n : Node) : List Node := n.children.filter (·.named)

def child? (n : Node) (role : String) : Option Node := n.children.find? (·.field == some role)

def childrenIn (n : Node) (role : String) : List Node := n.children.filter (·.field == some role)

def hasChild (n : Node) (kind : String) : Bool := n.children.any (·.kind == kind)

def text (src : Source) (n : Node) : String := src.text n.start n.stop

def position (src : Source) (n : Node) : Position := src.position n.start n.stop

def childText? (src : Source) (n : Node) (role : String) : Option String :=
  (n.child? role).map (·.text src)

def childName? (src : Source) (n : Node) (role : String) : Option String :=
  (n.childText? src role).filter (· != "")

end Node

/-- A node with the nodes above it, nearest first. -/
structure Place where
  node : Node
  above : List Node

namespace Place

def root (n : Node) : Place := ⟨n, []⟩

def parent? (p : Place) : Option Place :=
  match p.above with
  | [] => none
  | n :: ns => some ⟨n, ns⟩

def children (p : Place) : List Place := p.node.children.map fun n => ⟨n, p.node :: p.above⟩

def stackSize (stack : List Place) : Nat := Node.sizes (stack.map (·.node))

theorem stackSize_children (p : Place) (stack : List Place) :
    stackSize (p.children ++ stack) < stackSize (p :: stack) := by
  have h : p.children.map (·.node) = p.node.children := by simp [children, Function.comp_def]
  simp only [stackSize, List.map_append, List.map_cons, h, Node.sizes_append, Node.sizes,
    Node.size_eq p.node]
  omega

theorem stackSize_tail (p : Place) (stack : List Place) :
    stackSize stack < stackSize (p :: stack) := by
  simp only [stackSize, List.map_cons, Node.sizes, Node.size_eq p.node]
  omega

def isNamedOf (kinds : List String) (p : Place) : Bool :=
  p.node.named && kinds.contains p.node.kind

/-- Take places off the stack and put the children of each back, except below `skip`. -/
def visit (kinds skip : List String) : List Place → List Place
  | [] => []
  | p :: stack =>
    let found := if p.isNamedOf kinds then [p] else []
    if skip.contains p.node.kind then found ++ visit kinds skip stack
    else found ++ visit kinds skip (p.children ++ stack)
termination_by stack => stackSize stack
decreasing_by
  · exact stackSize_tail p stack
  · exact stackSize_children p stack

/-- The named nodes of the given kinds below a place, in source order; nothing is looked for below
a node whose kind is in `skip`. -/
def descendants (p : Place) (kinds skip : List String) : List Place :=
  visit kinds skip p.children

end Place

end Gazetteer

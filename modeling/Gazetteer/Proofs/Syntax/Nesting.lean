import Gazetteer.Proofs.Syntax.Bounds
import Gazetteer.Proofs.Syntax.Preorder

/-! # Nested spans

If every node of a tree holds its children one after another, the nodes of the tree come in the
order in which they begin. So does what is read off them, node by node.
-/

namespace Gazetteer

namespace Node

variable {root n m : Node} {ns : List Node}

/-- Each node ends before the next ones begin. -/
abbrev Apart (ns : List Node) : Prop := ns.Pairwise fun a b => a.stop ≤ b.start

/-- The children of a node lie inside its span, one after another. -/
structure Nested (n : Node) : Prop where
  start_le_stop : n.start ≤ n.stop
  inside : ∀ c ∈ n.children, n.start ≤ c.start ∧ c.stop ≤ n.stop
  apart : Apart n.children

theorem nested_iff : n.Nested ↔ n.start ≤ n.stop ∧
    (∀ c ∈ n.children, n.start ≤ c.start ∧ c.stop ≤ n.stop) ∧ Apart n.children :=
  ⟨fun h => ⟨h.start_le_stop, h.inside, h.apart⟩, fun ⟨hs, hi, ha⟩ => ⟨hs, hi, ha⟩⟩

instance (n : Node) : Decidable n.Nested := decidable_of_iff' _ nested_iff

def WellNested (root : Node) : Prop := ∀ n ∈ root.nodes, n.Nested

instance (root : Node) : Decidable root.WellNested :=
  inferInstanceAs (Decidable (∀ n ∈ root.nodes, n.Nested))

namespace WellNested

theorem nested (h : n.WellNested) : n.Nested := h n (mem_nodes_self n)

theorem of_mem (h : root.WellNested) (hn : n ∈ root.nodes) : n.WellNested :=
  fun m hm => h m (nodes_trans hm hn)

theorem of_mem_children (h : n.WellNested) (hm : m ∈ n.children) : m.WellNested :=
  h.of_mem (mem_nodes_of_mem_children (mem_nodes_self n) hm)

end WellNested

mutual

theorem inside_of_mem_nodes : ∀ {n : Node}, n.WellNested → m ∈ n.nodes →
    n.start ≤ m.start ∧ m.stop ≤ n.stop
  | ⟨kind, named, field, start, stop, children⟩, h, hm => by
    rw [nodes, List.mem_cons] at hm
    rcases hm with rfl | hm
    · exact ⟨Nat.le_refl _, Nat.le_refl _⟩
    · obtain ⟨c, hc, hcm⟩ := inside_of_mem_nodesAll (fun _ => h.of_mem_children) hm
      have hi := h.nested.inside c hc
      exact ⟨hi.1.trans hcm.1, hcm.2.trans hi.2⟩

theorem inside_of_mem_nodesAll : ∀ {ns : List Node}, (∀ n ∈ ns, n.WellNested) →
    m ∈ nodesAll ns → ∃ n ∈ ns, n.start ≤ m.start ∧ m.stop ≤ n.stop
  | [], _, hm => by simp [nodesAll] at hm
  | n :: ns, h, hm => by
    rw [nodesAll, List.mem_append] at hm
    rcases hm with hm | hm
    · exact ⟨n, List.mem_cons_self, inside_of_mem_nodes (h n List.mem_cons_self) hm⟩
    · obtain ⟨k, hk, hi⟩ :=
        inside_of_mem_nodesAll (fun k hk => h k (List.mem_cons_of_mem _ hk)) hm
      exact ⟨k, List.mem_cons_of_mem _ hk, hi⟩

end

mutual

theorem pairwise_start_nodes : ∀ {n : Node}, n.WellNested →
    n.nodes.Pairwise fun a b => a.start ≤ b.start
  | ⟨kind, named, field, start, stop, children⟩, h => by
    rw [nodes, List.pairwise_cons]
    refine ⟨fun m hm => ?_, pairwise_start_nodesAll (fun _ => h.of_mem_children) h.nested.apart⟩
    exact (inside_of_mem_nodes h (List.mem_cons_of_mem _ hm)).1

theorem pairwise_start_nodesAll : ∀ {ns : List Node}, (∀ n ∈ ns, n.WellNested) → Apart ns →
    (nodesAll ns).Pairwise fun a b => a.start ≤ b.start
  | [], _, _ => .nil
  | n :: ns, h, ha => by
    obtain ⟨hn, hs⟩ := List.forall_mem_cons.mp h
    obtain ⟨hlt, ha⟩ := List.pairwise_cons.mp ha
    rw [nodesAll, List.pairwise_append]
    refine ⟨pairwise_start_nodes hn, pairwise_start_nodesAll hs ha, fun a ha b hb => ?_⟩
    obtain ⟨k, hk, hi⟩ := inside_of_mem_nodesAll hs hb
    calc a.start
      _ ≤ a.stop := (hn.of_mem ha).nested.start_le_stop
      _ ≤ n.stop := (inside_of_mem_nodes hn ha).2
      _ ≤ k.start := hlt k hk
      _ ≤ b.start := hi.1

end

theorem WellNested.pairwise_start_descendants (h : root.WellNested) (kinds : List String) :
    ((Place.root root).descendants kinds []).Pairwise fun p q => p.node.start ≤ q.node.start := by
  have hs := pairwise_start_nodes h
  rw [nodes_eq, List.pairwise_cons] at hs
  have hb : ((Place.root root).below.map (·.node)).Pairwise fun a b => a.start ≤ b.start := by
    rw [Place.map_node_below]
    exact hs.2
  rw [Place.descendants_eq_filter]
  exact (List.pairwise_map.mp hb).filter _

theorem WellNested.apart_namedChildren (h : n.WellNested) : Apart n.namedChildren :=
  h.nested.apart.sublist List.filter_sublist

theorem WellNested.pairwise_start_namedChildren (h : n.WellNested) :
    n.namedChildren.Pairwise fun a b => a.start ≤ b.start :=
  h.apart_namedChildren.imp_of_mem fun hm _ hlt =>
    (h.of_mem_children (List.mem_of_mem_filter hm)).nested.start_le_stop.trans hlt

theorem WellNested.apart_body (h : n.WellNested) (role : String) :
    Apart ((n.child? role).elim [] namedChildren) := by
  cases hb : n.child? role with
  | none => exact .nil
  | some body => exact (h.of_mem_children (List.mem_of_find?_eq_some hb)).apart_namedChildren

theorem WellNested.pairwise_start_body (h : n.WellNested) (role : String) :
    ((n.child? role).elim [] namedChildren).Pairwise fun a b => a.start ≤ b.start := by
  cases hb : n.child? role with
  | none => exact .nil
  | some body =>
    exact (h.of_mem_children (List.mem_of_find?_eq_some hb)).pairwise_start_namedChildren

theorem WellNested.begins_inside (h : n.WellNested) (hm : m ∈ n.children) :
    n.start ≤ m.start ∧ m.start ≤ n.stop :=
  ⟨(h.nested.inside m hm).1,
    (h.of_mem_children hm).nested.start_le_stop.trans (h.nested.inside m hm).2⟩

theorem Apart.filterMap {f : Node → Option Node} (ha : Apart ns)
    (hf : ∀ n ∈ ns, ∀ m, f n = some m → n.start ≤ m.start ∧ m.stop ≤ n.stop) :
    Apart (ns.filterMap f) := by
  rw [Apart, List.pairwise_filterMap]
  refine ha.imp_of_mem fun {a b} hma hmb hlt m hm k hk => ?_
  exact (hf a hma m hm).2.trans (hlt.trans (hf b hmb k hk).1)

end Node

/-! ## Entries in order -/

section Entries

variable {α ε : Type} {l : List α} {begins : α → Nat} {position : ε → Position}
  (src : Source)

/-- What is read off places in order is in order, if it begins where they do. -/
theorem precedes_flatMap {f : α → List ε} (hs : l.Pairwise fun a b => begins a ≤ begins b)
    (hf : ∀ a ∈ l, ∀ e ∈ f a, ∃ stop, position e = src.position (begins a) stop) :
    (l.flatMap f).Pairwise fun e e' => (position e).Precedes (position e') := by
  have hp : ∀ a ∈ l, ∀ b ∈ l, begins a ≤ begins b → ∀ e ∈ f a, ∀ e' ∈ f b,
      (position e).Precedes (position e') := by
    intro a ha b hb hle e he e' he'
    obtain ⟨stop, h⟩ := hf a ha e he
    obtain ⟨stop', h'⟩ := hf b hb e' he'
    rw [h, h']
    exact Source.precedes_position hle
  refine List.pairwise_flatMap.mpr ⟨fun a ha => ?_, hs.imp_of_mem fun ha hb => hp _ ha _ hb⟩
  exact List.pairwise_of_forall_mem_list fun e he e' he' => hp a ha a ha (Nat.le_refl _) e he e' he'

theorem precedes_filterMap {f : α → Option ε} (hs : l.Pairwise fun a b => begins a ≤ begins b)
    (hf : ∀ a ∈ l, ∀ e, f a = some e → ∃ stop, position e = src.position (begins a) stop) :
    (l.filterMap f).Pairwise fun e e' => (position e).Precedes (position e') := by
  rw [List.filterMap_eq_flatMap_toList]
  exact precedes_flatMap src hs fun a ha e he => hf a ha e (Option.mem_toList.mp he)

theorem precedes_flatMap_of_apart {ns : List Node} {f : Node → List ε} (ha : Node.Apart ns)
    (hs : ∀ n ∈ ns, (f n).Pairwise fun e e' => (position e).Precedes (position e'))
    (hf : ∀ n ∈ ns, ∀ e ∈ f n, ∃ start stop,
      (n.start ≤ start ∧ start ≤ n.stop) ∧ position e = src.position start stop) :
    (ns.flatMap f).Pairwise fun e e' => (position e).Precedes (position e') := by
  refine List.pairwise_flatMap.mpr ⟨hs, ha.imp_of_mem fun {a b} hma hmb hlt e he e' he' => ?_⟩
  obtain ⟨start, stop, ⟨-, hle⟩, h⟩ := hf a hma e he
  obtain ⟨start', stop', ⟨hle', -⟩, h'⟩ := hf b hmb e' he'
  rw [h, h']
  exact Source.precedes_position (hle.trans (hlt.trans hle'))

end Entries

end Gazetteer

import Gazetteer.Proofs.Syntax.Preorder
import Mathlib.Data.List.Basic

/-! # Addresses

Two places of a tree can look alike, but they differ in the way down to them. An address says for
each step of the way which child is taken. In source order the addresses of the places below a place
increase, so that each of the places is there once, and a place comes before those below it.
-/

namespace Gazetteer.Place

variable {skip : List String} {p q r : Place} {address : List Nat} {i : Nat}

/-- A place is below another one, at an address. No place on the way is of a kind in `skip`. -/
inductive LiesBelow (skip : List String) : Place → List Nat → Place → Prop where

  | child {p q : Place} {i : Nat} : p.children[i]? = some q → LiesBelow skip p [i] q

  | under {p q r : Place} {i : Nat} {address : List Nat} : p.children[i]? = some q →
      q.node.kind ∉ skip → LiesBelow skip q address r → LiesBelow skip p (i :: address) r

theorem length_above_of_mem_children (h : q ∈ p.children) :
    q.above.length = p.above.length + 1 := by
  obtain ⟨n, -, rfl⟩ := List.mem_map.mp h
  exact List.length_cons

theorem LiesBelow.length_above_lt (h : LiesBelow skip p address q) :
    p.above.length < q.above.length := by
  induction h with
  | child hq =>
    rw [length_above_of_mem_children (List.mem_of_getElem? hq)]
    exact Nat.lt_succ_self _
  | under hq _ _ ih =>
    rw [length_above_of_mem_children (List.mem_of_getElem? hq)] at ih
    exact Nat.lt_of_succ_lt ih

theorem LiesBelow.ne (h : LiesBelow skip p address q) : q ≠ p := by
  rintro rfl
  exact Nat.lt_irrefl _ h.length_above_lt

/-! ## Smaller trees -/

theorem size_lt_of_mem_children (h : q ∈ p.children) : q.node.size < p.node.size := by
  obtain ⟨n, hn, rfl⟩ := List.mem_map.mp h
  rw [Node.size_eq p.node]
  exact Nat.lt_succ_of_le (Node.size_le_sizes hn)

@[elab_as_elim]
theorem children_induction {motive : Place → Prop}
    (step : ∀ p, (∀ q ∈ p.children, motive q) → motive p) (p : Place) : motive p :=
  step p fun q _hq => children_induction step q
termination_by p.node.size
decreasing_by exact size_lt_of_mem_children _hq

/-! ## Places with their addresses -/

def fromChild (i : Nat) (child : Place) (inner : List (List Nat × Place)) :
    List (List Nat × Place) :=
  ([i], child) :: inner.map fun x => (i :: x.1, x.2)

variable {inner : List (List Nat × Place)}

theorem map_fromChild (i : Nat) (q : Place) (inner : List (List Nat × Place)) :
    (fromChild i q inner).map (·.2) = q :: inner.map (·.2) := by
  rw [fromChild, List.map_cons, List.map_map]
  rfl

theorem mem_fromChild_iff : (address, r) ∈ fromChild i q inner ↔
    address = [i] ∧ r = q ∨ ∃ rest, (rest, r) ∈ inner ∧ address = i :: rest := by
  simp [fromChild, eq_comm]

theorem exists_cons_of_mem_fromChild {x : List Nat × Place} (h : x ∈ fromChild i q inner) :
    ∃ rest, x.1 = i :: rest := by
  obtain ⟨h, -⟩ | ⟨rest, -, h⟩ := mem_fromChild_iff.mp h
  · exact ⟨[], h⟩
  · exact ⟨rest, h⟩

theorem pairwise_fromChild (h : inner.Pairwise fun x y => x.1 < y.1)
    (hne : ∀ x ∈ inner, [] < x.1) : (fromChild i q inner).Pairwise fun x y => x.1 < y.1 := by
  refine .cons ?_ (List.pairwise_map.mpr (h.imp List.cons_lt_cons_self.mpr))
  intro y hy
  obtain ⟨x, hx, rfl⟩ := List.mem_map.mp hy
  exact List.cons_lt_cons_self.mpr (hne x hx)

/-- The places below a place with their addresses, child by child. What is below a place whose kind
is in `skip` is left out. -/
def located (skip : List String) (p : Place) : List (List Nat × Place) :=
  p.children.zipIdx.attach.flatMap fun ⟨(q, i), _h⟩ =>
    fromChild i q (if skip.contains q.node.kind then [] else located skip q)
termination_by p.node.size
decreasing_by exact size_lt_of_mem_children (List.fst_mem_of_mem_zipIdx _h)

theorem located_eq (skip : List String) (p : Place) :
    p.located skip = p.children.zipIdx.flatMap fun x =>
      fromChild x.2 x.1 (if skip.contains x.1.node.kind then [] else x.1.located skip) := by
  rw [located, List.flatMap_subtype fun _ _ => rfl, List.unattach_attach]
  rfl

theorem map_located (skip : List String) (p : Place) :
    (p.located skip).map (·.2) = p.children.flatMap (preorder skip) := by
  induction p using children_induction with
  | step p ih =>
    have hc : p.children = p.children.zipIdx.map (·.1) := (List.zipIdx_map_fst 0 _).symm
    rw [located_eq, List.map_flatMap, hc, List.flatMap_map, ← hc]
    refine List.flatMap_congr fun x hx => ?_
    rw [map_fromChild, preorder_eq, ← ih x.1 (List.fst_mem_of_mem_zipIdx hx)]
    split <;> rfl

theorem mem_located_iff_exists : (address, r) ∈ p.located skip ↔
    ∃ q i, p.children[i]? = some q ∧ (address = [i] ∧ r = q ∨
      q.node.kind ∉ skip ∧ ∃ rest, (rest, r) ∈ q.located skip ∧ address = i :: rest) := by
  rw [located_eq, List.mem_flatMap, Prod.exists]
  simp only [List.mk_mem_zipIdx_iff_getElem?, mem_fromChild_iff]
  refine exists_congr fun q => exists_congr fun i => and_congr_right fun _ => or_congr_right ?_
  by_cases hs : q.node.kind ∈ skip <;> simp [hs]

theorem mem_located_iff : (address, q) ∈ p.located skip ↔ LiesBelow skip p address q := by
  constructor
  · intro h
    induction p using children_induction generalizing address with
    | step p ih =>
      obtain ⟨c, i, hc, ⟨rfl, rfl⟩ | ⟨hk, rest, hr, rfl⟩⟩ := mem_located_iff_exists.mp h
      · exact .child hc
      · exact .under hc hk (ih c (List.mem_of_getElem? hc) hr)
  · intro h
    induction h with
    | child hq => exact mem_located_iff_exists.mpr ⟨_, _, hq, .inl ⟨rfl, rfl⟩⟩
    | under hq hk _ ih => exact mem_located_iff_exists.mpr ⟨_, _, hq, .inr ⟨hk, _, ih, rfl⟩⟩

theorem LiesBelow.nil_lt (h : LiesBelow skip p address q) : [] < address := by
  cases h <;> exact List.nil_lt_cons _ _

/-- Addresses increase: a place comes before those below it, and these before later children. -/
theorem pairwise_located (skip : List String) (p : Place) :
    (p.located skip).Pairwise fun x y => x.1 < y.1 := by
  induction p using children_induction with
  | step p ih =>
    have hindex : p.children.zipIdx.Pairwise fun x y => x.2 < y.2 := by
      rw [← List.pairwise_map, List.zipIdx_map_snd]
      exact List.pairwise_lt_range'
    rw [located_eq, List.pairwise_flatMap]
    constructor
    · intro x hx
      split
      · exact pairwise_fromChild .nil (by simp)
      · exact pairwise_fromChild (ih x.1 (List.fst_mem_of_mem_zipIdx hx))
          fun y hy => (mem_located_iff.mp hy).nil_lt
    · refine hindex.imp fun {x y} hlt a ha b hb => ?_
      obtain ⟨rest, hr⟩ := exists_cons_of_mem_fromChild ha
      obtain ⟨later, hl⟩ := exists_cons_of_mem_fromChild hb
      rw [hr, hl]
      exact List.cons_lt_cons_iff.mpr (.inl hlt)

/-- The first node, the one inside and the last look alike. Their addresses tell them apart. -/
example :
    let leaf : Node := ⟨"pass_statement", true, none, 3, 3, []⟩
    let top : Node := ⟨"module", true, none, 0, 3,
      [leaf, ⟨"block", true, none, 0, 3, [⟨"pass", false, none, 0, 3, []⟩, leaf]⟩, leaf]⟩
    ((root top).located []).map (·.1) = [[0], [1], [1, 0], [1, 1], [2]] := by
  cbv

end Gazetteer.Place

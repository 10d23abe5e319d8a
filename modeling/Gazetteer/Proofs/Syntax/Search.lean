import Gazetteer.Proofs.Syntax.Addresses

/-! # The search with a stack

A search below a place takes places off a stack, one in each round, and puts their children back.
The stack stands for the places that are still to come, in source order, and a round takes the first
of them. So the search ends, and it finds what a recursion over the children gathers.
-/

namespace Gazetteer.Place

/-! ## The recursion -/

/-- What is looked for below a place, child by child: the child itself, and then what is below it,
unless its kind is in `skip`. -/
def gather (kinds skip : List String) (p : Place) : List Place :=
  p.children.attach.flatMap fun ⟨q, _h⟩ =>
    (if q.isNamedOf kinds then [q] else []) ++
      if skip.contains q.node.kind then [] else gather kinds skip q
termination_by p.node.size
decreasing_by exact size_lt_of_mem_children _h

theorem gather_eq (kinds skip : List String) (p : Place) :
    p.gather kinds skip = p.children.flatMap fun q =>
      (if q.isNamedOf kinds then [q] else []) ++
        if skip.contains q.node.kind then [] else q.gather kinds skip := by
  rw [gather, List.flatMap_subtype fun _ _ => rfl, List.unattach_attach]
  rfl

theorem gather_eq_filter (kinds skip : List String) (p : Place) :
    p.gather kinds skip = (p.children.flatMap (preorder skip)).filter (isNamedOf kinds) := by
  induction p using children_induction with
  | step p ih =>
    rw [gather_eq, List.filter_flatMap]
    refine List.flatMap_congr fun q hq => ?_
    rw [preorder_eq, List.filter_cons, ih q hq]
    split <;> split <;> rfl

theorem descendants_eq_gather (p : Place) (kinds skip : List String) :
    p.descendants kinds skip = p.gather kinds skip := by
  rw [descendants, visit_eq_filter, gather_eq_filter]

/-! ## The rounds -/

structure Search where
  /-- What is to be looked at, the next place last. -/
  stack : List Place
  found : List Place := []

namespace Search

def start (p : Place) : Search := { stack := p.children.reverse }

/-- Take the last place off the stack, note it if it is looked for, and put its children on the
stack, the first of them last, unless its kind is in `skip`. -/
def step (kinds skip : List String) (s : Search) : Option Search :=
  s.stack.getLast?.map fun p =>
    { stack := s.stack.dropLast ++ if skip.contains p.node.kind then [] else p.children.reverse
      found := s.found ++ if p.isNamedOf kinds then [p] else [] }

/-- What a search has come to after some rounds; none if it was over before. -/
def run (kinds skip : List String) : Nat → Search → Option Search
  | 0, s => some s
  | n + 1, s => (s.step kinds skip).bind (run kinds skip n)

/-- The places that are still to come, in the order in which they are taken. -/
def pending (skip : List String) (s : Search) : List Place :=
  s.stack.reverse.flatMap (preorder skip)

theorem pending_start (skip : List String) (p : Place) :
    (start p).pending skip = p.children.flatMap (preorder skip) := by
  rw [pending, start, List.reverse_reverse]

theorem pending_concat (skip : List String) (stack found : List Place) (p : Place) :
    pending skip ⟨stack ++ [p], found⟩ = p :: pending skip
      ⟨stack ++ if skip.contains p.node.kind then [] else p.children.reverse, found⟩ := by
  have hp : pending skip ⟨stack ++ [p], found⟩ =
      p.preorder skip ++ stack.reverse.flatMap (preorder skip) := by
    rw [pending, List.reverse_append, List.reverse_singleton, List.singleton_append,
      List.flatMap_cons]
  rw [hp, preorder_eq, pending, List.cons_append]
  split
  · rw [List.append_nil, List.nil_append]
  · rw [List.reverse_append, List.reverse_reverse, List.flatMap_append]

/-- A search with an empty stack is over. Before, a round takes the first of the places that are
still to come, and the others are left. -/
theorem step_cases (kinds skip : List String) (s : Search) :
    (s.stack = [] ∧ s.step kinds skip = none) ∨
      ∃ p t, s.step kinds skip = some t ∧ s.pending skip = p :: t.pending skip ∧
        t.found = s.found ++ [p].filter (isNamedOf kinds) := by
  obtain ⟨stack, found⟩ := s
  rcases List.eq_nil_or_concat stack with rfl | ⟨rest, p, rfl⟩
  · exact .inl ⟨rfl, rfl⟩
  · have hs : step kinds skip ⟨rest ++ [p], found⟩ =
        some ⟨rest ++ if skip.contains p.node.kind then [] else p.children.reverse,
          found ++ if p.isNamedOf kinds then [p] else []⟩ := by
      rw [step, List.getLast?_concat, List.dropLast_concat, Option.map_some]
    rw [List.concat_eq_append]
    refine .inr ⟨p, _, hs, pending_concat skip rest found p, ?_⟩
    rw [List.filter_cons, List.filter_nil]

/-- A search has as many rounds as there are places to come, and finds those of them that are looked
for. -/
theorem run_pending (kinds skip : List String) (s : Search) :
    s.run kinds skip (s.pending skip).length =
      some ⟨[], s.found ++ (s.pending skip).filter (isNamedOf kinds)⟩ := by
  -- By induction on the places to come, for any search that they are to come in.
  induction hp : s.pending skip generalizing s with
  | nil =>
    rcases step_cases kinds skip s with ⟨hs, -⟩ | ⟨p, t, -, ht, -⟩
    · rw [List.length_nil, run, List.filter_nil, List.append_nil, ← hs]
    · cases hp.symm.trans ht
  | cons p ps ih =>
    rcases step_cases kinds skip s with ⟨hs, -⟩ | ⟨q, t, hs, ht, hf⟩
    · simp [pending, hs] at hp
    · obtain ⟨rfl, rfl⟩ := List.cons.inj (hp.symm.trans ht)
      rw [List.length_cons, run, hs, Option.bind_some, ih t rfl, hf, List.append_assoc,
        ← List.filter_append, List.singleton_append]

end Search

theorem preorder_sublist (skip : List String) (p : Place) :
    (p.preorder skip).Sublist (p.preorder []) := by
  induction p using children_induction with
  | step p ih =>
    rw [preorder_eq, preorder_eq_cons_below, below_eq_flatMap]
    refine List.Sublist.cons_cons _ ?_
    split
    · exact List.nil_sublist _
    · exact List.Sublist.flatMap_right _ ih

/-- A search below a place takes no more rounds than there are places below it. It finds exactly the
named places of the kinds that lie below, each once and in source order, since the addresses
increase. A recursion over the children gathers the same. Neither the place itself nor an unnamed
one is found. -/
theorem search_finds (p : Place) (kinds skip : List String) :
    let found := p.descendants kinds skip
    (∃ rounds ≤ p.below.length, Search.run kinds skip rounds (.start p) = some ⟨[], found⟩ ∧
      Search.step kinds skip ⟨[], found⟩ = none) ∧
    (∃ listed : List (List Nat × Place), listed.map (·.2) = found ∧
      (listed.Pairwise fun x y => x.1 < y.1) ∧ ∀ address q, (address, q) ∈ listed ↔
        LiesBelow skip p address q ∧ q.node.named = true ∧ q.node.kind ∈ kinds) ∧
    found = p.gather kinds skip ∧
    ∀ q ∈ found, q ≠ p ∧ q.node.named = true := by
  intro found
  have hgather : found = p.gather kinds skip := descendants_eq_gather p kinds skip
  have hfilter : found = (p.children.flatMap (preorder skip)).filter (isNamedOf kinds) :=
    hgather.trans (gather_eq_filter kinds skip p)
  have hlocated : ((p.located skip).filter (·.2.isNamedOf kinds)).map (·.2) = found := by
    rw [hfilter, ← map_located, List.filter_map]
    rfl
  have hmem (address : List Nat) (q : Place) :
      (address, q) ∈ (p.located skip).filter (·.2.isNamedOf kinds) ↔
        LiesBelow skip p address q ∧ q.node.named = true ∧ q.node.kind ∈ kinds := by
    rw [List.mem_filter, mem_located_iff, isNamedOf, Bool.and_eq_true, List.contains_iff_mem]
  have hrun : Search.run kinds skip (p.children.flatMap (preorder skip)).length (.start p) =
      some ⟨[], found⟩ := by
    have h := Search.run_pending kinds skip (.start p)
    rwa [Search.pending_start, ← hfilter] at h
  have hrounds : (p.children.flatMap (preorder skip)).length ≤ p.below.length := by
    rw [below_eq_flatMap]
    exact (List.Sublist.flatMap_right _ fun q _ => preorder_sublist skip q).length_le
  refine ⟨⟨_, hrounds, hrun, rfl⟩, ⟨_, hlocated, (pairwise_located skip p).filter _, hmem⟩,
    hgather, ?_⟩
  intro q hq
  rw [← hlocated] at hq
  obtain ⟨⟨address, r⟩, hr, rfl⟩ := List.mem_map.mp hq
  obtain ⟨hbelow, hnamed, -⟩ := (hmem address r).mp hr
  exact ⟨hbelow.ne, hnamed⟩

end Gazetteer.Place

import Gazetteer.Proofs.Language.Owners

/-! # Functions that are noted

The functions of a table are a selection of those that are met, in source order. The selection keeps
whatever is long, and whatever has a name unless it is inline or handed to a call.
-/

namespace Gazetteer.Language

variable {l : Language} {src : Source} {root : Node}

theorem discovered_collect (l : Language) (path : String) (src : Source) (root : Node) :
    (l.collect path src root).discovered = (l.candidates src root).length := by
  refine Nat.max_eq_left ?_
  rw [functions, List.length_map]
  exact List.length_filter_le _ _

theorem code_of_mem_candidates {c : Candidate} (h : c ∈ l.candidates src root) :
    c.entry.code = c.place.node.text src := by
  rw [candidates_eq] at h
  obtain ⟨p, -, rfl⟩ := List.mem_map.mp h
  cases l <;> rfl

theorem candidates_sublist (l : Language) (src : Source) (root : Node) :
    ((l.candidates src root).map (·.place)).Sublist (Place.root root).below := by
  have hp : (fun p => (l.candidate src p).place) = id := funext (candidate_place l src)
  rw [candidates_eq, List.map_map, Function.comp_def, hp, List.map_id]
  exact List.filter_sublist

/-- The functions of a table are those of the candidates that are significant, in source order, and
every candidate counts as discovered. A candidate of more than a hundred characters is kept, and so
is one with a name, however short, that is neither inline nor handed to a call. An anonymous one of
a hundred characters or fewer is not. -/
theorem functions_selected (l : Language) (path : String) (src : Source) (root : Node) :
    let t := l.tabulate path src root
    let candidates := l.candidates src root
    let keeps := isSignificant l.inlineKinds src
    let listed (c : Candidate) : FunctionEntry :=
      { c.entry with position := src.inCharacters c.entry.position }
    (candidates.map (·.place)).Sublist (Place.root root).below ∧
      t.functions = (candidates.filter keeps).map listed ∧
      t.functions.Sublist (candidates.map listed) ∧ t.discovered = candidates.length ∧
      (∀ c ∈ candidates, 100 < (c.place.node.text src).length → keeps c = true) ∧
      (∀ c ∈ candidates, c.entry.name ≠ anonymous → c.place.node.kind ∉ l.inlineKinds →
        (∀ n, ¬Significance.HandedTo c.place n) → keeps c = true) ∧
      ∀ e ∈ t.functions, e.name = anonymous → 100 < e.code.length := by
  intro t candidates keeps listed
  have hf : t.functions = (candidates.filter keeps).map listed :=
    List.map_map
  refine ⟨candidates_sublist l src root, hf, ?_, discovered_collect l path src root, ?_, ?_, ?_⟩
  · rw [hf]
    exact List.filter_sublist.map listed
  · intro c hc hlong
    rw [← code_of_mem_candidates hc] at hlong
    exact isSignificant_of_long hlong
  · intro c _ hn hk hcall
    exact isSignificant_of_named hk hcall hn
  · intro e he hn
    rw [hf] at he
    obtain ⟨c, hc, rfl⟩ := List.mem_map.mp he
    exact (isSignificant_iff.mp (List.mem_filter.mp hc).2).2.2 hn

end Gazetteer.Language

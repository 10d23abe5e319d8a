import Gazetteer.Naming

/-! # One clue at a place

Each clue looks for a parent of kinds of its own. So no two clues yield a name at one place, and
what a function is named depends neither on the order of the clues nor on those that yield none.
-/

namespace Gazetteer

variable {src : Source} {p q : Place} {c d : Clue} {kinds : List String}

namespace Clue

def parentKinds : Clue → List String
  | boundVariable => ["variable_declarator"]
  | objectKey => ["pair"]
  | assignmentTarget => ["assignment_expression", "assignment"]
  | promiseCallback => ["arguments"]

theorem disjoint_parentKinds (h : c ≠ d) : ∀ kind ∈ c.parentKinds, kind ∉ d.parentKinds := by
  revert h
  cases c <;> cases d <;> decide

theorem parentOf_eq_some_iff :
    parentOf kinds p = some q ↔ p.parent? = some q ∧ q.node.kind ∈ kinds := by
  rw [parentOf, Option.filter_eq_some_iff, List.contains_iff_mem]

theorem exists_nameAt_eq_bind (c : Clue) (src : Source) :
    ∃ f : Place → Option String, ∀ p, c.nameAt src p = (parentOf c.parentKinds p).bind f := by
  cases c <;> exact ⟨_, fun _ => rfl⟩

theorem exists_parent_of_nameAt (h : c.nameAt src p ≠ none) :
    ∃ q, p.parent? = some q ∧ q.node.kind ∈ c.parentKinds := by
  obtain ⟨f, hf⟩ := exists_nameAt_eq_bind c src
  cases hq : parentOf c.parentKinds p with
  | none => exact absurd (by rw [hf, hq, Option.bind_none]) h
  | some q => exact ⟨q, parentOf_eq_some_iff.mp hq⟩

theorem eq_of_nameAt (hc : c.nameAt src p ≠ none) (hd : d.nameAt src p ≠ none) : c = d := by
  obtain ⟨q, hq, hqc⟩ := exists_parent_of_nameAt hc
  obtain ⟨r, hr, hrd⟩ := exists_parent_of_nameAt hd
  obtain rfl : q = r := Option.some.inj (hq.symm.trans hr)
  exact Decidable.byContradiction fun hne => disjoint_parentKinds hne _ hqc hrd

theorem mem_all (c : Clue) : c ∈ all := by
  cases c <;> decide

end Clue

/-! ## Clues in any order -/

theorem inferNameBy_cons (c : Clue) (clues : List Clue) (src : Source) (p : Place) :
    inferNameBy (c :: clues) src p =
      ((c.nameAt src p).filter (· != "")).getD (inferNameBy clues src p) := by
  rw [inferNameBy, List.findSome?_cons]
  cases (c.nameAt src p).filter (· != "") <;> rfl

theorem inferNameBy_of_none {clues : List Clue} (h : ∀ c ∈ clues, c.nameAt src p = none) :
    inferNameBy clues src p = anonymous := by
  induction clues with
  | nil => rfl
  | cons c clues ih =>
    rw [List.forall_mem_cons] at h
    rw [inferNameBy_cons, h.1, ih h.2]
    rfl

/-- A clue that yields a name decides by itself, unless it is left out. -/
theorem inferNameBy_of_nameAt (hc : c.nameAt src p ≠ none) (clues : List Clue) :
    inferNameBy clues src p = if c ∈ clues then inferNameBy [c] src p else anonymous := by
  have hself : inferNameBy [c] src p = ((c.nameAt src p).filter (· != "")).getD anonymous :=
    inferNameBy_cons c [] src p
  induction clues with
  | nil => rfl
  | cons d clues ih =>
    rw [inferNameBy_cons, ih, hself]
    by_cases hd : d = c
    · subst hd
      rw [if_pos List.mem_cons_self]
      cases (d.nameAt src p).filter (· != "") with
      | none => exact ite_self _
      | some name => rfl
    · have hnone : d.nameAt src p = none :=
        Decidable.byContradiction fun hn => hd (Clue.eq_of_nameAt hn hc)
      simp only [hnone, Option.filter_none, Option.getD_none, List.mem_cons, Ne.symm hd, false_or]

theorem inferName_eq_inferNameBy (hc : c.nameAt src p ≠ none) :
    inferName src p = inferNameBy [c] src p := by
  rw [inferName, inferNameBy_of_nameAt hc, if_pos c.mem_all]

theorem inferName_of_nameAt {name : String} (h : c.nameAt src p = some name) (hne : name ≠ "") :
    inferName src p = name := by
  have hc : c.nameAt src p ≠ none := h ▸ Option.some_ne_none name
  rw [inferName_eq_inferNameBy hc, inferNameBy_cons, h, Option.filter_some,
    if_pos (bne_iff_ne.mpr hne), Option.getD_some]

theorem inferNameBy_eq_ite (clues : List Clue) (src : Source) (p : Place) :
    inferNameBy clues src p =
      if clues.any fun c => (c.nameAt src p).isSome then inferName src p else anonymous := by
  by_cases h : (clues.any fun c => (c.nameAt src p).isSome) = true
  · obtain ⟨c, hm, hc⟩ := List.any_eq_true.mp h
    have hc := Option.isSome_iff_ne_none.mp hc
    rw [if_pos h, inferNameBy_of_nameAt hc, if_pos hm, inferName_eq_inferNameBy hc]
  · rw [if_neg h]
    refine inferNameBy_of_none fun c hc => ?_
    rw [List.any_eq_true, not_exists] at h
    simpa using fun hn => h c ⟨hc, hn⟩

/-- No two clues yield a name at one place. So all of them, in any order, infer one name. Some of
them infer the same name if the clue that yields it is among them, and otherwise none. -/
theorem one_clue_decides (src : Source) (p : Place) :
    (∀ c d : Clue, c.nameAt src p ≠ none → d.nameAt src p ≠ none → c = d) ∧
    (∀ clues : List Clue, clues.Perm Clue.all → inferNameBy clues src p = inferName src p) ∧
    ∀ clues : List Clue, inferNameBy clues src p =
      if clues.any fun c => (c.nameAt src p).isSome then inferName src p else anonymous := by
  refine ⟨fun c d => Clue.eq_of_nameAt, fun clues hp => ?_, fun clues => ?_⟩
  · rw [inferNameBy_eq_ite, hp.any_eq, ← inferNameBy_eq_ite, inferName]
  · exact inferNameBy_eq_ite clues src p

/-- The function in `box.open = () => 1`. -/
def assignedFunction : Place where
  node := ⟨"arrow_function", true, some "right", 11, 18, []⟩
  above :=
    [⟨"assignment_expression", true, none, 0, 18,
      [⟨"member_expression", true, some "left", 0, 8,
          [⟨"identifier", true, some "object", 0, 3, []⟩, ⟨".", false, none, 3, 4, []⟩,
            ⟨"property_identifier", true, some "property", 4, 8, []⟩]⟩,
        ⟨"=", false, none, 9, 10, []⟩,
        ⟨"arrow_function", true, some "right", 11, 18, []⟩]⟩]

theorem one_clue_decides_assignedFunction :
    let src := Source.ofString "box.open = () => 1"
    let p := assignedFunction
    Clue.assignmentTarget.nameAt src p = some "open" ∧ Clue.objectKey.nameAt src p = none ∧
      inferNameBy Clue.all.reverse src p = "open" ∧
      inferNameBy [.promiseCallback, .objectKey] src p = anonymous := by
  intro src p
  obtain ⟨one, perm, among⟩ := one_clue_decides src p
  have hname : Clue.assignmentTarget.nameAt src p = some "open" := by decide +kernel
  have hnone : ∀ c : Clue, c ≠ .assignmentTarget → c.nameAt src p = none := fun c hc =>
    Decidable.byContradiction fun hn => hc (one c _ hn (by simp [hname]))
  refine ⟨hname, hnone _ (by decide), ?_, ?_⟩
  · rw [perm _ (List.reverse_perm _), inferName_of_nameAt hname (by decide)]
  · rw [among]
    simp [hnone]

end Gazetteer

import Gazetteer.Eligibility
import Gazetteer.Language
import Mathlib.Data.List.TakeWhile

/-! # Suffixes of paths

A suffix has at most one dot, and that in front. Leaving out all leading dots of it or only one
therefore comes to the same, so there is one way to tell the kind of a file.
-/

namespace Gazetteer.Path

theorem suffix_cases (p : String) :
    (suffix p).toList = [] ∨ ∃ tail, (suffix p).toList = '.' :: tail ∧ '.' ∉ tail := by
  unfold suffix
  dsimp only
  split
  · refine .inr ⟨_, String.toList_ofList, fun h => ?_⟩
    simpa using List.mem_takeWhile_imp (List.mem_reverse.mp h)
  · exact .inl rfl

theorem kindOfSuffix_suffix (p : String) : Language.kindOfSuffix (suffix p) = kind p := by
  unfold Language.kindOfSuffix kind
  rcases suffix_cases p with h | ⟨tail, h, hdot⟩
  · rw [h]; rfl
  · have htail : tail.dropWhile (· == '.') = tail := by
      cases tail with
      | nil => rfl
      | cons c r => exact List.dropWhile_cons_of_neg fun hc => hdot (by simp_all)
    rw [h, List.dropWhile_cons_of_pos (by simp), htail, List.drop_succ_cons, List.drop_zero]

end Gazetteer.Path

import Gazetteer.Text.Blank
import Mathlib.Data.List.DropRight

/-! # Trimming

A text is its trimmed form between two runs of blanks.
-/

namespace Gazetteer.Text

theorem dropEndWhile_eq_rdropWhile {α : Type} (p : α → Bool) (l : List α) :
    dropEndWhile p l = l.rdropWhile p := rfl

theorem trimChars_split (cs : List Char) :
    ∃ front back, cs = front ++ (trimChars cs ++ back) ∧
      (∀ c ∈ front, isBlank c = true) ∧ ∀ c ∈ back, isBlank c = true := by
  refine ⟨cs.takeWhile isBlank, (cs.dropWhile isBlank).rtakeWhile isBlank, ?_,
    fun c h => List.mem_takeWhile_imp h, fun c h => List.mem_rtakeWhile_imp h⟩
  rw [trimChars, dropEndWhile_eq_rdropWhile, List.rdropWhile_append_rtakeWhile,
    List.takeWhile_append_dropWhile]

theorem trim_of_isBlankText {s : String} (h : isBlankText s = true) : trim s = "" := by
  have hd : s.toList.dropWhile isBlank = [] := by
    simpa [isBlankText, List.dropWhile_eq_nil_iff] using h
  simp [trim, trimChars, hd, dropEndWhile]

end Gazetteer.Text

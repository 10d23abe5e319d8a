import Gazetteer.Proofs.Syntax.Cut

/-! # Order and bounds of positions

Offsets in order have positions in order, whether columns count bytes or characters. The position of
a span lies within the text, wherever the span begins and ends.
-/

namespace Gazetteer

open Text Text.Utf8

namespace Position

/-- One span begins no later than the other. -/
def Precedes (p q : Position) : Prop :=
  p.startLine < q.startLine ∨ p.startLine = q.startLine ∧ p.startColumn ≤ q.startColumn

/-- The span begins and ends on lines of the text, at columns of those lines. -/
structure Within (text : String) (p : Position) : Prop where
  startLine_pos : 1 ≤ p.startLine
  startLine_le : p.startLine ≤ p.endLine
  endLine_le : p.endLine ≤ (splitAt '\n' text.toList).length
  startColumn_le :
    p.startColumn ≤ ((splitAt '\n' text.toList).getD (p.startLine - 1) []).length
  endColumn_le : p.endColumn ≤ ((splitAt '\n' text.toList).getD (p.endLine - 1) []).length

end Position

namespace Source

variable {src : Source} {start stop start' stop' : Nat}

theorem point_mono (src : Source) (h : start ≤ stop) :
    (src.point start).row < (src.point stop).row ∨
      (src.point start).row = (src.point stop).row ∧
        (src.point start).column ≤ (src.point stop).column := by
  obtain ⟨mid, hm⟩ := List.take_prefix_take_left h (l := src.bytes)
  simp only [point, ← hm, List.count_append, List.reverse_append]
  by_cases hl : lineFeed ∈ mid
  · have hc := List.count_pos_iff.mpr hl
    exact .inl (by omega)
  · have hw : ∀ b ∈ mid.reverse, (b != lineFeed) = true := fun b hb =>
      bne_iff_ne.mpr fun he => hl (he ▸ List.mem_reverse.mp hb)
    rw [List.count_eq_zero.mpr hl, List.takeWhile_append_of_pos hw, List.length_append]
    exact .inr ⟨rfl, Nat.le_add_left ..⟩

theorem row_lt_length_lines (src : Source) (offset : Nat) :
    (src.point offset).row < src.lines.length := by
  rw [lines, length_splitAt, point]
  exact Nat.lt_succ_of_le ((List.take_sublist _ _).count_le _)

theorem precedes_position (h : start ≤ start') :
    (src.position start stop).Precedes (src.position start' stop') := by
  rcases point_mono src h with hr | ⟨hr, hc⟩
  · exact .inl (Nat.succ_lt_succ hr)
  · exact .inr ⟨congrArg (· + 1) hr, hc⟩

/-! ## Columns in characters -/

theorem characterColumn_mono (src : Source) (row : Nat) {column column' : Nat}
    (h : column ≤ column') : src.characterColumn row column ≤ src.characterColumn row column' := by
  obtain ⟨mid, hm⟩ := List.take_prefix_take_left h (l := src.lines.getD row [])
  rw [characterColumn, characterColumn, ← hm]
  exact length_decodeLossy_append _ _

theorem precedes_inCharacters {p q : Position} (h : p.Precedes q) :
    (src.inCharacters p).Precedes (src.inCharacters q) := by
  rcases h with hl | ⟨hl, hc⟩
  · exact .inl hl
  · refine .inr ⟨hl, ?_⟩
    simp only [inCharacters, hl]
    exact characterColumn_mono src _ hc

theorem characterColumn_le (text : String) (row column : Nat) :
    (ofString text).characterColumn row column ≤
      ((splitAt '\n' text.toList).getD row []).length := by
  have hl : (ofString text).lines.getD row [] =
      encode ((splitAt '\n' text.toList).getD row []) := by
    rw [lines, ofString, ofChars, splitAt_encode, List.getD_eq_getElem?_getD,
      List.getD_eq_getElem?_getD, List.getElem?_map]
    cases (splitAt '\n' text.toList)[row]? <;> rfl
  rw [characterColumn, hl]
  generalize (splitAt '\n' text.toList).getD row [] = line
  calc (decodeLossy ((encode line).take column)).length
    _ ≤ (decodeLossy ((encode line).take column ++ (encode line).drop column)).length :=
      length_decodeLossy_append _ _
    _ = line.length := by rw [List.take_append_drop, decodeLossy_encode]

theorem within_inCharacters_position (text : String) (h : start ≤ stop) :
    let src := ofString text
    (src.inCharacters (src.position start stop)).Within text where
  startLine_pos := Nat.succ_pos _
  startLine_le := by
    rcases point_mono (ofString text) h with hr | ⟨hr, -⟩
    · exact Nat.succ_le_succ hr.le
    · exact Nat.succ_le_succ hr.le
  endLine_le := by
    have hr := row_lt_length_lines (ofString text) stop
    have hl : (ofString text).lines.length = (splitAt '\n' text.toList).length := by
      rw [lines, ofString, ofChars, splitAt_encode, List.length_map]
    rw [← hl]
    exact hr
  startColumn_le := characterColumn_le text _ _
  endColumn_le := characterColumn_le text _ _

end Source

end Gazetteer

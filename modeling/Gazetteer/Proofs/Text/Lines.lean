import Gazetteer.Text.Lines
import Mathlib.Data.List.TakeWhile

/-! # Splitting at a separator

Texts are split as lists are, so that the pieces joined by the separator are the text again.
-/

namespace Gazetteer.Text

variable {α : Type} [DecidableEq α] {sep : α} {l r piece first last : List α}
  {front back : List (List α)}

theorem splitAt_eq_splitOn (sep : α) (l : List α) : splitAt sep l = l.splitOn sep := by
  induction l with
  | nil => rfl
  | cons a l ih =>
    rw [splitAt, ih, List.splitOn_cons_eq_if_modifyHead]
    by_cases h : a = sep
    · simp [h]
    · obtain ⟨p, ps, hp⟩ := List.exists_cons_of_ne_nil (List.splitOn_ne_nil sep l)
      simp [h, hp]

theorem not_mem_of_mem_splitAt {sep : α} {l piece : List α} (h : piece ∈ splitAt sep l) :
    sep ∉ piece := by
  induction l generalizing piece with
  | nil => simp_all [splitAt]
  | cons a l ih =>
    rw [splitAt] at h
    split at h
    · rcases List.mem_cons.mp h with rfl | h
      · exact List.not_mem_nil
      · exact ih h
    · next ha =>
      split at h
      · next he => simpa [List.mem_singleton.mp h] using Ne.symm ha
      · next q qs he =>
        rw [he] at ih
        rcases List.mem_cons.mp h with rfl | h
        · rw [List.mem_cons, not_or]
          exact ⟨Ne.symm ha, ih List.mem_cons_self⟩
        · exact ih (List.mem_cons_of_mem _ h)

theorem splitAt_ne_nil (sep : α) (l : List α) : splitAt sep l ≠ [] := by
  rw [splitAt_eq_splitOn]
  exact List.splitOn_ne_nil sep l

theorem intercalate_splitAt (sep : α) (l : List α) : [sep].intercalate (splitAt sep l) = l := by
  rw [splitAt_eq_splitOn, List.intercalate_splitOn]

theorem splitAt_cons_self (sep : α) (l : List α) :
    splitAt sep (sep :: l) = [] :: splitAt sep l := by
  rw [splitAt, if_pos rfl]

theorem splitAt_cons_of_ne {a : α} (h : a ≠ sep) (hl : splitAt sep l = first :: back) :
    splitAt sep (a :: l) = (a :: first) :: back := by
  rw [splitAt, if_neg h, hl]

theorem splitAt_of_not_mem (h : sep ∉ l) : splitAt sep l = [l] := by
  rw [splitAt_eq_splitOn]
  exact List.splitOn_eq_singleton h

theorem length_splitAt (sep : α) (l : List α) : (splitAt sep l).length = l.count sep + 1 := by
  induction l with
  | nil => rfl
  | cons a l ih =>
    obtain ⟨first, back, hl⟩ := List.exists_cons_of_ne_nil (splitAt_ne_nil sep l)
    by_cases ha : a = sep
    · rw [ha, splitAt_cons_self, List.length_cons, ih, List.count_cons_self]
    · rw [splitAt_cons_of_ne ha hl, List.count_cons_of_ne ha, ← ih, hl, List.length_cons,
        List.length_cons]

theorem splitAt_append (hl : splitAt sep l = front ++ [last]) (hr : splitAt sep r = first :: back) :
    splitAt sep (l ++ r) = front ++ (last ++ first) :: back := by
  induction l generalizing front last with
  | nil =>
    cases front with
    | nil =>
      obtain rfl : [] = last := by simpa [splitAt] using hl
      exact hr
    | cons piece front => simp [splitAt] at hl
  | cons a l ih =>
    by_cases ha : a = sep
    · rw [ha, splitAt_cons_self] at hl
      cases front with
      | nil => exact absurd (List.cons.inj hl).2 (splitAt_ne_nil sep l)
      | cons piece front =>
        obtain ⟨rfl, ht⟩ := List.cons.inj hl
        rw [ha, List.cons_append, splitAt_cons_self, ih ht, List.cons_append]
    · obtain ⟨piece, pieces, hp⟩ := List.exists_cons_of_ne_nil (splitAt_ne_nil sep l)
      rw [splitAt_cons_of_ne ha hp] at hl
      cases front with
      | nil =>
        obtain ⟨rfl, rfl⟩ := List.cons.inj hl
        have hf : splitAt sep l = [] ++ [piece] := hp
        exact splitAt_cons_of_ne ha (ih hf)
      | cons start front =>
        obtain ⟨rfl, rfl⟩ := List.cons.inj hl
        have hf : splitAt sep l = (piece :: front) ++ [last] := hp
        exact splitAt_cons_of_ne ha (ih hf)

theorem splitAt_separated (l r : List α) :
    splitAt sep (l ++ sep :: r) = splitAt sep l ++ splitAt sep r := by
  obtain ⟨front, last, hl⟩ :=
    (List.eq_nil_or_concat (splitAt sep l)).resolve_left (splitAt_ne_nil sep l)
  rw [List.concat_eq_append] at hl
  rw [splitAt_append hl (splitAt_cons_self sep r), hl]
  simp

theorem splitAt_piece (h : sep ∉ piece) (r : List α) :
    splitAt sep (piece ++ sep :: r) = piece :: splitAt sep r := by
  have hl : splitAt sep piece = [] ++ [piece] := splitAt_of_not_mem h
  simpa using splitAt_append hl (splitAt_cons_self sep r)

theorem takeWhile_reverse_intercalate (front : List (List α)) (h : sep ∉ last) :
    ([sep].intercalate (front ++ [last])).reverse.takeWhile (· != sep) = last.reverse := by
  induction front with
  | nil =>
    rw [List.nil_append, List.intercalate_singleton, List.takeWhile_eq_self_iff]
    intro a ha
    have hne : a ≠ sep := fun he => h (he ▸ List.mem_reverse.mp ha)
    simpa using hne
  | cons piece front ih =>
    rw [List.cons_append, List.intercalate_cons_of_ne_nil (by simp), List.reverse_append,
      List.takeWhile_append]
    split
    · next hw =>
      rw [List.reverse_append, List.reverse_singleton, List.singleton_append,
        List.takeWhile_cons_of_neg (by simp), List.append_nil, ← ih]
      exact ((List.takeWhile_prefix _).eq_of_length hw).symm
    · exact ih

theorem takeWhile_reverse_of_splitAt (hl : splitAt sep l = front ++ [last]) :
    l.reverse.takeWhile (· != sep) = last.reverse := by
  have hs : sep ∉ last := not_mem_of_mem_splitAt (l := l) (by simp [hl])
  have hj := intercalate_splitAt sep l
  rw [hl] at hj
  rw [← hj, takeWhile_reverse_intercalate front hs]

theorem splitAt_concat {sep a : α} (h : a ≠ sep) (l : List α) :
    ∃ pieces last, splitAt sep (l ++ [a]) = pieces ++ [last ++ [a]] := by
  induction l with
  | nil => exact ⟨[], [], by simp [splitAt, h]⟩
  | cons b l ih =>
    obtain ⟨pieces, last, hp⟩ := ih
    rw [List.cons_append, splitAt, hp]
    by_cases hb : b = sep
    · exact ⟨[] :: pieces, last, by simp [hb]⟩
    · cases pieces with
      | nil => exact ⟨[], b :: last, by simp [hb]⟩
      | cons piece pieces => exact ⟨(b :: piece) :: pieces, last, by simp [hb]⟩

end Gazetteer.Text

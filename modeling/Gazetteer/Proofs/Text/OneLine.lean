import Gazetteer.Proofs.Text.Lines

/-! # Texts on one line, and texts made of lines

A text made of lines, each behind the same margin and closed by a line feed, is made of them in one
way only. If there is no line feed in the margin either, the text is cut into its lines by cutting
it at the line feeds.
-/

namespace Gazetteer.Text

/-- The text has no line feed. -/
def OneLine (s : String) : Prop := '\n' ∉ s.toList

instance (s : String) : Decidable (OneLine s) := inferInstanceAs (Decidable (¬ '\n' ∈ s.toList))

variable {a b sep margin text : String} {lines lines' : List String}

theorem OneLine.append (ha : OneLine a) (hb : OneLine b) : OneLine (a ++ b) := by
  simpa [OneLine] using ⟨ha, hb⟩

theorem oneLine_number (n : Nat) : OneLine (toString n) := by
  intro h
  rw [Nat.toString_eq_repr, Nat.toList_repr] at h
  exact absurd (Nat.isDigit_of_mem_toDigits (by decide) (by decide) h) (by decide)

theorem OneLine.intercalate (hs : OneLine sep) (hl : ∀ l ∈ lines, OneLine l) :
    OneLine (sep.intercalate lines) := by
  induction lines with
  | nil => simp [OneLine]
  | cons l lines ih =>
    obtain ⟨hl, hr⟩ := List.forall_mem_cons.mp hl
    by_cases hn : lines = []
    · rw [hn, String.intercalate_singleton]
      exact hl
    · rw [String.intercalate_cons_of_ne_nil hn]
      exact (hl.append hs).append (ih hr)

theorem intercalate_append_sep (sep : String) {blocks : List String} (h : blocks ≠ []) :
    sep.intercalate blocks ++ sep = String.join (blocks.map (· ++ sep)) := by
  induction blocks with
  | nil => exact absurd rfl h
  | cons b blocks ih =>
    by_cases hn : blocks = []
    · simp [hn]
    · rw [String.intercalate_cons_of_ne_nil hn, String.append_assoc, ih hn, List.map_cons,
        String.join_cons]

theorem join_flatMap {α : Type} (f : α → List String) (l : List α) :
    String.join (l.flatMap f) = String.join (l.map fun a => String.join (f a)) := by
  induction l with
  | nil => rfl
  | cons a l ih => rw [List.flatMap_cons, String.join_append, ih, List.map_cons, String.join_cons]

/-- The text is made of some lines, each of them behind the margin and closed by a line feed. -/
structure Lined (margin text : String) (lines : List String) : Prop where
  text_eq : text = String.join (lines.map fun l => margin ++ l ++ "\n")
  oneLine : ∀ l ∈ lines, OneLine l

theorem Lined.toList_eq {l : String} (h : Lined margin text (l :: lines)) :
    text.toList = margin.toList ++ (l.toList ++ '\n' ::
      (String.join (lines.map fun l => margin ++ l ++ "\n")).toList) := by
  rw [h.text_eq, List.map_cons, String.join_cons]
  simp

theorem Lined.tail {l : String} (h : Lined margin text (l :: lines)) :
    Lined margin (String.join (lines.map fun l => margin ++ l ++ "\n")) lines :=
  ⟨rfl, (List.forall_mem_cons.mp h.oneLine).2⟩

theorem Lined.eq_nil_iff (h : Lined margin text lines) : text = "" ↔ lines = [] := by
  cases lines with
  | nil => exact iff_of_true h.text_eq rfl
  | cons l lines =>
    refine iff_of_false (fun he => ?_) (List.cons_ne_nil l lines)
    have ht := h.toList_eq
    rw [he] at ht
    simp at ht

/-- A text is made of lines in one way, whatever stands in the margin. -/
theorem Lined.unique (h : Lined margin text lines) (h' : Lined margin text lines') :
    lines = lines' := by
  induction lines generalizing text lines' with
  | nil => exact (h'.eq_nil_iff.mp (h.eq_nil_iff.mpr rfl)).symm
  | cons l lines ih =>
    cases lines' with
    | nil => exact h.eq_nil_iff.mp (h'.eq_nil_iff.mpr rfl)
    | cons l' lines' =>
      have he := List.append_cancel_left (h.toList_eq.symm.trans h'.toList_eq)
      have hl : l = l' := by
        have hc := congrArg (splitAt '\n') he
        rw [splitAt_piece (h.oneLine l List.mem_cons_self),
          splitAt_piece (h'.oneLine l' List.mem_cons_self)] at hc
        exact String.toList_inj.mp (List.cons.inj hc).1
      subst hl
      have hr := (List.cons.inj (List.append_cancel_left he)).2
      rw [ih h.tail ⟨String.toList_inj.mp hr, h'.tail.oneLine⟩]

theorem Lined.splitAt_eq (h : Lined margin text lines) (hm : OneLine margin) :
    splitAt '\n' text.toList = lines.map (fun l => (margin ++ l).toList) ++ [[]] := by
  induction lines generalizing text with
  | nil =>
    rw [h.eq_nil_iff.mpr rfl]
    rfl
  | cons l lines ih =>
    have hp : '\n' ∉ (margin ++ l).toList := hm.append (h.oneLine l List.mem_cons_self)
    rw [h.toList_eq, ← List.append_assoc, ← String.toList_append, splitAt_piece hp, ih h.tail]
    rfl

end Gazetteer.Text

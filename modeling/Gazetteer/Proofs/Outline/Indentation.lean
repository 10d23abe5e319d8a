import Gazetteer.Outline
import Gazetteer.Proofs.Text.Lines

/-! # Indentation

The indentation of a line is made of blocks of four characters. An entry begins with four other
characters, so that the depth of a line can be read off, whatever the entry is called.
-/

namespace Gazetteer.Outline

variable {n : Nat} {indent : String}

inductive Indents : Nat → String → Prop where

  | top : Indents 0 ""

  | next {n : Nat} {indent : String} (h : Indents n indent) (last : Bool) :
      Indents (n + 1) (below indent last)

/-- The blocks of indentation that a line begins with are counted and taken off. -/
def unindent : List Char → Nat × List Char
  | ' ' :: ' ' :: ' ' :: ' ' :: r => ((unindent r).1 + 1, (unindent r).2)
  | '│' :: ' ' :: ' ' :: ' ' :: r => ((unindent r).1 + 1, (unindent r).2)
  | r => (0, r)

theorem Indents.unindent_append (h : Indents n indent) (r : List Char) :
    unindent (indent.toList ++ r) = ((unindent r).1 + n, (unindent r).2) := by
  induction h generalizing r with
  | top => simp
  | next h last ih =>
    rw [Outline.below, String.toList_append, List.append_assoc, ih]
    cases last <;> simp [unindent, Nat.add_assoc, Nat.add_comm]

theorem Indents.lineFeed_not_mem (h : Indents n indent) : '\n' ∉ indent.toList := by
  induction h with
  | top => simp
  | next h last ih => cases last <;> simp [Outline.below, ih]

theorem unindent_suffix (cs : List Char) : (unindent cs).2 <:+ cs := by
  fun_induction unindent cs with
  | case1 r ih => exact ih.trans (List.suffix_append [' ', ' ', ' ', ' '] r)
  | case2 r ih => exact ih.trans (List.suffix_append ['│', ' ', ' ', ' '] r)
  | case3 r => exact List.suffix_rfl

theorem unindent_cons {c : Char} (hs : c ≠ ' ') (hb : c ≠ '│') (r : List Char) :
    unindent (c :: r) = (0, c :: r) := by
  rw [unindent]
  · rintro r' ⟨⟩
    exact hs rfl
  · rintro r' ⟨⟩
    exact hb rfl

@[simp] theorem unindent_stem (last : Bool) (r : List Char) :
    unindent ((stem last).toList ++ r) = (0, (stem last).toList ++ r) := by
  cases last
  · exact unindent_cons (by decide) (by decide) _
  · exact unindent_cons (by decide) (by decide) _

end Gazetteer.Outline

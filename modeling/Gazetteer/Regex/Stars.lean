import Gazetteer.Proofs.Regex.Notation
import Gazetteer.Proofs.Text.Replace

/-! # Patterns with stars

A pattern with stars is made into the notation of an expression by replacements in its text. The
stars that are replaced are those of the pattern, since no other character is written with a star,
and so the notation can always be read.
-/

namespace Gazetteer.FilePattern

open Regex

/-- The notation for a pattern with stars: all of the pattern is taken literally, and then each
star that was, is made a run of characters. -/
def starText (pattern : String) : String :=
  "^" ++ String.ofList (Text.replaceAll "\\*".toList ".*".toList (Regex.escape pattern.toList)) ++
    "$"

def starPiece (c : Char) : Regex := if c = '*' then .run .visible else .char c

/-- The expression that the notation for a pattern is meant to have. -/
def starRegex (cs : List Char) : Regex := seq (.start :: (cs.map starPiece ++ [.finish]))

theorem escape_cons (c : Char) (cs : List Char) :
    escape (c :: cs) = (printChar c).toList ++ escape cs :=
  List.flatMap_cons

theorem head_escape (cs : List Char) : (escape cs).head? ≠ some '*' := by
  cases cs with
  | nil => simp [escape]
  | cons c cs =>
    rw [escape_cons]
    by_cases hc : c ∈ specialChars
    · simp [printChar, hc]
    · have hs : c ≠ '*' := fun he => hc (he ▸ by decide)
      simpa [printChar, hc] using hs

/-- Only a star of the pattern is replaced, since only a star is written with a star. -/
theorem replaceAll_escape (cs : List Char) :
    Text.replaceAll "\\*".toList ".*".toList (escape cs) =
      cs.flatMap fun c => (starPiece c).print.toList := by
  induction cs with
  | nil => rfl
  | cons c cs ih =>
    rw [escape_cons, List.flatMap_cons, ← ih]
    by_cases hstar : c = '*'
    · subst hstar
      exact Text.replaceAll_append (by simp) _
    have hp : starPiece c = .char c := if_neg hstar
    rw [hp, print]
    by_cases hc : c ∈ specialChars
    · have hw : (printChar c).toList = ['\\', c] := by simp [printChar, hc]
      -- Neither the backslash nor what it takes literally begins an occurrence.
      have hfirst : ¬"\\*".toList <+: '\\' :: c :: escape cs := by
        rintro ⟨t, ht⟩
        exact hstar (List.cons.inj (List.cons.inj ht).2).1.symm
      have hsecond : ¬"\\*".toList <+: c :: escape cs := by
        rintro ⟨t, ht⟩
        exact head_escape cs (by rw [← (List.cons.inj ht).2]; rfl)
      rw [hw, List.cons_append, List.cons_append, List.nil_append, Text.replaceAll_cons hfirst,
        Text.replaceAll_cons hsecond]
      rfl
    · have hw : (printChar c).toList = [c] := by simp [printChar, hc]
      have hfirst : ¬"\\*".toList <+: c :: escape cs := by
        rintro ⟨t, ht⟩
        exact hc ((List.cons.inj ht).1 ▸ by decide)
      rw [hw, List.singleton_append, Text.replaceAll_cons hfirst]
      rfl

theorem starText_eq_print (pattern : String) :
    starText pattern = (starRegex pattern.toList).print := by
  rw [← String.toList_inj, starRegex, print_seq, starText, replaceAll_escape]
  simp [List.flatMap_map, print]

theorem read_starText (pattern : String) :
    read (starText pattern) = some (starRegex pattern.toList).normal := by
  rw [starText_eq_print, read_print]

def starExpression (pattern : String) : Regex :=
  (read (starText pattern)).get (by rw [read_starText, Option.isSome_some])

end Gazetteer.FilePattern

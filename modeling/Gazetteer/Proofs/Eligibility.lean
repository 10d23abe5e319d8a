import Gazetteer.Eligibility
import Gazetteer.Language.Parse
import Gazetteer.Proofs.Language.Holdings
import Gazetteer.Proofs.Text.Lines

/-! # Files that are analyzed

The expression of a pattern with stars matches the pieces between the stars with runs of characters
between them. Without patterns, the suffix of a file decides, as it does when a language is looked
for.
-/

namespace Gazetteer

/-- A text made of the pieces in their order, with any text without a line feed between one piece
and the next. -/
inductive Filled : (pieces : List (List Char)) → (text : List Char) → Prop where
  | last {piece} : Filled [piece] piece
  | gap {piece pieces k m} :
    '\n' ∉ k → Filled pieces m → Filled (piece :: pieces) (piece ++ (k ++ m))

variable {piece m k : List Char} {pieces : List (List Char)} {c : Char}

theorem filled_singleton_iff : Filled [piece] m ↔ m = piece := by
  constructor
  · intro h
    cases h with
    | last => rfl
    | gap _ ht => cases ht
  · rintro rfl
    exact .last

theorem filled_gap_iff (h : pieces ≠ []) :
    Filled ([] :: pieces) m ↔ ∃ k t, m = k ++ t ∧ '\n' ∉ k ∧ Filled pieces t := by
  constructor
  · intro hm
    cases hm with
    | last => exact absurd rfl h
    | @gap _ _ k t hk ht => exact ⟨k, t, rfl, hk, ht⟩
  · rintro ⟨k, t, rfl, hk, ht⟩
    exact .gap hk ht

theorem filled_cons_iff :
    Filled ((c :: piece) :: pieces) m ↔ ∃ t, m = c :: t ∧ Filled (piece :: pieces) t := by
  constructor
  · intro h
    cases h with
    | last => exact ⟨_, rfl, .last⟩
    | gap hk ht => exact ⟨_, rfl, .gap hk ht⟩
  · rintro ⟨t, rfl, h⟩
    cases h with
    | last => exact .last
    | gap hk ht => exact .gap hk ht

namespace FilePattern

open Regex

/-! ## The names that fit -/

variable {p : Bool} {z s : List Char}

theorem spans_starPieces (cs : List Char) :
    (seq (cs.map starPiece)).Spans p m z ↔ Filled (Text.splitAt '*' cs) m := by
  induction cs generalizing p m with
  | nil => exact spans_empty_iff.trans filled_singleton_iff.symm
  | cons c cs ih =>
    simp only [List.map_cons, seq_cons, spans_cat_iff, ih]
    by_cases hc : c = '*'
    · subst hc
      rw [Text.splitAt_cons_self, filled_gap_iff (Text.splitAt_ne_nil '*' cs)]
      simp only [starPiece, if_true, spans_run_iff, forall_visible_iff]
    · obtain ⟨piece, pieces, hl⟩ := List.exists_cons_of_ne_nil (Text.splitAt_ne_nil '*' cs)
      rw [Text.splitAt_cons_of_ne hc hl, hl, filled_cons_iff]
      simp only [starPiece, if_neg hc, spans_char_iff]
      constructor
      · rintro ⟨-, t, rfl, rfl, ht⟩
        exact ⟨t, rfl, ht⟩
      · rintro ⟨t, rfl, ht⟩
        exact ⟨[c], t, rfl, rfl, ht⟩

theorem matchesAt_starRegex (cs : List Char) : (starRegex cs).MatchesAt true s ↔
    ∃ m, Filled (Text.splitAt '*' cs) m ∧ (s = m ∨ s = m ++ ['\n']) := by
  have hfinish {q : Bool} {t : List Char} :
      (seq [.finish]).MatchesAt q t ↔ t = [] ∨ t = ['\n'] := by
    rw [← matchesAt_finish_iff (p := q)]
    simp only [MatchesAt, seq_cons, seq_nil, spans_cat_empty]
  rw [starRegex, seq_cons, matchesAt_start_iff]
  simp only [MatchesAt, spans_seq_append]
  rw [← MatchesAt, matchesAt_cat_iff]
  simp only [spans_starPieces, hfinish]
  constructor
  · rintro ⟨m, t, rfl, hm, rfl | rfl⟩
    · exact ⟨m, hm, .inl (List.append_nil m)⟩
    · exact ⟨m, hm, .inr rfl⟩
  · rintro ⟨m, hm, rfl | rfl⟩
    · exact ⟨s, [], (List.append_nil s).symm, hm, .inl rfl⟩
    · exact ⟨m, ['\n'], rfl, hm, .inr rfl⟩

end FilePattern

theorem Path.baseName_append_slash (dir : String) {name : String} (h : '/' ∉ name.toList) :
    Path.baseName (dir ++ "/" ++ name) = name := by
  have hs : (dir ++ "/" ++ name).toList = dir.toList ++ '/' :: name.toList := by simp
  rw [Path.baseName, Path.components, hs, Text.splitAt_separated, Text.splitAt_of_not_mem h]
  simp [List.getLastD_eq_getLast?]

open FilePattern

variable {pattern : String}

theorem fitsPattern_of_star (h : '*' ∈ pattern.toList) (path : String) :
    fitsPattern path pattern =
      (starRegex pattern.toList).normal.matchStart (Path.baseName path) := by
  have hp : FilePattern.ofString pattern = .star pattern := by simp [FilePattern.ofString, h]
  rw [fitsPattern, hp, fits, starExpression, Option.get_of_eq_some _ (read_starText pattern)]

/-- The notation for a pattern with stars can be read, and what is read fits exactly the base names
that consist of the pieces between the stars with texts without a line feed in place of the stars,
with or without a line feed at the end. The directory makes no difference. -/
theorem fitsPattern_star_iff (h : '*' ∈ pattern.toList) (path : String) :
    (∃ r, Regex.read (starText pattern) = some r ∧
      fitsPattern path pattern = r.matchStart (Path.baseName path)) ∧
    (fitsPattern path pattern = true ↔ ∃ text, Filled (Text.splitAt '*' pattern.toList) text ∧
      ((Path.baseName path).toList = text ∨ (Path.baseName path).toList = text ++ ['\n'])) ∧
    ∀ dir name : String, '/' ∉ name.toList →
      fitsPattern (dir ++ "/" ++ name) pattern = fitsPattern name pattern := by
  refine ⟨⟨_, read_starText pattern, fitsPattern_of_star h path⟩, ?_, fun dir name hn => ?_⟩
  · rw [fitsPattern_of_star h, Regex.matchStart_normal, Regex.matchStart_iff, matchesAt_starRegex]
  · have hb : Path.baseName name = name := by
      rw [Path.baseName, Path.components, Text.splitAt_of_not_mem hn]
      simp
    rw [fitsPattern_of_star h, fitsPattern_of_star h, Path.baseName_append_slash dir hn, hb]

/-- A backslash before a star and a question mark stand for themselves. -/
theorem fits_backslash_star :
    '*' ∈ "\\*.t?s".toList ∧ fitsPattern "/a*/\\x.y.t?s\n" "\\*.t?s" = true ∧
      fitsPattern "/a*/x.t?s" "\\*.t?s" = false := by
  have h : '*' ∈ "\\*.t?s".toList := by decide
  refine ⟨h, (fitsPattern_star_iff h _).2.1.mpr ⟨"\\x.y.t?s".toList, ?_, .inr (by decide)⟩, ?_⟩
  · exact @Filled.gap ['\\'] _ "x.y".toList _ (by decide) .last
  · decide

/-! ## Without patterns -/

theorem isEligible_nil_iff {path : String} :
    isEligible Language.allKinds [] path = true ↔
      ∃ l, Language.ofSuffix? (Path.suffix path) = some l := by
  have hsmall : Language.allKinds.map Text.lower = Language.allKinds := by decide
  rw [isEligible, hsmall, List.contains_iff_mem, Language.mem_allKinds_iff]
  simp only [Language.ofSuffix?, Path.kindOfSuffix_suffix, Language.lookup_kindTable_iff]

/-- A file is eligible by default just if a table is made of it, provided that all languages can be
loaded; nor does it matter what has been asked for before. -/
theorem isEligible_iff_extract {offer : Offer} (h : ∀ l, offer.loads l = true)
    (errands : List Errand) (path text : String) :
    isEligible Language.allKinds [] path = true ↔
      (((Cabinet.new offer).after errands).extract path text).1.isSome = true := by
  rw [isEligible_nil_iff, Cabinet.isSome_extract_iff (Cabinet.agree_after _ errands)]
  simp only [h, and_true]

/-- Dots in front of a name and in that of a directory make no suffix, and capitals do. -/
theorem isEligible_iff_extract_dottedPaths :
    let offer : Offer := ⟨[(.javascript, true), (.python, true)], Language.parse⟩
    let c := (Cabinet.new offer).after [.one "PY", .all]
    (∀ l, offer.loads l = true) ∧
    (c.extract "/a.py/..x.d.TS" "let a").1.isSome = true ∧
    (c.extract "/a.py/..py" "a = 1").1.isSome = false := by
  intro offer c
  have h : ∀ l, offer.loads l = true := by
    intro l
    cases l <;> rfl
  refine ⟨h, (isEligible_iff_extract h _ _ _).mp (by decide), eq_false_of_ne_true fun he => ?_⟩
  have hno : isEligible Language.allKinds [] "/a.py/..py" = false := by decide
  exact Bool.false_ne_true (hno.symm.trans ((isEligible_iff_extract h _ _ _).mpr he))

end Gazetteer

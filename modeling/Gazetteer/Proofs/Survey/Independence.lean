import Gazetteer.Proofs.Survey.Legibility

/-! # What surveys of one root have in common

Whether files are read, which of them, how deep and what is listed of their symbols makes no
difference to the entries: without the lines about symbols, all surveys of a root have the text of
the survey that reads no files. What is listed makes no difference to the tables.
-/

namespace Gazetteer.Survey

open Outline

def Findings.entryText (f : Findings) : String := Outline.text (f.lines.filter Line.isEntry)

variable {s : Storage} {scope : Scope}

def plainLines (s : Storage) (root : String) (station : Station) : List Line :=
  match visibleBelow s root station.inherited station.dir with
  | none => [missingLine station.indent station.dir]
  | some branches => linesOfAll silent station.indent branches

theorem filter_isEntry_survey (station : Station) (c : Cabinet) :
    (survey s scope station c).1.lines.filter Line.isEntry = plainLines s scope.root station := by
  unfold survey plainLines
  cases visibleBelow s scope.root station.inherited station.dir with
  | none => rfl
  | some branches =>
    simp only [Findings.ofBranches]
    rw [filter_isEntry_linesOfAll, annotateAll_eq_notedAll, linesOfAll_silent_notedAll]

theorem lines_survey_of_inactive (h : scope.analyze = false) (station : Station) (c : Cabinet) :
    (survey s scope station c).1.lines = plainLines s scope.root station := by
  unfold survey plainLines
  cases visibleBelow s scope.root station.inherited station.dir with
  | none => rfl
  | some branches =>
    simp only [Findings.ofBranches, h]
    exact linesOfAll_annotateAll_inactive ..

theorem tally_survey_kinds (kinds : List SymbolKind) (station : Station) (c : Cabinet) :
    (survey s { scope with kinds } station c).1.tally = (survey s scope station c).1.tally := by
  have ht : tableAt s { scope with kinds } scope.analyze station.depth station.dir c =
      tableAt s scope scope.analyze station.depth station.dir c := rfl
  have hs : shownEntries s { scope with kinds } station = shownEntries s scope station := rfl
  rw [tally_survey_eq, tally_survey_eq, hs, ht]

/-- Surveys of one root have the same text without the lines about symbols, that of the survey
which reads no files. If they differ in the listing alone, they have the same tables. -/
theorem entries_independent_of_reading (s : Storage) (scope : Scope) (station : Station)
    (c d : Cabinet) (analyze : Bool) (kinds : List SymbolKind) (patterns : List String)
    (depth : Int) :
    let other : Scope := ⟨scope.root, analyze, kinds, patterns, depth⟩
    let plain : Scope := { scope with analyze := false }
    (survey s other station d).1.entryText = (survey s scope station c).1.entryText ∧
      (survey s scope station c).1.entryText = (survey s plain station d).1.text ∧
      (survey s { scope with kinds } station c).1.tally = (survey s scope station c).1.tally := by
  intro other plain
  refine ⟨?_, ?_, tally_survey_kinds kinds station c⟩
  · unfold Findings.entryText
    rw [filter_isEntry_survey, filter_isEntry_survey]
  · have hp : plain.analyze = false := rfl
    unfold Findings.entryText Findings.text
    rw [filter_isEntry_survey, lines_survey_of_inactive hp]

end Gazetteer.Survey

import Gazetteer.Disk
import Gazetteer.Language.Parse
import Gazetteer.Proofs.Listing.Counts
import Gazetteer.Proofs.Request.Attempt
import Gazetteer.Proofs.Request.RootGuard
import Gazetteer.Proofs.Survey.Record
import Mathlib.Algebra.GroupWithZero.Nat

/-! # Totals

The totals above an outline are those of the counts below the files in it. Every line of counts
stands for one table, since no file is recorded twice, and there are totals if there is such a line.
-/

namespace Gazetteer

namespace Survey

open Outline Listing

variable {s : Storage} {scope : Scope} {kinds : List SymbolKind}

/-- The counts that are printed by some lines, from top to bottom. -/
def printed (lines : List Line) : List Counts :=
  lines.filterMap fun line => readCounts line.text.toList

theorem printed_append (ls ms : List Line) : printed (ls ++ ms) = printed ls ++ printed ms :=
  List.filterMap_append

theorem printed_cons_of_none {line : Line} {lines : List Line}
    (h : readCounts line.text.toList = none) : printed (line :: lines) = printed lines :=
  List.filterMap_cons_none h

theorem printed_cons_of_some {line : Line} {lines : List Line} {counts : Counts}
    (h : readCounts line.text.toList = some counts) :
    printed (line :: lines) = counts :: printed lines :=
  List.filterMap_cons_some h

theorem printed_describe {n : Nat} {indent : String} (h : Indents n indent)
    (note : Option SymbolTable) :
    printed ((describe kinds indent note).map .note) = (note.map (·.counts)).toList := by
  cases note with
  | none => rfl
  | some t =>
    have hl : printed ((lines t kinds indent).map .note) = [] := by
      refine List.filterMap_eq_nil_iff.mpr fun line hm => ?_
      obtain ⟨text, ht, rfl⟩ := List.mem_map.mp hm
      exact readCounts_of_mem_lines h ht
    have hc : readCounts (Line.note (countsLine t indent)).text.toList = some t.counts :=
      readCounts_countsLine h t
    rw [describe, List.map_cons, printed_cons_of_some hc, hl]
    rfl

mutual

theorem printed_linesOf {n : Nat} {indent : String} (h : Indents n indent) (last : Bool)
    (b : Branch (Option SymbolTable)) :
    printed (linesOf (describe kinds) indent last b) =
      (notesOf b).filterMap (Option.map (·.counts)) := by
  cases b with
  | file name size note =>
    rw [linesOf, printed_cons_of_none (readCounts_fileLine ..), printed_describe (h.next last)]
    cases note <;> rfl
  | folder name inside =>
    rw [linesOf, printed_cons_of_none (readCounts_folderLine ..)]
    exact printed_linesOfAll (h.next last) inside
  | loop name => exact printed_cons_of_none (readCounts_folderLine ..)
  | fault f => exact printed_cons_of_none (readCounts_faultLine h f)

/-- The lines of an outline print the counts of the tables in it. -/
theorem printed_linesOfAll {n : Nat} {indent : String} (h : Indents n indent)
    (bs : List (Branch (Option SymbolTable))) :
    printed (linesOfAll (describe kinds) indent bs) =
      (notesOfAll bs).filterMap (Option.map (·.counts)) := by
  cases bs with
  | nil => rfl
  | cons b bs =>
    rw [linesOfAll, printed_append, printed_linesOf h, printed_linesOfAll h, notesOfAll,
      List.filterMap_append]

end

/-- The counts that a survey prints are those of the tables it records. -/
theorem printed_survey (s : Storage) (scope : Scope) (dir : String) (c : Cabinet) :
    printed (survey s scope { dir } c).1.lines =
      (survey s scope { dir } c).1.tally.map (·.counts) := by
  have hf : ∀ notes : List (Option SymbolTable),
      notes.filterMap (Option.map (·.counts)) = (notes.filterMap id).map (·.counts) := by
    intro notes
    rw [List.map_filterMap]
    rfl
  rw [tally_survey_eq]
  unfold survey shownEntries
  cases visibleBelow s scope.root [] dir with
  | none => exact printed_cons_of_none (readCounts_missingLine dir)
  | some branches =>
    simp only [Findings.ofBranches, printed_linesOfAll .top, notesOfAll_annotateAll,
      Option.map_some, Option.getD_some, hf]

end Survey

def Counts.totals (blocks : List Counts) : Totals where
  files := blocks.length
  functions := ((blocks.map (·.functions)).sum : Nat)
  bindings := ((blocks.map (·.bindings)).sum : Nat)
  classes := ((blocks.map (·.classes)).sum : Nat)

theorem Tally.totals_eq (tally : Tally) :
    tally.totals = Counts.totals (tally.map (·.counts)) := by
  simp only [Tally.totals, Tally.total_eq_sum, Counts.totals, List.length_map, List.map_map]
  rfl

namespace Summary

theorem text_eq_empty_iff (t : Totals) (patterns : List String) (depth : Int) :
    text t patterns depth = "" ↔ t.files = 0 := by
  unfold text
  split
  · next h => exact iff_of_true rfl h
  · next h =>
    simp only [String.append_eq_empty_iff]
    exact iff_of_false (fun he => absurd he.1.1.1.1.1 (by decide)) h

theorem page_eq_page_empty_iff (root summary outline : String) :
    page root summary outline = page root "" outline ↔ summary = "" := by
  have hp : ∀ s, page root s outline =
      "Directory structure for: " ++ (root ++ (s ++ ("\n\n" ++ outline))) := by
    intro s
    unfold page
    rw [String.append_assoc, String.append_assoc, String.append_assoc]
  rw [hp, hp, String.append_right_inj, String.append_right_inj, String.append_left_inj]

end Summary

namespace Request

open Survey

variable {r : Request} {scope : Scope}

/-- In the answer to a request for an analysis, on every machine that gives one, the totals are
those of the printed counts, each of which stands for one table of its own, and there is a summary
unless no counts are printed. -/
theorem totals_eq_printed (h : r.scope = .ok scope) (ha : r.analyze = true) (s : Storage)
    (c : Cabinet) :
    ∃ a, (r.answer s c).1 = .ok a ∧ (∀ m b, (r.attempt m s c).1 = .ok b → b = a) ∧
      let found := (survey s scope { dir := scope.root } c).1
      let blocks := printed found.lines
      a.tally.totals = Counts.totals blocks ∧ a.tally.map (·.counts) = blocks ∧
        a.tally.files.Nodup ∧
        a.text = Summary.page scope.root
          (Summary.text a.tally.totals scope.patterns scope.depth) found.text ∧
        (a.text = Summary.page scope.root "" found.text ↔ blocks = []) := by
  have hon : scope.analyze = true := (analyze_of_scope h).trans ha
  refine ⟨.make scope (survey s scope { dir := scope.root } c).1.text
    (survey s scope { dir := scope.root } c).1.tally, answer_of_ok h, fun m b hb => ?_, ?_⟩
  · exact Except.ok.inj ((answer_of_attempt hb).symm.trans (answer_of_ok h))
  · have hp := printed_survey s scope scope.root c
    have hn := nodup_files_survey s scope { dir := scope.root } c
    generalize survey s scope { dir := scope.root } c = found at hp hn
    simp only [Answer.make, hon, if_true, hp]
    refine ⟨Tally.totals_eq _, trivial, hn, trivial, ?_⟩
    rw [Summary.page_eq_page_empty_iff, Summary.text_eq_empty_iff]
    simp [Tally.totals]

/-- One file under two names. -/
def sharedDisk : Disk where
  entries := [(["p"], .directory),
    (["p", "a.py"], .file (Text.Utf8.encode "def f(): pass\n".toList)),
    (["p", "b.py"], .link "a.py")]
  locations_nodup := by decide
  isName_of_mem := by decide

def sharedRequest : Request := { path := "/p", analyze := true }

theorem totals_eq_printed_sharedRequest :
    let s := sharedDisk.storage []
    let c := Cabinet.new .full
    let scope : Scope := { root := "/p", analyze := true }
    sharedRequest.scope = .ok scope ∧ sharedRequest.analyze = true ∧
      ∃ a, (sharedRequest.answer s c).1 = .ok a ∧
        (∀ m b, (sharedRequest.attempt m s c).1 = .ok b → b = a) ∧
        let found := (survey s scope { dir := "/p" } c).1
        let blocks := printed found.lines
        a.tally.totals = Counts.totals blocks ∧ a.tally.map (·.counts) = blocks ∧
          a.tally.files.Nodup ∧
          a.text = Summary.page "/p" (Summary.text a.tally.totals [] 5) found.text ∧
          (a.text = Summary.page "/p" "" found.text ↔ blocks = []) := by
  have h : sharedRequest.scope = .ok { root := "/p", analyze := true } := rfl
  exact ⟨h, rfl, totals_eq_printed h rfl (sharedDisk.storage []) (Cabinet.new .full)⟩

end Request

end Gazetteer

import Gazetteer.Proofs.Survey.Visibility

/-! # Rendering

The lines of a survey with their marks. An entry has a line if and only if it is visible; reading
the files adds lines below them and changes nothing about the entries.
-/

namespace Gazetteer.Survey

open Ignore Outline Gazetteer.Path

def marks (s : Storage) (scope : Scope) (station : Station) (c : Cabinet) : List Mark :=
  match visibleBelow s scope.root station.inherited station.dir with
  | none => [⟨.notice [], missingLine station.indent station.dir⟩]
  | some branches =>
    marksOfAll (describe scope.kinds) station.indent
      (annotateAll s scope scope.analyze station.depth station.dir branches c).1

variable (s : Storage) (scope : Scope)

theorem map_line_marks (station : Station) (c : Cabinet) :
    (marks s scope station c).map (·.line) = (survey s scope station c).1.lines := by
  unfold marks survey
  cases visibleBelow s scope.root station.inherited station.dir with
  | none => rfl
  | some branches => exact map_line_marksOfAll ..

mutual

theorem entriesOf_annotate (active : Bool) (depth : Int) (dir : String) (b : Branch Unit)
    (c : Cabinet) : entriesOf (annotate s scope active depth dir b c).1 = entriesOf b := by
  cases b with
  | file name size note => simp [annotate, entriesOf]
  | folder name inside => simp [annotate, entriesOf, entriesOfAll_annotateAll]
  | loop name => rfl
  | fault f => rfl

theorem entriesOfAll_annotateAll (active : Bool) (depth : Int) (dir : String)
    (bs : List (Branch Unit)) (c : Cabinet) :
    entriesOfAll (annotateAll s scope active depth dir bs c).1 = entriesOfAll bs := by
  cases bs with
  | nil => rfl
  | cons b bs => simp [annotateAll, entriesOfAll, entriesOf_annotate, entriesOfAll_annotateAll]

end

def shownEntries (station : Station) : List (List String × Bool) :=
  ((visibleBelow s scope.root station.inherited station.dir).map entriesOfAll).getD []

theorem filterMap_entry_marks (station : Station) (c : Cabinet) :
    (marks s scope station c).filterMap (·.subject.asEntry) = shownEntries s scope station := by
  unfold marks shownEntries
  cases visibleBelow s scope.root station.inherited station.dir with
  | none => rfl
  | some branches =>
    simp [filterMap_entry_marksOfAll, entriesOfAll_annotateAll]

theorem mem_shownEntries_iff (station : Station) (trail : List String) (isDir : Bool) :
    (trail, isDir) ∈ shownEntries s scope station ↔
      Visible s scope.root station.inherited station.dir trail ∧
        s.isDirectory (descend station.dir trail) = isDir := by
  unfold shownEntries visibleBelow
  cases hf : s.find station.dir with
  | error cause =>
    simp only [Option.map_none, Option.getD_none, List.not_mem_nil, false_iff, not_and]
    intro hv
    obtain ⟨l, names, hd⟩ := hv.find
    rw [hf] at hd
    cases hd
  | ok site =>
    have hl : s.location? station.dir = some site.location := by
      simp [Storage.location?, hf, Except.toOption]
    rw [Option.map_some, Option.getD_some, mem_entriesOfAll_iff_leads,
      leads_iff ⟨_, List.mem_singleton_self _, hl⟩]
    constructor
    · rintro ⟨⟨hv, -⟩, hd⟩
      exact ⟨hv, hd⟩
    · rintro ⟨hv, hd⟩
      have hn := hv.entered
      rw [stops_eq_cons, hl, List.nodup_cons] at hn
      exact ⟨⟨hv, by simpa using hn.1⟩, hd⟩

/-- A survey of a root has a line for an entry if and only if the entry is visible, and the line
says whether it is a directory. -/
theorem root_line_iff_visible (c : Cabinet) :
    (marks s scope { dir := scope.root } c).map (·.line) =
        (survey s scope { dir := scope.root } c).1.lines ∧
      ∀ trail isDir, (∃ m ∈ marks s scope { dir := scope.root } c,
          m.subject = .entry trail isDir) ↔
        Visible s scope.root [] scope.root trail ∧
          s.isDirectory (descend scope.root trail) = isDir := by
  refine ⟨map_line_marks s scope _ c, fun trail isDir => ?_⟩
  rw [← mem_shownEntries_iff s scope { dir := scope.root }, ← filterMap_entry_marks s scope _ c,
    List.mem_filterMap]
  simp only [Subject.asEntry_eq_some_iff]

end Gazetteer.Survey

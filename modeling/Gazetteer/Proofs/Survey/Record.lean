import Gazetteer.Proofs.Language.Cabinet
import Gazetteer.Proofs.Outline.Notes
import Gazetteer.Proofs.Path.Descent
import Gazetteer.Proofs.Survey.Rendering
import Gazetteer.Proofs.Tally

/-! # What a survey records

A survey records the tables of the visible files that are not too deep, that are eligible and that
can be read by a language at hand, in the order of their lines and each file once. The flag that
goes down with the directories and the depth of the files come to one bound on their depth.
-/

namespace Gazetteer.Survey

open Ignore Outline Gazetteer.Path

variable {s : Storage} {scope : Scope} {root dir name : String} {inherited : Rules}
  {chain : List Location}

/-! ## Different entries -/

theorem Visible.isName_of_mem {trail : List String} (h : Visible s root inherited dir trail)
    (hm : name ∈ trail) : isName name = true := by
  obtain ⟨t, u, rfl⟩ := List.append_of_mem hm
  obtain ⟨-, names, hn, hl⟩ := h.listed t name ⟨u, by simp⟩
  obtain ⟨l, hf⟩ := find_of_names hn
  exact s.isName_of_mem hf hl

theorem branchAt_cases {b : Branch Unit}
    (h : branchAt s root inherited chain dir name = some b) :
    (∃ size, b = .file name size ()) ∨ b = .loop name ∨
      ∃ l names, s.find (join dir name) = .ok ⟨l, .directory names⟩ ∧ ¬ chain.contains l ∧
        b = .folder name
          (visible s root (rulesBelow s inherited dir) (l :: chain) (join dir name)) := by
  unfold branchAt at h
  split at h
  · next l names hf =>
    split at h
    · cases h
    · split at h
      · cases h; exact .inr (.inl rfl)
      · next hc => cases h; exact .inr (.inr ⟨l, names, hf, hc, rfl⟩)
  · unfold visibleFile at h
    split at h
    · cases h
    · split at h
      · next size _ => cases h; exact .inl ⟨size, rfl⟩
      · cases h

theorem trails_under (entries : List (List String × Bool)) (name : String) :
    (entries.map (Prod.map (name :: ·) id)).map (·.1) = (entries.map (·.1)).map (name :: ·) := by
  simp [Function.comp_def]

theorem exists_cons_of_mem_branchAt {b : Branch Unit} {e : List String × Bool}
    (h : branchAt s root inherited chain dir name = some b) (he : e ∈ entriesOf b) :
    ∃ trail, e.1 = name :: trail := by
  obtain ⟨-, ⟨rfl, -⟩ | ⟨l, names, -, -, hm⟩⟩ := mem_entriesOf_branchAt.mp ⟨b, h, he⟩
  · exact ⟨[], rfl⟩
  · obtain ⟨e, -, rfl⟩ := List.mem_map.mp hm
    exact ⟨e.1, rfl⟩

theorem nodup_trails_visible :
    ((entriesOfAll (visible s root inherited chain dir)).map (·.1)).Nodup := by
  induction inherited, chain, dir using visible.induct s root with
  | case1 inherited chain dir f hn => simp [visible_of_error hn, entriesOfAll, entriesOf]
  | case2 inherited chain dir names hn ih =>
    obtain ⟨l, hf⟩ := find_of_names hn
    rw [visible_of_names hn, entriesOfAll_eq_flatMap, List.map_flatMap, List.nodup_flatMap]
    constructor
    · intro b hb
      obtain ⟨name, -, hb⟩ := List.mem_filterMap.mp hb
      rcases branchAt_cases hb with ⟨size, rfl⟩ | rfl | ⟨l, ns, hf, hc, rfl⟩
      · simp [entriesOf]
      · simp [entriesOf]
      · rw [entriesOf, List.map_cons, trails_under, List.nodup_cons]
        refine ⟨?_, (ih name l ns hf hc).map (List.cons_injective)⟩
        intro hm
        obtain ⟨t, ht, he⟩ := List.mem_map.mp hm
        exact nil_not_mem_trails _ ((List.cons_eq_cons.mp he).2 ▸ ht)
    · refine List.Pairwise.filterMap _ ?_ ((s.names_nodup hf).filter _)
      intro a a' ha b hb b' hb' t ht ht'
      obtain ⟨e, he, rfl⟩ := List.mem_map.mp ht
      obtain ⟨e', he', heq⟩ := List.mem_map.mp ht'
      obtain ⟨u, hu⟩ := exists_cons_of_mem_branchAt hb he
      obtain ⟨u', hu'⟩ := exists_cons_of_mem_branchAt hb' he'
      rw [hu, hu'] at heq
      exact ha (List.cons_eq_cons.mp heq).1.symm

/-! ## The tables of the files -/

/-- The trails to the entries that are no directories. -/
def fileTrails (entries : List (List String × Bool)) : List (List String) :=
  (entries.filter (!·.2)).map (·.1)

def level (trail : List String) : Int := trail.length - 1

/-- The table of the file that a trail leads to, if it is covered and can be read. -/
def tableAt (s : Storage) (scope : Scope) (active : Bool) (depth : Int) (dir : String)
    (c : Cabinet) (trail : List String) : Option SymbolTable :=
  if scope.readsAt active (depth + level trail) &&
      isEligible Language.allKinds scope.patterns (descend dir trail) then
    (s.text (descend dir trail)).toOption.bind fun text => (c.extract (descend dir trail) text).1
  else none

theorem fileTrails_append (es fs : List (List String × Bool)) :
    fileTrails (es ++ fs) = fileTrails es ++ fileTrails fs := by
  simp [fileTrails]

theorem fileTrails_under (es : List (List String × Bool)) :
    fileTrails (es.map (Prod.map (name :: ·) id)) = (fileTrails es).map (name :: ·) := by
  simp [fileTrails, List.filter_map, Function.comp_def]

theorem fileTrails_sublist (es : List (List String × Bool)) :
    (fileTrails es).Sublist (es.map (·.1)) :=
  List.filter_sublist.map _

theorem tableAt_congr {c d : Cabinet} (h : c.Agree d) (active : Bool) (depth : Int)
    (trail : List String) :
    tableAt s scope active depth dir c trail = tableAt s scope active depth dir d trail := by
  simp only [tableAt, h.extract_eq]

theorem tableAt_singleton (active : Bool) (depth : Int) (c : Cabinet) :
    tableAt s scope active depth dir c [name] =
      (tableOf s scope active depth (join dir name) c).1 := by
  have hl : level [name] = 0 := rfl
  simp only [tableAt, tableOf, hl, Int.add_zero, descend_cons, descend_nil]
  split
  · cases s.text (join dir name) <;> rfl
  · rfl

/-- One level further down, the flag and the greater depth make up for the shorter trail. -/
theorem tableAt_cons (active : Bool) (depth : Int) (c : Cabinet) {trail : List String}
    (h : trail ≠ []) :
    tableAt s scope active depth dir c (name :: trail) =
      tableAt s scope (scope.descendsAt active depth) (depth + 1) (join dir name) c trail := by
  have hl : 0 < trail.length := List.length_pos_iff.mpr h
  have hd : (depth + level (name :: trail) ≤ scope.depth) ↔
      depth < scope.depth ∧ depth + 1 + level trail ≤ scope.depth := by
    simp only [level, List.length_cons]
    omega
  simp only [tableAt, Scope.readsAt, Scope.descendsAt, descend_cons, hd, Bool.decide_and,
    Bool.and_assoc]

theorem agree_tableOf (active : Bool) (depth : Int) (path : String) (c : Cabinet) :
    c.Agree (tableOf s scope active depth path c).2 := by
  unfold tableOf
  split
  · split
    · exact c.agree_extract path _
    · exact .refl c
  · exact .refl c

mutual

theorem agree_annotate (active : Bool) (depth : Int) (dir : String) (b : Branch Unit)
    (c : Cabinet) : c.Agree (annotate s scope active depth dir b c).2 := by
  cases b with
  | file name size note => exact agree_tableOf active depth (join dir name) c
  | folder name inside => exact agree_annotateAll _ (depth + 1) (join dir name) inside c
  | loop name => exact .refl c
  | fault f => exact .refl c

theorem agree_annotateAll (active : Bool) (depth : Int) (dir : String) (bs : List (Branch Unit))
    (c : Cabinet) : c.Agree (annotateAll s scope active depth dir bs c).2 := by
  cases bs with
  | nil => exact .refl c
  | cons b bs =>
    exact (agree_annotate active depth dir b c).trans (agree_annotateAll active depth dir bs _)

end

mutual

theorem annotate_eq_noted (active : Bool) (depth : Int) (dir : String) (b : Branch Unit)
    (c : Cabinet) :
    (annotate s scope active depth dir b c).1 = noted (tableAt s scope active depth dir c) b := by
  cases b with
  | file name size note => rw [annotate, noted, tableAt_singleton]
  | folder name inside =>
    have ih := annotateAll_eq_notedAll (scope.descendsAt active depth) (depth + 1) (join dir name)
      inside c
    simp only [annotate, noted]
    rw [ih]
    refine congrArg _ (notedAll_congr inside fun t ht => ?_)
    have hne : t ≠ [] := by
      rintro rfl
      exact nil_not_mem_trails inside (List.mem_map.mpr ⟨_, ht, rfl⟩)
    exact (tableAt_cons active depth c hne).symm
  | loop name => rfl
  | fault f => rfl

/-- What is noted on a file depends on the trail to it and not on what has been noted before. -/
theorem annotateAll_eq_notedAll (active : Bool) (depth : Int) (dir : String)
    (bs : List (Branch Unit)) (c : Cabinet) :
    (annotateAll s scope active depth dir bs c).1 =
      notedAll (tableAt s scope active depth dir c) bs := by
  cases bs with
  | nil => rfl
  | cons b bs =>
    have hc : tableAt s scope active depth dir (annotate s scope active depth dir b c).2 =
        tableAt s scope active depth dir c :=
      funext fun t => (tableAt_congr (agree_annotate active depth dir b c) active depth t).symm
    simp only [annotateAll, notedAll]
    rw [annotate_eq_noted, annotateAll_eq_notedAll, hc]

end

mutual

theorem notesOf_noted {α β : Type} (f : List String → β) (b : Branch α) :
    notesOf (noted f b) = (fileTrails (entriesOf b)).map f := by
  cases b with
  | file name size note => rfl
  | folder name inside =>
    have hf : fileTrails (entriesOf (.folder name inside)) =
        (fileTrails (entriesOfAll inside)).map (name :: ·) := fileTrails_under _
    rw [noted, notesOf, notesOfAll_notedAll, hf, List.map_map]
    rfl
  | loop name => rfl
  | fault cause => rfl

theorem notesOfAll_notedAll {α β : Type} (f : List String → β) (bs : List (Branch α)) :
    notesOfAll (notedAll f bs) = (fileTrails (entriesOfAll bs)).map f := by
  cases bs with
  | nil => rfl
  | cons b bs =>
    rw [notedAll, notesOfAll, entriesOfAll, fileTrails_append, List.map_append, notesOf_noted,
      notesOfAll_notedAll]

end

theorem notesOfAll_annotateAll (active : Bool) (depth : Int) (dir : String)
    (bs : List (Branch Unit)) (c : Cabinet) :
    notesOfAll (annotateAll s scope active depth dir bs c).1 =
      (fileTrails (entriesOfAll bs)).map (tableAt s scope active depth dir c) := by
  rw [annotateAll_eq_notedAll, notesOfAll_notedAll]

theorem marks_eq (station : Station) (c : Cabinet) : marks s scope station c =
    match visibleBelow s scope.root station.inherited station.dir with
    | none => [⟨.notice [], missingLine station.indent station.dir⟩]
    | some bs => marksOfAll (describe scope.kinds) station.indent
        (notedAll (tableAt s scope scope.analyze station.depth station.dir c) bs) := by
  unfold marks
  cases visibleBelow s scope.root station.inherited station.dir with
  | none => rfl
  | some branches => simp only [annotateAll_eq_notedAll]

/-! ## The files of a tally -/

/-- A survey records the file that a trail leads to: files are analyzed, this one is not too deep
and eligible, and it can be read and has a language at hand. -/
def records (s : Storage) (scope : Scope) (station : Station) (c : Cabinet)
    (trail : List String) : Bool :=
  let path := descend station.dir trail
  scope.analyze && station.depth + level trail ≤ scope.depth &&
    isEligible Language.allKinds scope.patterns path &&
    match s.text path with
    | .ok text => (c.extract path text).1.isSome
    | .error _ => false

theorem map_path_tableAt (station : Station) (c : Cabinet) (trail : List String) :
    (tableAt s scope scope.analyze station.depth station.dir c trail).map (·.path) =
      if records s scope station c trail then some (descend station.dir trail) else none := by
  unfold tableAt records Scope.readsAt
  by_cases hc : (scope.analyze && decide (station.depth + level trail ≤ scope.depth) &&
      isEligible Language.allKinds scope.patterns (descend station.dir trail)) = true
  · rw [if_pos hc]
    simp only [hc, Bool.true_and]
    cases s.text (descend station.dir trail) with
    | error f => rfl
    | ok text =>
      cases ht : (c.extract (descend station.dir trail) text).1 with
      | none => simp [Except.toOption, ht]
      | some t => simp [Except.toOption, ht, Cabinet.path_of_extract ht]
  · rw [if_neg hc]
    simp [hc]

theorem map_path_notes (s : Storage) (scope : Scope) (station : Station) (c : Cabinet)
    (trails : List (List String)) :
    ((trails.map (tableAt s scope scope.analyze station.depth station.dir c)).filterMap id).map
        (·.path) =
      (trails.filter (records s scope station c)).map (descend station.dir) := by
  rw [List.filterMap_map, List.map_filterMap, ← List.filterMap_eq_filter, List.map_filterMap]
  apply List.filterMap_congr
  intro trail _
  simp [map_path_tableAt, Option.guard]

theorem nodup_trails_shown (station : Station) :
    ((shownEntries s scope station).map (·.1)).Nodup := by
  unfold shownEntries visibleBelow
  cases s.find station.dir with
  | error cause => exact .nil
  | ok site => exact nodup_trails_visible

/-- Different visible files have different paths. -/
theorem nodup_paths_recorded (s : Storage) (scope : Scope) (station : Station) (c : Cabinet) :
    (((fileTrails (shownEntries s scope station)).filter (records s scope station c)).map
      (descend station.dir)).Nodup := by
  have hv : ∀ trail ∈ (fileTrails (shownEntries s scope station)).filter
      (records s scope station c), Visible s scope.root station.inherited station.dir trail := by
    intro trail ht
    obtain ⟨⟨t, isDir⟩, he, rfl⟩ := List.mem_map.mp
      ((fileTrails_sublist _).mem (List.mem_of_mem_filter ht))
    exact ((mem_shownEntries_iff s scope station t isDir).mp he).1
  refine List.Nodup.map_on ?_ ((nodup_trails_shown station).sublist
    (List.filter_sublist.trans (fileTrails_sublist _)))
  intro t ht u hu he
  exact descend_injective (hv t ht).below (fun _ => (hv t ht).isName_of_mem) (hv u hu).below
    (fun _ => (hv u hu).isName_of_mem) he

theorem mem_fileTrails_iff {es : List (List String × Bool)} {trail : List String} :
    trail ∈ fileTrails es ↔ (trail, false) ∈ es := by
  simp [fileTrails]

theorem tally_survey (station : Station) (c : Cabinet) :
    (survey s scope station c).1.tally = Tally.empty.recordAll
      (((fileTrails (shownEntries s scope station)).map
        (tableAt s scope scope.analyze station.depth station.dir c)).filterMap id) := by
  unfold survey shownEntries
  cases visibleBelow s scope.root station.inherited station.dir with
  | none => rfl
  | some branches => simp [Findings.ofBranches, notesOfAll_annotateAll]

theorem tally_survey_eq (station : Station) (c : Cabinet) :
    (survey s scope station c).1.tally =
      ((fileTrails (shownEntries s scope station)).map
        (tableAt s scope scope.analyze station.depth station.dir c)).filterMap id := by
  have hn := nodup_paths_recorded s scope station c
  rw [← map_path_notes] at hn
  rw [tally_survey]
  exact @Tally.recordAll_of_nodup _ .empty hn

theorem nodup_files_survey (s : Storage) (scope : Scope) (station : Station) (c : Cabinet) :
    (survey s scope station c).1.tally.files.Nodup := by
  rw [tally_survey_eq, Tally.files, map_path_notes]
  exact nodup_paths_recorded s scope station c

/-- A survey records the visible files that are not too deep, eligible and readable, in the order of
their lines and each of them once; without analysis it records nothing. -/
theorem recorded_files (s : Storage) (scope : Scope) (station : Station) (c : Cabinet) :
    let found := (survey s scope station c).1
    let shown := (marks s scope station c).filterMap (·.subject.asEntry)
    (marks s scope station c).map (·.line) = found.lines ∧
      (∀ trail, trail ∈ fileTrails shown ↔
        Visible s scope.root station.inherited station.dir trail ∧
          s.isDirectory (descend station.dir trail) = false) ∧
      found.tally.files =
        ((fileTrails shown).filter (records s scope station c)).map (descend station.dir) ∧
      found.tally.files.Nodup ∧
      (scope.analyze = true ∨ found.tally = Tally.empty) := by
  have hf : (survey s scope station c).1.tally.files =
      ((fileTrails (shownEntries s scope station)).filter (records s scope station c)).map
        (descend station.dir) := by
    have hp := map_path_notes s scope station c (fileTrails (shownEntries s scope station))
    rw [tally_survey, Tally.recordAll_of_nodup]
    · exact hp
    · exact (hp ▸ nodup_paths_recorded s scope station c : _)
  dsimp only
  rw [filterMap_entry_marks]
  refine ⟨map_line_marks s scope station c, ?_, hf, hf ▸ nodup_paths_recorded s scope station c, ?_⟩
  · intro trail
    rw [mem_fileTrails_iff, mem_shownEntries_iff]
  · cases ha : scope.analyze with
    | true => exact .inl rfl
    | false =>
      have hr : records s scope station c = fun _ => false := funext fun trail => by
        simp [records, ha]
      rw [hr, List.filter_false, List.map_nil] at hf
      exact .inr (List.map_eq_nil_iff.mp hf)

end Gazetteer.Survey

import Gazetteer.Disk
import Gazetteer.Language.Parse
import Gazetteer.Proofs.Survey.Difference
import Gazetteer.Proofs.Survey.Faults
import Gazetteer.Proofs.Survey.IgnoreFiles

/-! # Isolation of faults

One operation that fails on one path leaves the rest of a survey as it is. A directory that cannot
be listed loses its block to one line about the fault; a file that cannot be read, or that no table
can be made of, loses the lines about its symbols and its table; a file whose size cannot be told is
passed over as if it were not listed.
-/

namespace Gazetteer

namespace Survey

open Ignore Outline Gazetteer.Path

variable {s : Storage} {scope : Scope} {station : Station} {c : Cabinet} {root dir path : String}
  {inherited : Rules} {chain : List Location} {place : List String} {cause : Cause}

/-! ## A directory that cannot be listed -/

theorem alike_deny_list (hp : IsTrail place) :
    Alike s (s.deny .list (descend dir place) cause) dir (· = place) where
  home_eq := rfl
  directory?_eq _ _ := rfl
  size_eq _ _ := Storage.size_deny nofun
  names_eq _ ht hd := Storage.names_deny fun _ he => hd ((descend_inj ht.isTrail hp).mp he)
  rules_eq _ _ _ := Storage.ignoreRules_deny nofun

theorem underAll_notice (place : List String) (line : Line) :
    Mark.underAll place ⟨.notice [], line⟩ = ⟨.notice place, line⟩ := by
  induction place with
  | nil => rfl
  | cons name place ih =>
    have hu : Mark.underAll (name :: place) ⟨.notice [], line⟩ =
        (Mark.underAll place ⟨.notice [], line⟩).under name := rfl
    rw [hu, ih]
    rfl

theorem blockOf_fault (inner : String) (f : Fault) :
    blockOf s scope station c place inner [.fault f] = [⟨.notice place, faultLine inner f⟩] := by
  simp [blockOf, notedAll, noted, marksOfAll, marksOf, underAll_notice]

theorem listing_fault (he : Entered s scope.root station.inherited station.dir place) :
    let p := descend station.dir place
    let s' := s.deny .list p cause
    ∃ before block after inner tables lost tables', Heads station.indent place before inner ∧
      DifferWithin (·.subject.Within place) before block
        [⟨.notice place, faultLine inner ⟨cause, p⟩⟩] after (marks s scope station c)
        (marks s' scope station c) ∧
      DifferWithin (IsBelow p ·.path) tables lost [] tables' (survey s scope station c).1.tally
        (survey s' scope station c).1.tally := by
  intro p s'
  have hp : IsTrail place := by
    by_cases hne : place = []
    · rw [hne]
      exact List.forall_mem_nil _
    · exact (he.visible hne).isOpen.isTrail
  have hf : ∀ inherited chain,
      visible s' scope.root inherited chain p = [.fault ⟨cause, p⟩] := fun _ _ =>
    visible_of_error Storage.attempt_deny_self
  have hx : SameTexts s s' station.dir := fun t _ => Storage.text_deny nofun
  rcases survey_eq_or_differs (alike_deny_list hp) hx rfl hp c with
    ⟨-, -, hn⟩ | ⟨inherited', chain', before, after, inner, hh, hd, ht⟩
  · exact absurd he hn
  · rw [hf, blockOf_fault] at hd ht
    exact ⟨before, _, after, inner, _, _, _, hh, hd, ht⟩

/-! ## A file without a table -/

theorem tables_without (s : Storage) (scope : Scope) (active : Bool) (depth : Int) (dir : String)
    (c : Cabinet) (path : String) (trails : List (List String)) :
    (trails.map fun t => if descend dir t != path then tableAt s scope active depth dir c t
        else none).filterMap id =
      ((trails.map (tableAt s scope active depth dir c)).filterMap id).filter
        (·.path != path) := by
  rw [List.filterMap_map, List.filterMap_map, List.filter_filterMap]
  refine List.filterMap_congr fun t _ => ?_
  cases ht : tableAt s scope active depth dir c t with
  | none => simp [ht]
  | some table =>
    have hp := path_of_tableAt ht
    by_cases hd : descend dir t = path <;> simp [ht, hp, hd, Option.filter]

/-- If nothing comes of one file, the lines about its symbols and its table are missing. -/
theorem survey_without {s' : Storage} {c' : Cabinet}
    (hv : visibleBelow s' scope.root station.inherited station.dir =
      visibleBelow s scope.root station.inherited station.dir)
    (ht : ∀ t, tableAt s' scope scope.analyze station.depth station.dir c' t =
      if descend station.dir t != path then
        tableAt s scope scope.analyze station.depth station.dir c t else none) :
    marks s' scope station c' = (marks s scope station c).filter
        (fun m => m.subject.asSymbols.all fun t => descend station.dir t != path) ∧
      (survey s' scope station c').1.tally =
        (survey s scope station c).1.tally.filter (·.path != path) := by
  have hs : shownEntries s' scope station = shownEntries s scope station := by
    unfold shownEntries
    rw [hv]
  rw [marks_eq, marks_eq, tally_survey_eq, tally_survey_eq, hv, hs, funext ht]
  refine ⟨?_, tables_without ..⟩
  cases visibleBelow s scope.root station.inherited station.dir with
  | none => rfl
  | some branches =>
    exact marksOfAll_notedAll_omit (fun _ => rfl) _ (fun t => descend station.dir t != path) _ _

theorem visibleBelow_deny_read : visibleBelow (s.deny .read path cause) root inherited dir =
    visibleBelow s root inherited dir := by
  have ha : Alike s (s.deny .read path cause) dir fun _ => False :=
    ⟨rfl, fun _ _ => rfl, fun _ _ => Storage.size_deny nofun, fun _ _ _ => Storage.names_deny nofun,
      fun _ _ _ => Storage.ignoreRules_deny nofun⟩
  have hl : (s.deny .read path cause).location? dir = s.location? dir := rfl
  rw [visibleBelow_eq, visibleBelow_eq, hl]
  simp only [visible_congr ha]

theorem tableAt_deny_read {active : Bool} {depth : Int} (t : List String) :
    tableAt (s.deny .read path cause) scope active depth dir c t =
      if descend dir t != path then tableAt s scope active depth dir c t else none := by
  unfold tableAt
  by_cases hd : descend dir t = path
  · simp [hd, Storage.text_deny_self, Except.toOption]
  · simp [hd, Storage.text_deny fun _ => hd]

theorem tableAt_fail {active : Bool} {depth : Int} (t : List String) :
    tableAt s scope active depth dir (c.fail path) t =
      if descend dir t != path then tableAt s scope active depth dir c t else none := by
  unfold tableAt
  simp only [Cabinet.extract_fail]
  by_cases hd : descend dir t = path <;> simp [hd]

/-! ## A file that cannot be measured -/

theorem ignoreRules_deny_measure : (s.deny .measure path cause).ignoreRules dir =
    s.ignoreRules dir :=
  Storage.ignoreRules_deny nofun

theorem rulesIn_deny_measure : rulesIn (s.deny .measure path cause) root inherited dir =
    rulesIn s root inherited dir := by
  rw [rulesIn, rulesIn, ignoreRules_deny_measure]

theorem rulesBelow_deny_measure : rulesBelow (s.deny .measure path cause) inherited dir =
    rulesBelow s inherited dir := by
  rw [rulesBelow, rulesBelow, ignoreRules_deny_measure]

theorem home_deny : (s.deny .measure path cause).home = s.home := rfl

theorem home_unlist : (s.unlist path).home = s.home := rfl

section Measure

variable {name : String} (hd : s.isDirectory path = false)

include hd

theorem join_ne_of_directory {l : Location} (h : s.directory? (join dir name) = some l) :
    join dir name ≠ path := by
  rintro rfl
  obtain ⟨names, hf⟩ := Storage.directory?_eq_some_iff.mp h
  rw [isDirectory_of_find hf] at hd
  cases hd

theorem branchAt_deny_measure (hv : ∀ l, s.directory? (join dir name) = some l →
      chain.contains l = false →
      visible (s.deny .measure path cause) root (rulesBelow s inherited dir) (l :: chain)
          (join dir name) =
        visible (s.unlist path) root (rulesBelow s inherited dir) (l :: chain) (join dir name)) :
    branchAt (s.deny .measure path cause) root inherited chain dir name =
      if join dir name != path then branchAt (s.unlist path) root inherited chain dir name
      else none := by
  have hi : rulesIn (s.unlist path) root inherited dir = rulesIn s root inherited dir := by
    rw [rulesIn, rulesIn, Storage.ignoreRules_unlist]
  have hb : rulesBelow (s.unlist path) inherited dir = rulesBelow s inherited dir := by
    rw [rulesBelow, rulesBelow, Storage.ignoreRules_unlist]
  have hu : (s.unlist path).directory? (join dir name) = s.directory? (join dir name) :=
    Storage.directory?_unlist
  have hs : (s.deny .measure path cause).directory? (join dir name) =
      s.directory? (join dir name) := rfl
  cases hf : s.directory? (join dir name) with
  | none =>
    rw [branchAt_of_not_directory (hs.trans hf), branchAt_of_not_directory (hu.trans hf), hi,
      rulesIn_deny_measure]
    by_cases hp : join dir name = path
    · have he : (s.deny .measure path cause).size path = .error ⟨cause, path⟩ :=
        Storage.attempt_deny_self
      simp [visibleFile, hp, he]
    · rw [visibleFile, visibleFile, Storage.size_deny fun _ => hp, Storage.size_unlist,
        if_pos (bne_iff_ne.mpr hp), home_deny, home_unlist]
  | some l =>
    rw [branchAt_of_directory (hs.trans hf), branchAt_of_directory (hu.trans hf), hi, hb,
      rulesIn_deny_measure, rulesBelow_deny_measure, home_deny, home_unlist,
      if_pos (bne_iff_ne.mpr (join_ne_of_directory hd hf))]
    cases hc : chain.contains l with
    | true => rfl
    | false => rw [hv l hf hc]

/-- What is visible beside a file that cannot be measured is what is visible if it is not
listed. -/
theorem visible_deny_measure : visible (s.deny .measure path cause) root inherited chain dir =
    visible (s.unlist path) root inherited chain dir := by
  have hn : ∀ dir, (s.deny .measure path cause).names dir = s.names dir := fun _ =>
    Storage.names_deny nofun
  induction inherited, chain, dir using visible.induct (s.deny .measure path cause) root with
  | case1 inherited chain dir f h =>
    have hu : (s.unlist path).names dir = .error f := by
      rw [Storage.names_unlist, ← hn, h]
      rfl
    rw [visible_of_error h, visible_of_error hu]
  | case2 inherited chain dir names h ih =>
    have hu : (s.unlist path).names dir =
        .ok (names.filter fun name => join dir name != path) := by
      rw [Storage.names_unlist, ← hn, h]
      rfl
    rw [visible_of_names h, visible_of_names hu, List.filter_comm]
    refine Eq.trans (List.filterMap_congr fun name _ => branchAt_deny_measure hd fun l hl hc => ?_)
      List.filterMap_filter.symm
    obtain ⟨ns, hf⟩ := Storage.directory?_eq_some_iff.mp hl
    exact ih name l ns hf (Bool.eq_false_iff.mp hc)

theorem entries_branchAt_deny_measure (hv : ∀ l, s.directory? (join dir name) = some l →
      chain.contains l = false →
      entriesOfAll (visible (s.deny .measure path cause) root (rulesBelow s inherited dir)
          (l :: chain) (join dir name)) =
        (entriesOfAll (visible s root (rulesBelow s inherited dir) (l :: chain)
          (join dir name))).filter fun e => descend (join dir name) e.1 != path) :
    (branchAt (s.deny .measure path cause) root inherited chain dir name).toList.flatMap
        entriesOf =
      ((branchAt s root inherited chain dir name).toList.flatMap entriesOf).filter
        fun e => descend dir e.1 != path := by
  have hs : (s.deny .measure path cause).directory? (join dir name) =
      s.directory? (join dir name) := rfl
  cases hf : s.directory? (join dir name) with
  | none =>
    rw [branchAt_of_not_directory (hs.trans hf), branchAt_of_not_directory hf,
      rulesIn_deny_measure, visibleFile, visibleFile, home_deny]
    split
    · rfl
    · by_cases hp : join dir name = path
      · have he : (s.deny .measure path cause).size path = .error ⟨cause, path⟩ :=
          Storage.attempt_deny_self
        rw [hp, he]
        cases s.size path with
        | error f => rfl
        | ok size => simp [entriesOf, hp]
      · rw [Storage.size_deny fun _ => hp]
        cases s.size (join dir name) with
        | error f => rfl
        | ok size => simp [entriesOf, List.filter_cons, hp]
  | some l =>
    have hp := join_ne_of_directory hd hf
    rw [branchAt_of_directory (hs.trans hf), branchAt_of_directory hf, rulesIn_deny_measure,
      rulesBelow_deny_measure, home_deny]
    split
    · rfl
    · cases hc : chain.contains l with
      | true => simp [entriesOf, List.filter_cons, hp]
      | false =>
        have hv := hv l hf hc
        simp [entriesOf, hv, hp, List.filter_cons, List.filter_map, Function.comp_def]

theorem entries_deny_measure :
    entriesOfAll (visible (s.deny .measure path cause) root inherited chain dir) =
      (entriesOfAll (visible s root inherited chain dir)).filter
        fun e => descend dir e.1 != path := by
  have hn : ∀ dir, (s.deny .measure path cause).names dir = s.names dir := fun _ =>
    Storage.names_deny nofun
  induction inherited, chain, dir using visible.induct s root with
  | case1 inherited chain dir f h =>
    rw [visible_of_error h, visible_of_error ((hn dir).trans h)]
    rfl
  | case2 inherited chain dir names h ih =>
    rw [visible_of_names h, visible_of_names ((hn dir).trans h)]
    simp only [entriesOfAll_eq_flatMap, List.filterMap_eq_flatMap_toList, List.flatMap_assoc]
    rw [List.filter_flatMap]
    refine List.flatMap_congr fun name _ => entries_branchAt_deny_measure hd fun l hl hc => ?_
    obtain ⟨ns, hf⟩ := Storage.directory?_eq_some_iff.mp hl
    exact ih name l ns hf (Bool.eq_false_iff.mp hc)

end Measure

/-- The findings depend on what is visible and on the tables of the files. -/
theorem findings_congr {s' : Storage} {c' : Cabinet}
    (hv : visibleBelow s' scope.root station.inherited station.dir =
      visibleBelow s scope.root station.inherited station.dir)
    (ht : ∀ t, tableAt s' scope scope.analyze station.depth station.dir c' t =
      tableAt s scope scope.analyze station.depth station.dir c t) :
    (survey s' scope station c').1 = (survey s scope station c).1 := by
  unfold survey
  rw [hv]
  cases visibleBelow s scope.root station.inherited station.dir with
  | none => rfl
  | some branches => simp only [annotateAll_eq_notedAll, funext ht]

theorem fileTrails_filter (q : List String → Bool) (es : List (List String × Bool)) :
    fileTrails (es.filter fun e => q e.1) = (fileTrails es).filter q := by
  simp only [fileTrails, List.filter_map, List.filter_filter, Function.comp_def, Bool.and_comm]

theorem measuring_fault (hd : s.isDirectory path = false) :
    let s' := s.deny .measure path cause
    (survey s' scope station c).1 = (survey (s.unlist path) scope station c).1 ∧
      shownEntries s' scope station = (shownEntries s scope station).filter
        (fun e => descend station.dir e.1 != path) ∧
      (survey s' scope station c).1.tally =
        (survey s scope station c).1.tally.filter (·.path != path) := by
  intro s'
  have hl : s'.location? station.dir = s.location? station.dir := rfl
  have hv : visibleBelow s' scope.root station.inherited station.dir =
      visibleBelow (s.unlist path) scope.root station.inherited station.dir := by
    rw [visibleBelow_eq, visibleBelow_eq, hl, Storage.location?_unlist]
    simp only [s', visible_deny_measure hd]
  have ht : ∀ t, tableAt s' scope scope.analyze station.depth station.dir c t =
      tableAt s scope scope.analyze station.depth station.dir c t := fun t =>
    tableAt_of_text (Storage.text_deny nofun)
  have hu : ∀ t, tableAt (s.unlist path) scope scope.analyze station.depth station.dir c t =
      tableAt s scope scope.analyze station.depth station.dir c t := fun t =>
    tableAt_of_text Storage.text_unlist
  have he : shownEntries s' scope station = (shownEntries s scope station).filter
      fun e => descend station.dir e.1 != path := by
    unfold shownEntries
    rw [visibleBelow_eq, visibleBelow_eq, hl]
    cases s.location? station.dir with
    | none => rfl
    | some l => exact entries_deny_measure hd
  refine ⟨findings_congr hv fun t => (ht t).trans (hu t).symm, he, ?_⟩
  rw [tally_survey_eq, tally_survey_eq, he, fileTrails_filter (descend station.dir · != path),
    funext ht, ← tables_without, List.filterMap_map, List.filterMap_map, List.filterMap_filter]
  refine List.filterMap_congr fun t _ => ?_
  rfl

/-- A fault changes what it must and nothing else. If a directory that is entered cannot be listed,
its block becomes the line about the fault, and the tables below it are lost. If a file cannot be
read, or no table can be made of it, the lines about its symbols and its table are missing. If
something other than a directory cannot be measured, the findings are those of a survey in which it
is not listed, with the other entries and tables as before. -/
theorem fault_isolated (s : Storage) (scope : Scope) (station : Station) (c : Cabinet)
    (cause : Cause) :
    (∀ s' c', (marks s' scope station c').map (·.line) = (survey s' scope station c').1.lines) ∧
    (∀ place, Entered s scope.root station.inherited station.dir place →
      let p := descend station.dir place
      let s' := s.deny .list p cause
      ∃ before block after inner tables lost tables', Heads station.indent place before inner ∧
        DifferWithin (·.subject.Within place) before block
          [⟨.notice place, faultLine inner ⟨cause, p⟩⟩] after (marks s scope station c)
          (marks s' scope station c) ∧
        DifferWithin (IsBelow p ·.path) tables lost [] tables' (survey s scope station c).1.tally
          (survey s' scope station c).1.tally) ∧
    (∀ path, ∀ run ∈ [(s.deny .read path cause, c), (s, c.fail path)],
      marks run.1 scope station run.2 = (marks s scope station c).filter
          (fun m => m.subject.asSymbols.all fun t => descend station.dir t != path) ∧
        (survey run.1 scope station run.2).1.tally =
          (survey s scope station c).1.tally.filter (·.path != path)) ∧
    ∀ path, s.isDirectory path = false →
      let s' := s.deny .measure path cause
      (survey s' scope station c).1 = (survey (s.unlist path) scope station c).1 ∧
        shownEntries s' scope station = (shownEntries s scope station).filter
          (fun e => descend station.dir e.1 != path) ∧
        (survey s' scope station c).1.tally =
          (survey s scope station c).1.tally.filter (·.path != path) := by
  refine ⟨fun s' c' => map_line_marks s' scope station c', fun place he => listing_fault he, ?_,
    fun path hd => measuring_fault hd⟩
  intro path run hr
  rcases List.mem_cons.mp hr with rfl | hr
  · exact survey_without visibleBelow_deny_read fun t => tableAt_deny_read t
  · obtain rfl := List.mem_singleton.mp hr
    exact survey_without rfl fun t => tableAt_fail t

def nestedDisk : Disk where
  entries := [(["p"], .directory), (["p", "lib"], .directory), (["p", "lib", "a.py"], .file [])]
  locations_nodup := codeDisk.locations_nodup
  isName_of_mem := codeDisk.isName_of_mem

theorem entered_nestedDisk : Entered (nestedDisk.storage []) "/p" [] "/p" ["lib"] where
  isDirectory := by decide
  visible _ := by
    refine visible_singleton_iff.mpr ⟨⟨by decide, ⟨_, rfl, ?_⟩, by decide⟩,
      fun hd => absurd hd (by decide)⟩
    exact List.mem_mergeSort.mpr (by decide)
  new _ := by decide

theorem fault_isolated_nestedDisk :
    let s := nestedDisk.storage []
    let scope : Scope := { root := "/p", analyze := true }
    let station : Station := { dir := "/p" }
    let c := Cabinet.new .full
    let unlisted := s.deny .list "/p/lib" .denied
    let unmeasured := s.deny .measure "/p/lib/a.py" .denied
    (∃ before block after inner tables lost tables', Heads "" ["lib"] before inner ∧
      DifferWithin (·.subject.Within ["lib"]) before block
        [⟨.notice ["lib"], faultLine inner ⟨.denied, "/p/lib"⟩⟩] after (marks s scope station c)
        (marks unlisted scope station c) ∧
      DifferWithin (IsBelow "/p/lib" ·.path) tables lost [] tables'
        (survey s scope station c).1.tally (survey unlisted scope station c).1.tally) ∧
    (survey unmeasured scope station c).1 =
      (survey (s.unlist "/p/lib/a.py") scope station c).1 := by
  obtain ⟨-, hl, -, hm⟩ := fault_isolated (nestedDisk.storage [])
    { root := "/p", analyze := true } { dir := "/p" } (Cabinet.new .full) .denied
  exact ⟨hl ["lib"] entered_nestedDisk, (hm "/p/lib/a.py" (by decide)).1⟩

end Survey

end Gazetteer

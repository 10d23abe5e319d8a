import Gazetteer.Proofs.Survey.Agreement

/-! # Surveys that differ in one block

Two storages that differ in the names or rules of one directory alone are surveyed alike, except for
the lines in the block of that directory and the tables of the files below it.
-/

namespace Gazetteer.Survey

open Ignore Outline Gazetteer.Path

variable {s s' : Storage} {scope : Scope} {root dir name : String} {inherited : Rules}
  {chain : List Location} {place trail : List String} {station : Station}

/-! ## Directories that are entered -/

/-- A survey enters the directory it begins with, and those visible ones that are not the same as
one on the way. -/
structure Entered (s : Storage) (root : String) (inherited : Rules) (dir : String)
    (trail : List String) : Prop where
  isDirectory : s.isDirectory (descend dir trail) = true
  visible : trail ≠ [] → Visible s root inherited dir trail
  new : trail ≠ [] → s.location? (descend dir trail) ∉ stops s dir trail

theorem enters_of_leads {l : Location} (h : Leads s root inherited chain dir trail)
    (hd : s.directory? (descend dir trail) = some l) (hl : l ∉ chain)
    (hs : some l ∉ (stops s dir trail).tail) :
    Enters s root inherited chain dir trail := by
  induction h with
  | here hw => exact .deeper hw hd hl .here
  | @deeper _ chain dir name m names trail hw hf hm ht ih =>
    have hne : trail ≠ [] := by rintro rfl; cases ht
    rw [stops_cons hne, List.tail_cons, stops_eq_cons, location?_of_find hf, List.mem_cons,
      not_or] at hs
    refine .deeper hw (Storage.directory?_eq_some_iff.mpr ⟨names, hf⟩) hm (ih hd ?_ hs.2)
    rw [List.mem_cons, not_or]
    exact ⟨fun he => hs.1 (congrArg some he), hl⟩

theorem Entered.enters {l : Location} (h : Entered s root inherited dir trail)
    (hl : s.location? dir = some l) :
    Enters s root inherited [l] dir trail := by
  by_cases hne : trail = []
  · subst hne
    exact .here
  · have hv := h.visible hne
    have hnd := hv.entered
    have hnew := h.new hne
    obtain ⟨m, names, hf⟩ := find_of_isDirectory h.isDirectory
    rw [stops_eq_cons, hl, List.nodup_cons] at hnd
    rw [stops_eq_cons, hl, location?_of_find hf, List.mem_cons, not_or] at hnew
    have hw : Leads s root inherited [l] dir trail :=
      (leads_iff ⟨l, List.mem_singleton_self _, hl⟩).mpr ⟨hv, by simpa using hnd.1⟩
    refine enters_of_leads hw (Storage.directory?_eq_some_iff.mpr ⟨names, hf⟩) ?_ hnew.2
    rw [List.mem_singleton]
    exact fun he => hnew.1 (congrArg some he)

theorem Entered.exists_location (h : Entered s root inherited dir trail) :
    ∃ l, s.location? dir = some l := by
  by_cases hne : trail = []
  · subst hne
    obtain ⟨l, names, hf⟩ := find_of_isDirectory h.isDirectory
    exact ⟨l, location?_of_find hf⟩
  · obtain ⟨l, names, hf⟩ := (h.visible hne).find
    exact ⟨l, location?_of_find hf⟩

/-! ## Lines and tables -/

theorem visibleBelow_eq (s : Storage) (root : String) (inherited : Rules) (dir : String) :
    visibleBelow s root inherited dir =
      (s.location? dir).map fun l => visible s root inherited [l] dir := by
  unfold visibleBelow Storage.location?
  cases s.find dir <;> rfl

theorem marks_of_location {l : Location} (h : s.location? station.dir = some l) (c : Cabinet) :
    marks s scope station c = marksOfAll (describe scope.kinds) station.indent
      (notedAll (tableAt s scope scope.analyze station.depth station.dir c)
        (visible s scope.root station.inherited [l] station.dir)) := by
  rw [marks_eq, visibleBelow_eq, h]
  rfl

theorem marks_of_no_location (h : s.location? station.dir = none) (c : Cabinet) :
    marks s scope station c = [⟨.notice [], missingLine station.indent station.dir⟩] := by
  rw [marks_eq, visibleBelow_eq, h]
  rfl

/-- The table of the file that a line is about. -/
def tableOn (s : Storage) (scope : Scope) (station : Station) (c : Cabinet) (m : Mark) :
    Option SymbolTable :=
  m.subject.asEntry.bind fun e =>
    if e.2 then none else tableAt s scope scope.analyze station.depth station.dir c e.1

theorem tally_eq_filterMap (s : Storage) (scope : Scope) (station : Station) (c : Cabinet) :
    (survey s scope station c).1.tally =
      (marks s scope station c).filterMap (tableOn s scope station c) := by
  have hf : ∀ (es : List (List String × Bool)) (f : List String → Option SymbolTable),
      ((fileTrails es).map f).filterMap id = es.filterMap fun e => if e.2 then none else f e.1 := by
    intro es f
    rw [fileTrails, List.filterMap_map, List.filterMap_map, List.filterMap_filter]
    refine List.filterMap_congr fun e _ => ?_
    cases e.2 <;> rfl
  rw [tally_survey_eq, hf, ← filterMap_entry_marks s scope station c, List.filterMap_filterMap]
  rfl

theorem Leads.isOpen (h : Leads s root inherited chain dir trail) : IsOpen trail := by
  have hs : ∀ {inherited dir name}, Shown s root inherited dir name →
      isName name = true ∧ isHidden name = false := by
    intro inherited dir name hw
    obtain ⟨names, hn, hm⟩ := hw.listed
    obtain ⟨l, hf⟩ := find_of_names hn
    exact ⟨s.isName_of_mem hf hm, hw.unhidden⟩
  induction h with
  | here hw => exact isOpen_cons.mpr ⟨hs hw, nofun⟩
  | deeper hw _ _ _ ih => exact isOpen_cons.mpr ⟨hs hw, ih⟩

theorem isOpen_of_mem_visible {isDir : Bool}
    (h : (trail, isDir) ∈ entriesOfAll (visible s root inherited chain dir)) : IsOpen trail :=
  (mem_entriesOfAll_iff_leads.mp h).1.isOpen

theorem isOpen_of_mem_marks {c : Cabinet} {m : Mark} {isDir : Bool}
    (h : m ∈ marks s scope station c) (he : m.subject = .entry trail isDir) : IsOpen trail := by
  have hm : (trail, isDir) ∈ shownEntries s scope station := by
    rw [← filterMap_entry_marks s scope station c]
    exact List.mem_filterMap.mpr ⟨m, h, by rw [he]; rfl⟩
  exact ((mem_shownEntries_iff s scope station trail isDir).mp hm).1.isOpen

theorem path_of_tableAt {active : Bool} {depth : Int} {c : Cabinet} {trail : List String}
    {t : SymbolTable} (h : tableAt s scope active depth dir c trail = some t) :
    t.path = descend dir trail := by
  unfold tableAt at h
  split at h
  · obtain ⟨text, -, ht⟩ := Option.bind_eq_some_iff.mp h
    exact Cabinet.path_of_extract ht
  · cases h

theorem tableAt_of_text {active : Bool} {depth : Int} {c : Cabinet}
    (h : s'.text (descend dir trail) = s.text (descend dir trail)) :
    tableAt s' scope active depth dir c trail = tableAt s scope active depth dir c trail := by
  unfold tableAt
  rw [h]

abbrev SameTexts (s s' : Storage) (dir : String) : Prop :=
  ∀ t, IsOpen t → s'.text (descend dir t) = s.text (descend dir t)

theorem tableOn_eq_some_iff {c : Cabinet} {m : Mark} {t : SymbolTable} :
    tableOn s scope station c m = some t ↔ ∃ trail, m.subject = .entry trail false ∧
      tableAt s scope scope.analyze station.depth station.dir c trail = some t := by
  unfold tableOn
  cases m.subject with
  | entry trail isDir => cases isDir <;> simp
  | symbols trail => simp [Subject.asEntry]
  | notice trail => simp [Subject.asEntry]

theorem tally_sameTexts (h : SameTexts s s' station.dir) (c : Cabinet) :
    (survey s' scope station c).1.tally =
      (marks s' scope station c).filterMap (tableOn s scope station c) := by
  rw [tally_eq_filterMap]
  refine List.filterMap_congr fun m hm => Option.ext fun t => ?_
  rw [tableOn_eq_some_iff, tableOn_eq_some_iff]
  refine exists_congr fun trail => and_congr_right fun he => ?_
  rw [tableAt_of_text (h trail (isOpen_of_mem_marks hm he))]

theorem notedAll_sameTexts (h : SameTexts s s' dir) (active : Bool) (depth : Int) (c : Cabinet) :
    notedAll (tableAt s' scope active depth dir c) (visible s' root inherited chain dir) =
      notedAll (tableAt s scope active depth dir c) (visible s' root inherited chain dir) :=
  notedAll_congr _ fun t ht => tableAt_of_text (h t (isOpen_of_mem_visible ht))

/-! ## The block that differs -/

/-- The lines of the block of a directory, if that holds the given entries. -/
def blockOf (s : Storage) (scope : Scope) (station : Station) (c : Cabinet) (place : List String)
    (inner : String) (bs : List (Branch Unit)) : List Mark :=
  (marksOfAll (describe scope.kinds) inner (notedAll (fun t => tableAt s scope scope.analyze
    station.depth station.dir c (place ++ t)) bs)).map (Mark.underAll place)

theorem tally_differs (h : SameTexts s s' station.dir) (hp : IsTrail place) {c : Cabinet}
    {before old new after : List Mark}
    (hd : DifferWithin (·.subject.Within place) before old new after (marks s scope station c)
      (marks s' scope station c)) :
    let tables := List.filterMap (tableOn s scope station c)
    DifferWithin (IsBelow (descend station.dir place) ·.path) (tables before) (tables old)
      (tables new) (tables after) (survey s scope station c).1.tally
      (survey s' scope station c).1.tally := by
  rw [tally_eq_filterMap s, tally_sameTexts h]
  refine hd.filterMap fun m hm t ht => ?_
  obtain ⟨trail, he, ht⟩ := tableOn_eq_some_iff.mp ht
  have ho : IsOpen trail := by
    rcases List.mem_append.mp hm with hm | hm
    · exact isOpen_of_mem_marks hm he
    · exact isOpen_of_mem_marks hm he
  rw [path_of_tableAt ht, isBelow_descend_iff hp ho.isTrail, he]
  exact .rfl

/-- If two storages differ in one directory alone, either it is not entered and the surveys are the
same, or they are the same except for the block of that directory and the tables below it. -/
theorem survey_eq_or_differs (h : Alike s s' station.dir (· = place))
    (hx : SameTexts s s' station.dir)
    (hl : s'.location? station.dir = s.location? station.dir) (hp : IsTrail place) (c : Cabinet) :
    (marks s' scope station c = marks s scope station c ∧
        (survey s' scope station c).1.tally = (survey s scope station c).1.tally ∧
        ¬ Entered s scope.root station.inherited station.dir place) ∨
      ∃ inherited' chain' before after inner, Heads station.indent place before inner ∧
        let path := descend station.dir place
        let old := blockOf s scope station c place inner
          (visible s scope.root inherited' chain' path)
        let new := blockOf s scope station c place inner
          (visible s' scope.root inherited' chain' path)
        let tables := List.filterMap (tableOn s scope station c)
        DifferWithin (·.subject.Within place) before old new after (marks s scope station c)
            (marks s' scope station c) ∧
          DifferWithin (IsBelow path ·.path) (tables before) (tables old) (tables new)
            (tables after) (survey s scope station c).1.tally
            (survey s' scope station c).1.tally := by
  cases hs : s.location? station.dir with
  | none =>
    refine .inl ⟨?_, ?_, fun he => ?_⟩
    · rw [marks_of_no_location hs, marks_of_no_location (hl.trans hs)]
    · rw [tally_eq_filterMap s, tally_sameTexts hx, marks_of_no_location hs,
        marks_of_no_location (hl.trans hs)]
    · obtain ⟨l, he⟩ := he.exists_location
      rw [hs] at he
      cases he
  | some l =>
    have hm : marks s scope station c = _ := marks_of_location hs c
    have hm' : marks s' scope station c = _ := marks_of_location (hl.trans hs) c
    rw [notedAll_sameTexts hx] at hm'
    rcases visible_eq_or_replaced h with ⟨he, hn⟩ | ⟨inherited', chain', hr⟩
    · rw [he, ← hm] at hm'
      refine .inl ⟨hm', ?_, fun hw => hn (hw.enters hs)⟩
      rw [tally_eq_filterMap s, tally_sameTexts hx, hm']
    · obtain ⟨before, after, inner, hh, hd⟩ :=
        (hr.notedAll (tableAt s scope scope.analyze station.depth station.dir c)).differ
          (describe scope.kinds) station.indent
      rw [← hm, ← hm'] at hd
      exact .inr ⟨inherited', chain', before, after, inner, hh, hd, tally_differs hx hp hd⟩

end Gazetteer.Survey

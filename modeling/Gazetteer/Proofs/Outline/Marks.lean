import Gazetteer.Outline

/-! # Marks

The lines of an outline, each with what it tells about. Forgetting the marks gives back the lines,
and the marks of entries list the entries of the tree from top to bottom.
-/

namespace Gazetteer.Outline

/-- What a line tells about, by the names that lead there from where the outline begins. -/
inductive Subject where
  | entry (trail : List String) (isDir : Bool)
  /-- The symbols in a file. -/
  | symbols (trail : List String)
  /-- What stands in place of the entries of a directory. -/
  | notice (trail : List String)
  deriving DecidableEq

namespace Subject

def under (name : String) : Subject → Subject
  | entry trail isDir => entry (name :: trail) isDir
  | symbols trail => symbols (name :: trail)
  | notice trail => notice (name :: trail)

def asEntry : Subject → Option (List String × Bool)
  | entry trail isDir => some (trail, isDir)
  | symbols _ | notice _ => none

@[simp] theorem asEntry_entry (trail : List String) (isDir : Bool) :
    (entry trail isDir).asEntry = some (trail, isDir) := rfl

theorem asEntry_eq_some_iff {subject : Subject} {e : List String × Bool} :
    subject.asEntry = some e ↔ subject = entry e.1 e.2 := by
  cases subject <;> simp [asEntry, Prod.ext_iff]

@[simp] theorem asEntry_under (name : String) (subject : Subject) :
    (subject.under name).asEntry = subject.asEntry.map (Prod.map (name :: ·) id) := by
  cases subject <;> rfl

end Subject

structure Mark where
  subject : Subject
  line : Line

def Mark.under (name : String) (m : Mark) : Mark := ⟨m.subject.under name, m.line⟩

variable {α : Type}

mutual

def marksOf (describe : String → α → List String) (indent : String) (last : Bool) :
    Branch α → List Mark
  | .file name size note =>
    ⟨.entry [name] false, fileLine indent last name size⟩ ::
      (describe (below indent last) note).map fun text => ⟨.symbols [name], .note text⟩
  | .folder name inside =>
    ⟨.entry [name] true, folderLine indent last name⟩ ::
      (marksOfAll describe (below indent last) inside).map (.under name)
  | .loop name => [⟨.entry [name] true, folderLine indent last name⟩]
  | .fault f => [⟨.notice [], faultLine indent f⟩]

def marksOfAll (describe : String → α → List String) (indent : String) :
    List (Branch α) → List Mark
  | [] => []
  | b :: bs => marksOf describe indent bs.isEmpty b ++ marksOfAll describe indent bs

end

mutual

/-- The trails to one entry and to those below it, each with whether a directory is there. -/
def entriesOf : Branch α → List (List String × Bool)
  | .file name _ _ => [([name], false)]
  | .folder name inside =>
    ([name], true) :: (entriesOfAll inside).map (Prod.map (name :: ·) id)
  | .loop name => [([name], true)]
  | .fault _ => []

def entriesOfAll : List (Branch α) → List (List String × Bool)
  | [] => []
  | b :: bs => entriesOf b ++ entriesOfAll bs

end

section Lemmas

variable (describe : String → α → List String)

mutual

theorem map_line_marksOf (indent : String) (last : Bool) (b : Branch α) :
    (marksOf describe indent last b).map (·.line) = linesOf describe indent last b := by
  cases b with
  | file name size note => simp [marksOf, linesOf]
  | folder name inside =>
    have ih := map_line_marksOfAll (below indent last) inside
    simpa [marksOf, linesOf, Mark.under, Function.comp_def] using ih
  | loop name => rfl
  | fault f => rfl

theorem map_line_marksOfAll (indent : String) (bs : List (Branch α)) :
    (marksOfAll describe indent bs).map (·.line) = linesOfAll describe indent bs := by
  cases bs with
  | nil => rfl
  | cons b bs =>
    rw [marksOfAll, List.map_append, map_line_marksOf, map_line_marksOfAll, linesOfAll]

end

mutual

theorem filterMap_entry_marksOf (indent : String) (last : Bool) (b : Branch α) :
    (marksOf describe indent last b).filterMap (·.subject.asEntry) = entriesOf b := by
  cases b with
  | file name size note =>
    simp only [marksOf, entriesOf, List.filterMap_cons, List.filterMap_map]
    simp [Subject.asEntry, Function.comp_def]
  | folder name inside =>
    have ih := filterMap_entry_marksOfAll (below indent last) inside
    simp only [marksOf, entriesOf, ← ih, List.map_filterMap, List.filterMap_cons,
      List.filterMap_map, Subject.asEntry_entry]
    simp only [Mark.under, Function.comp_def, Subject.asEntry_under]
  | loop name => rfl
  | fault f => rfl

theorem filterMap_entry_marksOfAll (indent : String) (bs : List (Branch α)) :
    (marksOfAll describe indent bs).filterMap (·.subject.asEntry) = entriesOfAll bs := by
  cases bs with
  | nil => rfl
  | cons b bs =>
    rw [marksOfAll, List.filterMap_append, filterMap_entry_marksOf,
      filterMap_entry_marksOfAll, entriesOfAll]

end

end Lemmas

theorem entriesOfAll_eq_flatMap (bs : List (Branch α)) :
    entriesOfAll bs = bs.flatMap entriesOf := by
  induction bs with
  | nil => rfl
  | cons b bs ih => rw [entriesOfAll, ih, List.flatMap_cons]

theorem nil_not_mem_trails (bs : List (Branch α)) : [] ∉ (entriesOfAll bs).map (·.1) := by
  intro h
  obtain ⟨e, he, hn⟩ := List.mem_map.mp h
  rw [entriesOfAll_eq_flatMap] at he
  obtain ⟨b, -, he⟩ := List.mem_flatMap.mp he
  cases b with
  | file name size note => simp_all [entriesOf]
  | folder name inside =>
    rcases List.mem_cons.mp he with rfl | he
    · cases hn
    · obtain ⟨e, -, rfl⟩ := List.mem_map.mp he
      cases hn
  | loop name => simp_all [entriesOf]
  | fault f => cases he

end Gazetteer.Outline

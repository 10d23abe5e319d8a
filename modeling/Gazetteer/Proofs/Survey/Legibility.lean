import Gazetteer.Disk
import Gazetteer.Language.Parse
import Gazetteer.Proofs.Outline.Reading
import Gazetteer.Proofs.Survey.Record

/-! # Surveys can be read back

The text of a survey that reads no files tells all that there is to see: which entries are visible
and how they lie in each other, what they are called and how large the files are. Names may look
like parts of an outline themselves; they just have to stand on one line.
-/

namespace Gazetteer

/-- Directories can be listed, and the names of their entries stand on one line each. -/
structure Storage.Legible (s : Storage) : Prop where
  listed : ∀ path, s.isDirectory path = true → ∃ names, s.names path = .ok names
  oneLine : ∀ path names, s.names path = .ok names → ∀ name ∈ names, '\n' ∉ name.toList

namespace Survey

open Ignore Outline Gazetteer.Path

variable {s : Storage} {scope : Scope} {root dir : String} {inherited : Rules}
  {chain : List Location}

/-! ## Lines without notes -/

theorem isEmpty_annotateAll (active : Bool) (depth : Int) (bs : List (Branch Unit)) (c : Cabinet) :
    (annotateAll s scope active depth dir bs c).1.isEmpty = bs.isEmpty := by
  cases bs <;> rfl

mutual

theorem linesOf_annotate_inactive (kinds : List SymbolKind) (indent : String) (last : Bool)
    (depth : Int) (dir : String) (b : Branch Unit) (c : Cabinet) :
    linesOf (describe kinds) indent last (annotate s scope false depth dir b c).1 =
      linesOf silent indent last b := by
  cases b with
  | file name size note => rfl
  | folder name inside =>
    have ih := linesOfAll_annotateAll_inactive kinds (below indent last) (depth + 1)
      (join dir name) inside c
    simp only [annotate, linesOf]
    exact congrArg _ ih
  | loop name => rfl
  | fault f => rfl

theorem linesOfAll_annotateAll_inactive (kinds : List SymbolKind) (indent : String) (depth : Int)
    (dir : String) (bs : List (Branch Unit)) (c : Cabinet) :
    linesOfAll (describe kinds) indent (annotateAll s scope false depth dir bs c).1 =
      linesOfAll silent indent bs := by
  cases bs with
  | nil => rfl
  | cons b bs =>
    simp only [annotateAll, linesOfAll, isEmpty_annotateAll]
    rw [linesOf_annotate_inactive, linesOfAll_annotateAll_inactive]

end

/-! ## What a text tells -/

theorem legible_of_mem_visible (h : s.Legible) (hd : s.isDirectory dir = true) :
    ∀ b ∈ visible s root inherited chain dir, Legible b := by
  induction inherited, chain, dir using visible.induct s root with
  | case1 inherited chain dir f hn =>
    obtain ⟨names, hl⟩ := h.listed dir hd
    rw [hn] at hl
    cases hl
  | case2 inherited chain dir names hn ih =>
    rw [visible_of_names hn]
    intro b hb
    obtain ⟨name, hm, hb⟩ := List.mem_filterMap.mp hb
    have hl : '\n' ∉ name.toList := h.oneLine dir names hn name (List.mem_filter.mp hm).1
    rcases branchAt_cases hb with ⟨size, rfl⟩ | rfl | ⟨l, ns, hf, hc, rfl⟩
    · exact .file hl
    · exact .loop hl
    · exact .folder hl (ih name l ns hf hc (isDirectory_of_find hf))

/-- What there is to see below a root; none if it leads nowhere. -/
def forest (s : Storage) (root : String) : Option (List Shape) :=
  (visibleBelow s root [] root).map shapesOfAll

structure Plain (s : Storage) (scope : Scope) : Prop where
  legible : s.Legible
  directory : s.isDirectory scope.root = true
  inactive : scope.analyze = false

theorem forest_eq_some_readForest (h : Plain s scope) (c : Cabinet) :
    forest s scope.root = some (readForest (survey s scope { dir := scope.root } c).1.text) := by
  obtain ⟨l, names, hf⟩ := find_of_isDirectory h.directory
  have hb : ∀ b ∈ visible s scope.root [] [l] scope.root, Legible b :=
    legible_of_mem_visible h.legible h.directory
  have ht : (survey s scope { dir := scope.root } c).1.text =
      Outline.text (linesOfAll silent "" (visible s scope.root [] [l] scope.root)) := by
    simp [survey, visibleBelow, hf, Findings.text, Findings.ofBranches, h.inactive,
      linesOfAll_annotateAll_inactive]
  rw [ht, readForest_text hb, forest, visibleBelow, hf]
  rfl

/-- What there is to see can be read off the text of a survey, so that surveys of what looks
different have different texts. -/
theorem text_tells_forest (h : Plain s scope) (c : Cabinet) :
    forest s scope.root = some (readForest (survey s scope { dir := scope.root } c).1.text) ∧
    ∀ (s' : Storage) (scope' : Scope) (c' : Cabinet), Plain s' scope' →
      forest s' scope'.root ≠ forest s scope.root →
        (survey s' scope' { dir := scope'.root } c').1.text ≠
          (survey s scope { dir := scope.root } c).1.text := by
  have hr := forest_eq_some_readForest h c
  refine ⟨hr, fun s' scope' c' h' hne ht => hne ?_⟩
  rw [forest_eq_some_readForest h' c', ht, hr]

theorem legible_storage (d : Disk) {denied : List (Operation × String)}
    (hd : ∀ path, (Operation.list, path) ∉ denied)
    (hn : ∀ e ∈ d.entries, ∀ name ∈ e.1, '\n' ∉ name.toList) : (d.storage denied).Legible where
  listed path h := by
    obtain ⟨l, names, hf⟩ := find_of_isDirectory h
    have ht : (d.storage denied).trouble .list path = none := by simp [Disk.storage, hd]
    exact ⟨names, by simp [Storage.names, Storage.attempt, ht, hf]⟩
  oneLine path names h name hm := by
    obtain ⟨l, hf⟩ := find_of_names h
    rw [Disk.names_of_find hf] at hm
    obtain ⟨e, he, hl⟩ := List.mem_filterMap.mp (List.mem_mergeSort.mp hm)
    exact hn e he name (by simp [Disk.nameIn?_eq_some_iff.mp hl])

/-- Names that look like parts of an outline. -/
def misleadingDisk : Disk where
  entries := [(["│   "], .directory), (["│   ", "└── a (3 KB)"], .file []),
    (["│   ", "├── up"], .link "/"), (["a (1 KB)"], .directory)]
  locations_nodup := by decide
  isName_of_mem := by decide

theorem text_tells_forest_misleadingDisk :
    let s := misleadingDisk.storage []
    let scope : Scope := { root := "/" }
    let c := Cabinet.new .full
    Plain s scope ∧ forest s "/" = some (readForest (survey s scope { dir := "/" } c).1.text) ∧
    ∀ (s' : Storage) (scope' : Scope) (c' : Cabinet), Plain s' scope' →
      forest s' scope'.root ≠ forest s "/" →
        (survey s' scope' { dir := scope'.root } c').1.text ≠
          (survey s scope { dir := "/" } c).1.text := by
  have h : Plain (misleadingDisk.storage []) { root := "/" } :=
    ⟨legible_storage misleadingDisk (by simp) (by decide), by decide, rfl⟩
  exact ⟨h, text_tells_forest h (Cabinet.new .full)⟩

end Survey

end Gazetteer

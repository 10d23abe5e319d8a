import Gazetteer.Language.Parse
import Gazetteer.Proofs.Disk.LinkFree
import Gazetteer.Proofs.Survey.Difference

/-! # The reach of an ignore file

On a disk without links, the ignore file of a directory makes a difference to what a survey finds
below that directory and to nothing else. Lines that are added to it hide entries and show none.
-/

namespace Gazetteer

def Disk.linesAt (d : Disk) (l : Location) : List String :=
  match d.occupant? l with
  | some (.file bytes) => Text.linesOfBytes bytes
  | _ => []

namespace Survey

open Ignore Outline Gazetteer.Path

/-! ## Storages that differ in the names of directories -/

/-- A path leads to the same in two storages, apart from the names in a directory. -/
def FindsAlike (s s' : Storage) (path : String) : Prop :=
  s'.find path = s.find path ∨
    ∃ l names names', s.find path = .ok ⟨l, .directory names⟩ ∧
      s'.find path = .ok ⟨l, .directory names'⟩

namespace FindsAlike

variable {s s' : Storage} {path : String}

theorem directory?_eq (h : FindsAlike s s' path) : s'.directory? path = s.directory? path := by
  unfold Storage.directory?
  rcases h with h | ⟨l, names, names', h, h'⟩
  · rw [h]
  · rw [h, h']

theorem location?_eq (h : FindsAlike s s' path) : s'.location? path = s.location? path := by
  rcases h with h | ⟨l, names, names', h, h'⟩
  · rw [Storage.location?, Storage.location?, h]
  · rw [location?_of_find h, location?_of_find h']

theorem size_eq (h : FindsAlike s s' path) (ht : s'.trouble = s.trouble) :
    s'.size path = s.size path := by
  unfold Storage.size Storage.attempt
  rcases h with h | ⟨l, names, names', h, h'⟩
  · rw [ht, h]
  · rw [ht, h, h']

theorem text_eq (h : FindsAlike s s' path) (ht : s'.trouble = s.trouble) :
    s'.text path = s.text path := by
  unfold Storage.text
  rcases h with h | ⟨l, names, names', h, h'⟩
  · rw [ht, h]
  · rw [ht, h, h']

theorem ignoreRules_eq (h : FindsAlike s s' path) (ht : s'.trouble = s.trouble) :
    s'.ignoreRules path = s.ignoreRules path := by
  unfold Storage.ignoreRules
  rcases h with h | ⟨l, names, names', h, h'⟩
  · rw [ht, h]
  · rw [h, h']

end FindsAlike

/-! ## An ignore file that differs -/

section IgnoreFile

variable {d d' : Disk} {denied : List (Operation × String)} {dir : String} {l : Location}
  {place trail : List String}

theorem mem_linesAt_iff {m : Location} {line : String} : line ∈ d.linesAt m ↔
    ∃ bytes, d.occupant? m = some (.file bytes) ∧ line ∈ Text.linesOfBytes bytes := by
  unfold Disk.linesAt
  split
  · next bytes ho => simp [ho]
  · next ho => simpa using fun bytes hb => absurd hb (ho bytes)

theorem mem_ignoreRules_iff {path : String} {rule : Rule} :
    rule ∈ (d.storage denied).ignoreRules path ↔ (d.storage denied).trouble .consult path = none ∧
      ∃ m, d.locate path = .ok m ∧ rule ∈ Rules.ofLines (d.linesAt m) (parent path) := by
  unfold Storage.ignoreRules
  split
  · next m bytes hfind =>
    obtain ⟨hloc, ho⟩ := Disk.find_file_iff.mp hfind
    have hlines : d.linesAt m = Text.linesOfBytes bytes := by rw [Disk.linesAt, ho]
    rw [← hlines]
    cases (d.storage denied).trouble .consult path with
    | some cause => exact ⟨nofun, nofun⟩
    | none =>
      refine ⟨fun h => ⟨rfl, m, hloc, h⟩, ?_⟩
      rintro ⟨-, m', hloc', h⟩
      rw [hloc] at hloc'
      cases hloc'
      exact h
  · next hfind =>
    refine ⟨nofun, ?_⟩
    rintro ⟨-, m, hloc, h⟩
    obtain ⟨line, hline, -⟩ := List.mem_filterMap.mp h
    obtain ⟨bytes, ho, -⟩ := mem_linesAt_iff.mp hline
    exact (hfind m bytes (Disk.find_file_iff.mpr ⟨hloc, ho⟩)).elim

theorem isHidden_ignoreFile : isHidden Storage.ignoreFile = true := by decide

theorem isName_ignoreFile : isName Storage.ignoreFile = true := by decide

theorem ne_ignoreFile (l : Location) (place : List String) :
    l ≠ l ++ place ++ [Storage.ignoreFile] := by
  simp

theorem concat_ne_ignoreFile {t : List String} (hne : t ≠ place) (name : String) :
    l ++ t ++ [name] ≠ l ++ place ++ [Storage.ignoreFile] := fun he =>
  hne (List.append_cancel_left (List.append_inj' he rfl).1)

theorem IsOpen.ne_ignoreFile {t v : List String} (ht : IsOpen t) (hv : v <+: t) :
    l ++ v ≠ l ++ place ++ [Storage.ignoreFile] := by
  rw [List.append_assoc, ne_eq, List.append_cancel_left_eq]
  rintro rfl
  have hh := (ht Storage.ignoreFile (hv.subset (by simp))).2
  rw [isHidden_ignoreFile] at hh
  cases hh

theorem home_storage (h : d'.home = d.home) :
    (d'.storage denied).home = (d.storage denied).home := by
  rw [Disk.storage, h]
  rfl

variable (hs : d.SameBut d' (l ++ place ++ [Storage.ignoreFile])) (hf : d.LinkFree)
  (hl : d.locate dir = .ok l)

include hs hf hl

theorem findsAlike_of_sameBut (ht : IsTrail trail)
    (hv : ∀ v, v <+: trail → l ++ v ≠ l ++ place ++ [Storage.ignoreFile]) :
    FindsAlike (d.storage denied) (d'.storage denied) (descend dir trail) := by
  rcases hs.find_cases hf hl (ne_ignoreFile l place) ht hv with h | ⟨h, h'⟩
  · exact .inl h
  · exact .inr ⟨_, _, _, h, h'⟩

theorem findsAlike_of_open (ht : IsOpen trail) :
    FindsAlike (d.storage denied) (d'.storage denied) (descend dir trail) :=
  findsAlike_of_sameBut hs hf hl ht.isTrail fun _ => ht.ne_ignoreFile

theorem names_of_open (ht : IsOpen trail) (hne : trail ≠ place) :
    (d'.storage denied).names (descend dir trail) =
      (d.storage denied).names (descend dir trail) := by
  have hfind : (d'.storage denied).find (descend dir trail) =
      (d.storage denied).find (descend dir trail) :=
    hs.find_eq hf hl (ne_ignoreFile l place) ht.isTrail (fun _ => ht.ne_ignoreFile)
      (concat_ne_ignoreFile hne)
  rw [Storage.names, Storage.names, Storage.attempt, Storage.attempt, hfind]
  rfl

theorem rules_of_open (ht : IsOpen trail) (hne : trail ≠ place) :
    (d'.storage denied).ignoreRules (join (descend dir trail) Storage.ignoreFile) =
      (d.storage denied).ignoreRules (join (descend dir trail) Storage.ignoreFile) := by
  rw [← descend_concat]
  refine (findsAlike_of_sameBut hs hf hl ?_ fun v hv => ?_).ignoreRules_eq rfl
  · exact List.forall_mem_append.mpr ⟨ht.isTrail, by simp [isName_ignoreFile]⟩
  · rcases List.prefix_concat_iff.mp hv with rfl | hv
    · rw [← List.append_assoc]
      exact concat_ne_ignoreFile hne _
    · exact ht.ne_ignoreFile hv

theorem alike_of_sameBut : Alike (d.storage denied) (d'.storage denied) dir (· = place) where
  home_eq := home_storage hs.home
  directory?_eq _ ht := (findsAlike_of_open hs hf hl ht).directory?_eq
  size_eq _ ht := (findsAlike_of_open hs hf hl ht).size_eq rfl
  names_eq _ ht hne := names_of_open hs hf hl ht hne
  rules_eq _ ht hne := rules_of_open hs hf hl ht hne

theorem sameTexts_of_sameBut : SameTexts (d.storage denied) (d'.storage denied) dir :=
  fun _ ht => (findsAlike_of_open hs hf hl ht).text_eq rfl

/-! ## Lines that are added -/

theorem listed_of_listed {t : List String} {name : String} (ht : IsOpen t)
    (hh : isHidden name = false)
    (hm : ∃ names, (d'.storage denied).names (descend dir t) = .ok names ∧ name ∈ names) :
    ∃ names, (d.storage denied).names (descend dir t) = .ok names ∧ name ∈ names := by
  obtain ⟨names, hn, hm⟩ := hm
  obtain ⟨m, hfind⟩ := find_of_names hn
  have htr : (d'.storage denied).trouble .list (descend dir t) = none := trouble_of_names hn
  rcases hs.find_cases hf hl (ne_ignoreFile l place) ht.isTrail (fun _ => ht.ne_ignoreFile) with
    h | ⟨h, h'⟩
  · have he : (d.storage denied).find (descend dir t) = .ok ⟨m, .directory names⟩ :=
      h.symm.trans hfind
    exact ⟨names, names_of_find htr he, hm⟩
  · obtain rfl : names = d'.names (l ++ t) := by
      have he := h'.symm.trans hfind
      cases he
      rfl
    have hne : l ++ t ++ [name] ≠ l ++ place ++ [Storage.ignoreFile] := by
      intro he
      have hi : name = Storage.ignoreFile := by simpa using (List.append_inj' he rfl).2
      rw [hi, isHidden_ignoreFile] at hh
      cases hh
    refine ⟨d.names (l ++ t), names_of_find htr h, ?_⟩
    rw [Disk.mem_names_iff] at hm ⊢
    rwa [← hs.elsewhere _ hne]

/-- Lines that are added to the ignore file add rules. -/
theorem rules_subset (hp : IsTrail place) (hsub : d.linesAt (l ++ place ++ [Storage.ignoreFile]) ⊆
      d'.linesAt (l ++ place ++ [Storage.ignoreFile])) :
    (d.storage denied).ignoreRules (join (descend dir place) Storage.ignoreFile) ⊆
      (d'.storage denied).ignoreRules (join (descend dir place) Storage.ignoreFile) := by
  have ht : IsTrail (place ++ [Storage.ignoreFile]) :=
    List.forall_mem_append.mpr ⟨hp, by simp [isName_ignoreFile]⟩
  rw [← descend_concat]
  intro rule hr
  obtain ⟨hopen, m, hloc, hr⟩ := mem_ignoreRules_iff.mp hr
  have hm : m = l ++ place ++ [Storage.ignoreFile] := by
    rw [Disk.location_of_descend hf hl ht hloc, List.append_assoc]
  subst hm
  obtain ⟨line, hline, hrule⟩ := List.mem_filterMap.mp hr
  obtain ⟨bytes, ho, -⟩ := mem_linesAt_iff.mp hline
  obtain ⟨bytes', ho', -⟩ := mem_linesAt_iff.mp (hsub hline)
  have hloc' := hs.locate_descend_of_files hf hl (ne_ignoreFile l place) ht ho ho'
  exact mem_ignoreRules_iff.mpr
    ⟨hopen, _, hloc'.trans hloc, List.mem_filterMap.mpr ⟨line, hsub hline, hrule⟩⟩

end IgnoreFile

theorem ignores_mono {rules rules' : Rules} (h : rules ⊆ rules') {home path : String}
    {isDir : Bool} (hi : rules'.ignores home path isDir = false) :
    rules.ignores home path isDir = false := by
  simp only [Rules.ignores, List.any_eq_false] at hi ⊢
  exact fun r hr => hi r (h hr)

theorem isDirectory_eq_isSome (s : Storage) (path : String) :
    s.isDirectory path = (s.directory? path).isSome := by
  unfold Storage.isDirectory Storage.directory?
  split <;> simp_all

/-- An entry that is visible where there are more rules and no other names is visible where there
are fewer. -/
theorem Visible.of_more_rules {s s' : Storage} {root dir : String} {inherited : Rules}
    {trail : List String} (h : ∀ t, IsOpen t → FindsAlike s s' (descend dir t))
    (ht : s'.trouble = s.trouble) (hhome : s'.home = s.home)
    (hn : ∀ t name, IsOpen t → isHidden name = false →
      (∃ names, s'.names (descend dir t) = .ok names ∧ name ∈ names) →
      ∃ names, s.names (descend dir t) = .ok names ∧ name ∈ names)
    (hr : ∀ t, IsOpen t → s.ignoreRules (join (descend dir t) Storage.ignoreFile) ⊆
      s'.ignoreRules (join (descend dir t) Storage.ignoreFile))
    (hv : Visible s' root inherited dir trail) : Visible s root inherited dir trail := by
  have ho : ∀ t, t <+: trail → IsOpen t := fun t ht name hm => hv.isOpen name (ht.subset hm)
  have hd : ∀ t, t <+: trail →
      s'.isDirectory (descend dir t) = s.isDirectory (descend dir t) := fun t ht => by
    rw [isDirectory_eq_isSome, isDirectory_eq_isSome, (h t (ho t ht)).directory?_eq]
  refine ⟨hv.below, fun t name hp => ?_, fun t name hp => ?_, ?_, fun hf => ?_⟩
  · obtain ⟨hh, hl⟩ := hv.listed t name hp
    exact ⟨hh, hn t name (ho t ((List.prefix_append ..).trans hp)) hh hl⟩
  · have hk := hv.kept t name hp
    rw [hd _ hp, hhome] at hk
    refine ignores_mono (fun r hm => ?_) hk
    simp only [rulesAlong, List.mem_append, List.mem_flatMap, List.mem_inits] at hm ⊢
    rcases hm with hm | ⟨u, hu, hm⟩
    · exact .inl hm
    · have hut : u <+: trail := hu.trans ((List.prefix_append ..).trans hp)
      exact .inr ⟨u, hu, hr u (ho u hut) hm⟩
  · have he : stops s dir trail = stops s' dir trail := by
      refine List.map_congr_left fun t hm => ?_
      have hp : t <+: trail := ((List.mem_inits _ _).mp hm).trans (List.dropLast_prefix trail)
      exact (h t (ho t hp)).location?_eq.symm
    rw [he]
    exact hv.entered
  · rw [← hd trail (List.prefix_refl _)] at hf
    obtain ⟨size, hsz⟩ := hv.measured hf
    exact ⟨size, ((h trail hv.isOpen).size_eq ht).symm.trans hsz⟩

/-- On a disk without links, the ignore file of a directory has no effect outside of it. If that
file has other lines, is added or taken away, a survey from above has the same lines except for
those in the block of the directory, and the same tables except for those of the files below it. If
lines are only added, everything that is visible then was visible before. -/
theorem ignore_file_confined {d d' : Disk} {l : Location} {place : List String} {station : Station}
    (hf : d.LinkFree) (hl : d.locate station.dir = .ok l) (hp : IsTrail place)
    (hs : d.SameBut d' (l ++ place ++ [Storage.ignoreFile])) (denied : List (Operation × String))
    (scope : Scope) (c : Cabinet) :
    let s := d.storage denied
    let s' := d'.storage denied
    (∀ s, (marks s scope station c).map (·.line) = (survey s scope station c).1.lines) ∧
    ((marks s' scope station c = marks s scope station c ∧
        (survey s' scope station c).1.tally = (survey s scope station c).1.tally) ∨
      ∃ before old new after inner tables lost found tables',
        Heads station.indent place before inner ∧
        DifferWithin (·.subject.Within place) before old new after (marks s scope station c)
          (marks s' scope station c) ∧
        DifferWithin (IsBelow (descend station.dir place) ·.path) tables lost found tables'
          (survey s scope station c).1.tally (survey s' scope station c).1.tally) ∧
    (d.linesAt (l ++ place ++ [Storage.ignoreFile]) ⊆
        d'.linesAt (l ++ place ++ [Storage.ignoreFile]) →
      shownEntries s' scope station ⊆ shownEntries s scope station) := by
  intro s s'
  refine ⟨fun s => map_line_marks s scope station c, ?_, fun hsub => ?_⟩
  · have hopen : IsOpen [] := List.forall_mem_nil _
    have hroot : s'.location? station.dir = s.location? station.dir :=
      (findsAlike_of_open hs hf hl hopen).location?_eq
    rcases survey_eq_or_differs (alike_of_sameBut hs hf hl) (sameTexts_of_sameBut hs hf hl) hroot
      hp c with ⟨hm, ht, -⟩ | ⟨inherited, chain, before, after, inner, hh, hm, ht⟩
    · exact .inl ⟨hm, ht⟩
    · exact .inr ⟨before, _, _, after, inner, _, _, _, _, hh, hm, ht⟩
  · rintro ⟨trail, isDir⟩ he
    rw [mem_shownEntries_iff] at he ⊢
    obtain ⟨hv, hd⟩ := he
    have ha : ∀ t, IsOpen t → FindsAlike s s' (descend station.dir t) := fun t ht =>
      findsAlike_of_open hs hf hl ht
    refine ⟨hv.of_more_rules ha rfl (home_storage hs.home)
      (fun t name => listed_of_listed hs hf hl) fun t ht => ?_, ?_⟩
    · by_cases hne : t = place
      · rw [hne]
        exact rules_subset hs hf hl hp hsub
      · rw [rules_of_open hs hf hl ht hne]
        exact List.Subset.refl _
    · rw [isDirectory_eq_isSome, ← (ha trail hv.isOpen).directory?_eq, ← isDirectory_eq_isSome]
      exact hd

def codeDisk : Disk where
  entries := [(["p"], .directory), (["p", "lib"], .directory), (["p", "lib", "a.py"], .file [])]
  locations_nodup := by decide
  isName_of_mem := by decide

def pythonLine : List UInt8 := [42, 46, 112, 121]

theorem ignore_file_confined_codeDisk :
    let d' := codeDisk.set ["p", "lib", ".gitignore"] (.file pythonLine)
    let s := codeDisk.storage []
    let s' := d'.storage []
    let scope : Scope := { root := "/p" }
    let station : Station := { dir := "/p" }
    let c := Cabinet.new .full
    d'.linesAt ["p", "lib", ".gitignore"] = ["*.py"] ∧
    ((marks s' scope station c = marks s scope station c ∧
        (survey s' scope station c).1.tally = (survey s scope station c).1.tally) ∨
      ∃ before old new after inner tables lost found tables',
        Heads "" ["lib"] before inner ∧
        DifferWithin (·.subject.Within ["lib"]) before old new after (marks s scope station c)
          (marks s' scope station c) ∧
        DifferWithin (IsBelow "/p/lib" ·.path) tables lost found tables'
          (survey s scope station c).1.tally (survey s' scope station c).1.tally) ∧
    shownEntries s' scope station ⊆ shownEntries s scope station := by
  have hf : codeDisk.LinkFree := Disk.linkFree_of_entries (by simp [codeDisk])
  have hl : codeDisk.locate "/p" = .ok ["p"] := by decide
  have hn : codeDisk.occupant? ["p", "lib", ".gitignore"] = none := by decide
  have hs : codeDisk.SameBut (codeDisk.set ["p", "lib", ".gitignore"] (.file pythonLine))
      (["p"] ++ ["lib"] ++ [Storage.ignoreFile]) :=
    Disk.sameBut_set (by decide) (by decide) fun o ho => by rw [hn] at ho; cases ho
  obtain ⟨-, hm, hsub⟩ := @ignore_file_confined _ _ _ ["lib"] { dir := "/p" } hf hl (by decide) hs
    [] { root := "/p" } (Cabinet.new .full)
  exact ⟨by decide, hm, hsub (List.nil_subset _)⟩

end Survey

end Gazetteer

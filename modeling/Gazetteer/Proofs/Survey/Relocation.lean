import Gazetteer.Language.Parse
import Gazetteer.Proofs.Disk.Subtree
import Gazetteer.Proofs.Path.Relocation
import Gazetteer.Proofs.Survey.Difference
import Mathlib.Data.List.Forall2

/-! # Surveys of a tree that is moved

A copy of a directory tree is surveyed like the tree itself, wherever it stands. Neither the rules
that hold in it nor the choice of files nor the symbols depend on the directories above.
-/

namespace Gazetteer

open Gazetteer.Path

variable {dir dir' root root' name : String} {trail : List String}

/-! ## Rules -/

namespace Ignore

variable {home home' : String}

/-- The same rule written for the same place below two directories. -/
structure Rule.Moved (home home' dir dir' : String) (r r' : Rule) : Prop where
  source_eq : r'.source = r.source
  regex_eq : r'.regex = r.regex
  base : ∃ place, absoluteComponents home r.base = absoluteComponents home dir ++ place ∧
    absoluteComponents home' r'.base = absoluteComponents home' dir' ++ place

abbrev Rules.Moved (home home' dir dir' : String) : Rules → Rules → Prop :=
  List.Forall₂ (Rule.Moved home home' dir dir')

theorem Rule.Moved.ignores_eq {r r' : Rule} (h : Rule.Moved home home' dir dir' r r')
    (hne : trail ≠ []) (ht : IsTrail trail) (isDir : Bool) :
    r'.ignores home' (descend dir' trail) isDir = r.ignores home (descend dir trail) isDir := by
  obtain ⟨place, hb, hb'⟩ := h.base
  have hr : relativeTo home' r'.base (descend dir' trail) =
      relativeTo home r.base (descend dir trail) :=
    relativeTo_congr hb (absoluteComponents_descend ht) hb' (absoluteComponents_descend ht)
  rw [Rule.ignores, Rule.ignores, h.regex_eq, spelling, spelling, hr, baseName_descend hne ht,
    baseName_descend hne ht]

theorem Rules.Moved.ignores_eq {rules rules' : Rules}
    (h : Rules.Moved home home' dir dir' rules rules') (hne : trail ≠ []) (ht : IsTrail trail)
    (isDir : Bool) :
    rules'.ignores home' (descend dir' trail) isDir =
      rules.ignores home (descend dir trail) isDir := by
  induction h with
  | nil => simp only [Rules.ignores, List.any_nil]
  | cons hr _ ih =>
    simp only [Rules.ignores, List.any_cons] at ih ⊢
    rw [hr.ignores_eq hne ht, ih]

theorem Rules.moved_ofLines (home home' dir dir' : String) (lines : List String)
    (ht : IsTrail trail) (hn : isName name = true) :
    Rules.Moved home home' dir dir' (.ofLines lines (parent (join (descend dir trail) name)))
      (.ofLines lines (parent (join (descend dir' trail) name))) := by
  have hb (home dir : String) :
      absoluteComponents home (parent (join (descend dir trail) name)) =
        absoluteComponents home dir ++ trail := by
    rw [absoluteComponents_parent_join hn, absoluteComponents_descend ht]
  induction lines with
  | nil => exact .nil
  | cons line lines ih =>
    unfold Rules.ofLines at ih ⊢
    rw [List.filterMap_cons, List.filterMap_cons]
    cases compileLine line with
    | none => exact ih
    | some regex => exact .cons ⟨rfl, rfl, trail, hb home dir, hb home' dir'⟩ ih

theorem Rules.moved_builtIn (home home' dir dir' : String) :
    Rules.Moved home home' dir dir' (.builtIn dir) (.builtIn dir') := by
  rw [Rules.Moved, Rules.builtIn, Rules.builtIn, List.forall₂_map_left_iff,
    List.forall₂_map_right_iff, List.forall₂_same]
  exact fun regex _ => ⟨rfl, rfl, [], by simp, by simp⟩

theorem Rules.Moved.append {rules rules' more more' : Rules}
    (h : Rules.Moved home home' dir dir' rules rules')
    (hm : Rules.Moved home home' dir dir' more more') :
    Rules.Moved home home' dir dir' (rules ++ more) (rules' ++ more') :=
  List.rel_append h hm

end Ignore

/-! ## Storages -/

/-- What is found below one path is found below another in another storage, with the locations that
belong to it, and nothing goes wrong with it. -/
structure Storage.Copies (s s' : Storage) (root root' : String) (l l' : Location) : Prop where
  find : ∀ t, IsTrail t →
    (∃ content, s.find (descend root t) = .ok ⟨l ++ t, content⟩ ∧
        s'.find (descend root' t) = .ok ⟨l' ++ t, content⟩ ∧
        ∀ op, s.trouble op (descend root t) = none ∧ s'.trouble op (descend root' t) = none) ∨
      ∃ cause cause', s.find (descend root t) = .error cause ∧
        s'.find (descend root' t) = .error cause'

theorem Disk.Holds.copies {d d' : Disk} {denied denied' : List (Operation × String)}
    {l l' : Location} (h : d.Holds denied root l) (h' : d'.Holds denied' root' l')
    (hs : d.SameBelow d' l l') :
    (d.storage denied).Copies (d'.storage denied') root root' l l' where
  find := by
    intro t ht
    rcases h.find_copy h' hs ht with ⟨ho, content, hf, hf'⟩ | he
    · refine .inl ⟨content, hf, hf', fun op => ⟨?_, ?_⟩⟩
      · exact if_neg (by simpa using h.allowed t op ht ho)
      · exact if_neg (by simpa using h'.allowed t op ht (by rwa [hs t]))
    · exact .inr he

namespace Storage.Copies

variable {s s' : Storage} {l l' : Location}

theorem attempt_eq {α : Type} (h : s.Copies s' root root' l l') (ht : IsTrail trail)
    (op : Operation) (f : Content → Except Cause α) :
    (s'.attempt op (descend root' trail) f).toOption =
      (s.attempt op (descend root trail) f).toOption := by
  unfold Storage.attempt
  rcases h.find trail ht with ⟨content, hf, hf', htr⟩ | ⟨cause, cause', hf, hf'⟩
  · rw [hf, hf', (htr op).1, (htr op).2]
    cases hc : f content <;> simp [hc, Except.toOption]
  · rw [hf, hf']
    cases s.trouble op (descend root trail) <;> cases s'.trouble op (descend root' trail) <;> rfl

theorem names_eq (h : s.Copies s' root root' l l') (ht : IsTrail trail) {names : List String}
    (hn : s.names (descend root trail) = .ok names) :
    s'.names (descend root' trail) = .ok names := by
  have he : (s'.names (descend root' trail)).toOption = (s.names (descend root trail)).toOption :=
    h.attempt_eq ht .list _
  rw [hn] at he
  cases hn' : s'.names (descend root' trail) with
  | error f => rw [hn'] at he; cases he
  | ok names' => rw [hn'] at he; cases he; rfl

theorem visibleFile_eq (h : s.Copies s' root root' l l') (ht : IsTrail trail) (hne : trail ≠ [])
    {rules rules' : Ignore.Rules} (hr : Ignore.Rules.Moved s.home s'.home root root' rules rules')
    (name : String) :
    Survey.visibleFile s' rules' (descend root' trail) name =
      Survey.visibleFile s rules (descend root trail) name := by
  have he : (s'.size (descend root' trail)).toOption = (s.size (descend root trail)).toOption :=
    h.attempt_eq ht .measure _
  unfold Survey.visibleFile
  rw [hr.ignores_eq hne ht]
  cases hz : s.size (descend root trail) with
  | error f =>
    cases hz' : s'.size (descend root' trail) with
    | error f' => rfl
    | ok size' => rw [hz, hz'] at he; cases he
  | ok size =>
    cases hz' : s'.size (descend root' trail) with
    | error f' => rw [hz, hz'] at he; cases he
    | ok size' => rw [hz, hz'] at he; cases he; rfl

theorem text_eq (h : s.Copies s' root root' l l') (ht : IsTrail trail) :
    (s'.text (descend root' trail)).toOption = (s.text (descend root trail)).toOption := by
  unfold Storage.text
  rcases h.find trail ht with ⟨content, hf, hf', htr⟩ | ⟨cause, cause', hf, hf'⟩
  · rw [hf, hf', (htr .read).1, (htr .read).2]
    cases content <;> rfl
  · rw [hf, hf']
    cases s.trouble .read (descend root trail) <;>
      cases s'.trouble .read (descend root' trail) <;> rfl

theorem directory?_cases (h : s.Copies s' root root' l l') (ht : IsTrail trail) :
    (s.directory? (descend root trail) = some (l ++ trail) ∧
        s'.directory? (descend root' trail) = some (l' ++ trail)) ∨
      s.directory? (descend root trail) = none ∧
        s'.directory? (descend root' trail) = none := by
  unfold Storage.directory?
  rcases h.find trail ht with ⟨content, hf, hf', -⟩ | ⟨cause, cause', hf, hf'⟩
  · rw [hf, hf']
    cases content with
    | file bytes => exact .inr ⟨rfl, rfl⟩
    | directory names => exact .inl ⟨rfl, rfl⟩
  · rw [hf, hf']
    exact .inr ⟨rfl, rfl⟩

theorem exists_names (h : s.Copies s' root root' l l') (ht : IsTrail trail)
    (hd : s.directory? (descend root trail) = some (l ++ trail)) :
    ∃ names, s.names (descend root trail) = .ok names := by
  obtain ⟨names, hf⟩ := Storage.directory?_eq_some_iff.mp hd
  rcases h.find trail ht with ⟨content, -, -, htr⟩ | ⟨cause, cause', he, -⟩
  · exact ⟨names, Survey.names_of_find (htr .list).1 hf⟩
  · rw [hf] at he
    cases he

theorem moved_ignoreRules (h : s.Copies s' root root' l l') (ht : IsTrail trail) :
    Ignore.Rules.Moved s.home s'.home root root'
      (s.ignoreRules (join (descend root trail) Storage.ignoreFile))
      (s'.ignoreRules (join (descend root' trail) Storage.ignoreFile)) := by
  have hn : isName Storage.ignoreFile = true := by decide
  have hf := h.find (trail ++ [Storage.ignoreFile])
    (List.forall_mem_append.mpr ⟨ht, by simpa using hn⟩)
  rw [descend_concat, descend_concat] at hf
  unfold Storage.ignoreRules
  rcases hf with ⟨content, hf, hf', htr⟩ | ⟨cause, cause', hf, hf'⟩
  · rw [hf, hf', (htr .consult).1, (htr .consult).2]
    cases content with
    | file bytes => exact Ignore.Rules.moved_ofLines _ _ _ _ _ ht hn
    | directory names => exact .nil
  · rw [hf, hf']
    exact .nil

end Storage.Copies

namespace Survey

open Ignore Outline

variable {s s' : Storage} {scope : Scope} {l l' : Location} {inherited inherited' : Rules}
  {chain chain' : List Location}

/-! ## What is visible -/

section Copies

variable (h : s.Copies s' root root' l l')

include h

theorem moved_rulesBelow (ht : IsTrail trail)
    (hr : Rules.Moved s.home s'.home root root' inherited inherited') :
    Rules.Moved s.home s'.home root root' (rulesBelow s inherited (descend root trail))
      (rulesBelow s' inherited' (descend root' trail)) :=
  hr.append (h.moved_ignoreRules ht)

theorem moved_rulesIn (ht : IsTrail trail)
    (hr : Rules.Moved s.home s'.home root root' inherited inherited') :
    Rules.Moved s.home s'.home root root' (rulesIn s root inherited (descend root trail))
      (rulesIn s' root' inherited' (descend root' trail)) :=
  ((Rules.moved_builtIn _ _ root root').append hr).append (h.moved_ignoreRules ht)

theorem branchAt_of_copies {name : String} (ht : IsTrail (trail ++ [name]))
    (hc : l ++ (trail ++ [name]) ∉ chain) (hc' : l' ++ (trail ++ [name]) ∉ chain')
    (hr : Rules.Moved s.home s'.home root root' inherited inherited')
    (hv : s.directory? (descend root (trail ++ [name])) = some (l ++ (trail ++ [name])) →
      visible s' root' (rulesBelow s' inherited' (descend root' trail))
          ((l' ++ (trail ++ [name])) :: chain') (descend root' (trail ++ [name])) =
        visible s root (rulesBelow s inherited (descend root trail))
          ((l ++ (trail ++ [name])) :: chain) (descend root (trail ++ [name]))) :
    branchAt s' root' inherited' chain' (descend root' trail) name =
      branchAt s root inherited chain (descend root trail) name := by
  have hrules := moved_rulesIn h (List.forall_mem_append.mp ht).1 hr
  have hdir := h.directory?_cases ht
  have hi := hrules.ignores_eq (by simp) ht true
  have hfile := h.visibleFile_eq ht (by simp) hrules name
  simp only [descend_concat] at hdir hi hfile hv
  rcases hdir with ⟨hd, hd'⟩ | ⟨hd, hd'⟩
  · rw [branchAt_of_directory hd, branchAt_of_directory hd', hi, hv hd]
    simp only [List.contains_iff_mem, hc, hc', if_false]
  · rw [branchAt_of_not_directory hd, branchAt_of_not_directory hd', hfile]

/-- The same is visible in two copies of a tree. On the way down, locations get longer, so that no
directory is one of those above it. -/
theorem visible_of_copies (ht : IsTrail trail)
    (hd : s.directory? (descend root trail) = some (l ++ trail))
    (hl : ∀ m ∈ chain, m.length ≤ (l ++ trail).length)
    (hl' : ∀ m ∈ chain', m.length ≤ (l' ++ trail).length)
    (hr : Rules.Moved s.home s'.home root root' inherited inherited') :
    visible s' root' inherited' chain' (descend root' trail) =
      visible s root inherited chain (descend root trail) := by
  obtain ⟨dir, hdir⟩ : ∃ dir, dir = descend root trail := ⟨_, rfl⟩
  rw [← hdir]
  -- What is handed down differs in the two copies, so the rules and the chain of one are any.
  induction inherited, chain, dir using visible.induct s root
    generalizing trail inherited' chain' with
  | case1 inherited chain dir f hn =>
    subst hdir
    obtain ⟨names, hok⟩ := h.exists_names ht hd
    rw [hn] at hok
    cases hok
  | case2 inherited chain dir names hn ih =>
    subst hdir
    rw [visible_of_names hn, visible_of_names (h.names_eq ht hn)]
    refine List.filterMap_congr fun name hm => ?_
    have ht' : IsTrail (trail ++ [name]) :=
      List.forall_mem_append.mpr ⟨ht, by simpa using (open_of_listed hn hm).1⟩
    have longer {l : Location} {chain : List Location}
        (hl : ∀ m ∈ chain, m.length ≤ (l ++ trail).length) :
        ∀ m ∈ (l ++ (trail ++ [name])) :: chain, m.length ≤ (l ++ (trail ++ [name])).length := by
      refine List.forall_mem_cons.mpr ⟨le_rfl, fun m hm => (hl m hm).trans ?_⟩
      simp
    have hc : l ++ (trail ++ [name]) ∉ chain := fun hm => by simpa using hl _ hm
    have hc' : l' ++ (trail ++ [name]) ∉ chain' := fun hm => by simpa using hl' _ hm
    refine branchAt_of_copies h ht' hc hc' hr fun hd' => ?_
    obtain ⟨ns, hf⟩ := Storage.directory?_eq_some_iff.mp hd'
    rw [descend_concat] at hf
    rw [descend_concat root]
    exact ih name _ ns hf (by simpa using hc) ht' hd' (longer hl) (longer hl')
      (moved_rulesBelow h ht hr) (descend_concat ..).symm

theorem visibleBelow_of_copies (hd : s.directory? root = some l) :
    visibleBelow s root [] root = some (visible s root [] [l] root) ∧
      visibleBelow s' root' [] root' = some (visible s root [] [l] root) := by
  have hv : visible s' root' [] [l'] root' = visible s root [] [l] root :=
    visible_of_copies h (List.forall_mem_nil _ : IsTrail []) (by simpa using hd) (by simp)
      (by simp) .nil
  have hroot := h.directory?_cases (List.forall_mem_nil _)
  simp only [descend_nil, List.append_nil, hd, reduceCtorEq, false_and, or_false] at hroot
  obtain ⟨names, hf⟩ := Storage.directory?_eq_some_iff.mp hd
  obtain ⟨names', hf'⟩ := Storage.directory?_eq_some_iff.mp hroot.2
  rw [visibleBelow_eq, visibleBelow_eq, location?_of_find hf, location?_of_find hf', ← hv]
  exact ⟨congrArg some hv.symm, rfl⟩

end Copies

/-! ## Symbols -/

def TableMoved (root root' : String) (t t' : SymbolTable) : Prop :=
  ∃ trail, trail ≠ [] ∧ IsTrail trail ∧ t.path = descend root trail ∧
    t' = { t with path := descend root' trail }

theorem describe_map_path (kinds : List SymbolKind) (indent path : String)
    (table : Option SymbolTable) :
    describe kinds indent (table.map fun t => { t with path }) = describe kinds indent table := by
  cases table <;> rfl

theorem forall₂_tables {trails : List (List String)} {f f' : List String → Option SymbolTable}
    (ht : ∀ t ∈ trails, t ≠ [] ∧ IsTrail t)
    (hp : ∀ t ∈ trails, ∀ table, f t = some table → table.path = descend root t)
    (hf : ∀ t ∈ trails, f' t = (f t).map fun table => { table with path := descend root' t }) :
    List.Forall₂ (TableMoved root root') ((trails.map f).filterMap id)
      ((trails.map f').filterMap id) := by
  induction trails with
  | nil => exact .nil
  | cons t trails ih =>
    rw [List.forall_mem_cons] at ht hp hf
    rw [List.map_cons, List.map_cons, List.filterMap_cons, List.filterMap_cons, hf.1]
    cases hft : f t with
    | none => exact ih ht.2 hp.2 hf.2
    | some table =>
      exact .cons ⟨t, ht.1.1, ht.1.2, hp.1 table hft, rfl⟩ (ih ht.2 hp.2 hf.2)

theorem lines_survey (scope : Scope) (station : Station) (c : Cabinet) {bs : List (Branch Unit)}
    (h : visibleBelow s scope.root station.inherited station.dir = some bs) :
    (survey s scope station c).1.lines = linesOfAll (describe scope.kinds) station.indent
      (notedAll (tableAt s scope scope.analyze station.depth station.dir c) bs) := by
  unfold survey
  simp only [h, Findings.ofBranches, annotateAll_eq_notedAll]

section Copies

variable (h : s.Copies s' root root' l l')

include h

theorem tableAt_of_copies {c : Cabinet} (hne : trail ≠ []) (ht : IsTrail trail)
    (hc : descend root' trail ∈ c.faulty ↔ descend root trail ∈ c.faulty) (active : Bool)
    (depth : Int) :
    tableAt s' scope active depth root' c trail =
      (tableAt s scope active depth root c trail).map fun t =>
        { t with path := descend root' trail } := by
  have hb : baseName (descend root' trail) = baseName (descend root trail) := by
    rw [baseName_descend hne ht, baseName_descend hne ht]
  unfold tableAt
  rw [isEligible_congr hb, h.text_eq ht]
  split
  · cases (s.text (descend root trail)).toOption with
    | none => rfl
    | some text =>
      rw [Option.bind_some, Option.bind_some, Cabinet.extract_fst, Cabinet.extract_fst,
        suffix_congr hb, Option.map_bind]
      refine congrArg _ (funext fun language => ?_)
      simp only [hc, Function.comp_apply]
      split <;> rfl
  · rfl

/-- Copies of a tree are surveyed alike in any two storages. -/
theorem survey_of_copies (hd : s.directory? root = some l) (scope : Scope) {c : Cabinet}
    (hc : ∀ trail, IsTrail trail →
      (descend root' trail ∈ c.faulty ↔ descend root trail ∈ c.faulty)) :
    let found := (survey s { scope with root } { dir := root } c).1
    let found' := (survey s' { scope with root := root' } { dir := root' } c).1
    found'.text = found.text ∧ List.Forall₂ (TableMoved root root') found.tally found'.tally := by
  intro found found'
  obtain ⟨hv, hv'⟩ := visibleBelow_of_copies h hd
  generalize hbs : visible s root [] [l] root = bs at hv hv'
  have hopen : ∀ t, (t, false) ∈ entriesOfAll bs → t ≠ [] ∧ IsTrail t := by
    rw [← hbs]
    refine fun t ht => ⟨?_, (isOpen_of_mem_visible ht).isTrail⟩
    rintro rfl
    exact nil_not_mem_trails _ (List.mem_map.mpr ⟨_, ht, rfl⟩)
  have htable : ∀ t, (t, false) ∈ entriesOfAll bs →
      tableAt s' { scope with root := root' } scope.analyze 0 root' c t =
        (tableAt s { scope with root } scope.analyze 0 root c t).map
          fun table => { table with path := descend root' t } := fun t ht =>
    tableAt_of_copies h (hopen t ht).1 (hopen t ht).2 (hc t (hopen t ht).2) _ _
  constructor
  · rw [Findings.text, Findings.text, lines_survey { scope with root } { dir := root } c hv,
      lines_survey { scope with root := root' } { dir := root' } c hv']
    refine congrArg Outline.text (linesOfAll_notedAll_congr _ _ fun t ht indent => ?_)
    rw [htable t ht, describe_map_path]
  · have hshown : shownEntries s { scope with root } { dir := root } = entriesOfAll bs := by
      rw [shownEntries, hv]
      rfl
    have hshown' : shownEntries s' { scope with root := root' } { dir := root' } =
        entriesOfAll bs := by
      rw [shownEntries, hv']
      rfl
    rw [tally_survey_eq, tally_survey_eq, hshown, hshown']
    exact forall₂_tables (fun t ht => hopen t (mem_fileTrails_iff.mp ht))
      (fun t _ table => path_of_tableAt) fun t ht => htable t (mem_fileTrails_iff.mp ht)

end Copies

/-- A directory tree without links that can be read is surveyed alike wherever it stands. The text
of the survey is the same, and so are the tables, in order, except for the directory in front of the
paths of their files. -/
theorem survey_relocated {d d' : Disk} {denied denied' : List (Operation × String)}
    (h : d.Holds denied root l) (h' : d'.Holds denied' root' l') (hs : d.SameBelow d' l l')
    (scope : Scope) {c : Cabinet} (hc : ∀ trail, IsTrail trail →
      (descend root' trail ∈ c.faulty ↔ descend root trail ∈ c.faulty)) :
    let found := (survey (d.storage denied) { scope with root } { dir := root } c).1
    let found' :=
      (survey (d'.storage denied') { scope with root := root' } { dir := root' } c).1
    found'.text = found.text ∧ List.Forall₂ (TableMoved root root') found.tally found'.tally :=
  survey_of_copies (h.copies h' hs)
    (Storage.directory?_eq_some_iff.mpr ⟨d.names l, h.find_root⟩) scope hc

def twinDisk : Disk where
  entries := [(["p"], .directory), (["p", "a.py"], .file []), (["build"], .directory),
    (["build", "x.log"], .directory), (["build", "x.log", "p"], .directory),
    (["build", "x.log", "p", "a.py"], .file [])]
  locations_nodup := by decide
  isName_of_mem := by decide

theorem sameBelow_twinDisk : twinDisk.SameBelow twinDisk ["p"] ["build", "x.log", "p"] := by
  intro t
  simp [Disk.occupant?, twinDisk, List.lookup_cons]

theorem eq_of_occupied_twinDisk {t : List String}
    (h : (twinDisk.occupant? (["p"] ++ t)).isSome) : t = [] ∨ t = ["a.py"] := by
  by_contra hc
  have he : t.isEmpty = false := by simpa using (not_or.mp hc).1
  have hf : (t == ["a.py"]) = false := by simpa using (not_or.mp hc).2
  simp [Disk.occupant?, twinDisk, List.lookup_cons, he, hf] at h

theorem survey_relocated_twinDisk :
    let s := twinDisk.storage []
    let found := (survey s { root := "/p", analyze := true } { dir := "/p" } (.new .full)).1
    let found' := (survey s { root := "/build/x.log/p", analyze := true }
      { dir := "/build/x.log/p" } (.new .full)).1
    twinDisk.Holds [] "/p" ["p"] ∧
      twinDisk.Holds [] "/build/x.log/p" ["build", "x.log", "p"] ∧
      found'.text = found.text ∧
      List.Forall₂ (TableMoved "/p" "/build/x.log/p") found.tally found'.tally ∧
      found.tally.files = ["/p/a.py"] := by
  intro s found found'
  have hlinks : twinDisk.LinkFree := Disk.linkFree_of_entries (by simp [twinDisk])
  have h : twinDisk.Holds [] "/p" ["p"] :=
    { located := by decide
      directory := by decide
      noLink := fun t => hlinks _
      short := fun t _ ho => by
        rcases eq_of_occupied_twinDisk ho with rfl | rfl <;> decide
      allowed := by simp }
  have h' : twinDisk.Holds [] "/build/x.log/p" ["build", "x.log", "p"] :=
    { located := by decide
      directory := by decide
      noLink := fun t => hlinks _
      short := fun t _ ho => by
        rw [sameBelow_twinDisk] at ho
        rcases eq_of_occupied_twinDisk ho with rfl | rfl <;> decide
      allowed := by simp }
  obtain ⟨ht, hf⟩ := survey_relocated (c := .new .full) h h' sameBelow_twinDisk
    { root := "", analyze := true } fun _ _ => by simp [Cabinet.new]
  exact ⟨h, h', ht, hf, by decide +kernel⟩

end Survey

end Gazetteer

import Gazetteer.Disk
import Gazetteer.Proofs.Survey.Visibility
import Mathlib.Data.Set.Card
import Mathlib.Logic.Relation

/-! # The walk below a directory

What is visible below a directory, found step by step. A walk enters a directory, goes through its
names one by one and leaves it again; all the while it keeps one set of locations, to which entering
adds and from which leaving takes away. The set holds the locations of the directories that have
been entered and not left, so that a walk goes no deeper than there are directories. It ends with
what is visible.
-/

namespace Gazetteer

def Storage.directoryLocations (s : Storage) : Set Location :=
  {l | ∃ path names, s.find path = .ok ⟨l, .directory names⟩}

theorem Storage.finite_directoryLocations (s : Storage) : s.directoryLocations.Finite := by
  refine s.directories.toFinset.finite_toSet.subset ?_
  rintro l ⟨path, names, h⟩
  simpa using s.location_mem h

namespace Survey

open Ignore Gazetteer.Path

/-- A directory that has been entered and not been left. -/
structure Visit where
  /-- What the directory is called in the one above it. -/
  name : String
  dir : String
  location : Location
  inherited : Rules
  /-- The names that are not done with; the first of them is at hand. -/
  coming : List String
  shown : List (Branch Unit)

namespace Visit

/-- The names are listed once. If that fails, the fault is shown and no name is to come. -/
def start (s : Storage) (inherited : Rules) (name dir : String) (l : Location) : Visit :=
  match s.names dir with
  | .error f => ⟨name, dir, l, inherited, [], [.fault f]⟩
  | .ok names => ⟨name, dir, l, inherited, names.filter (!isHidden ·), []⟩

def pass (v : Visit) (found : Option (Branch Unit)) : Visit :=
  { v with coming := v.coming.tail, shown := v.shown ++ found.toList }

end Visit

structure Walk where
  /-- The locations of the directories that the walk is in. -/
  ancestors : Finset Location := ∅
  /-- The innermost visit comes first. -/
  visits : List Visit := []
  outcome : Option (List (Branch Unit)) := none

namespace Walk

def enter (w : Walk) (v : Visit) : Walk :=
  { w with ancestors := insert v.location w.ancestors, visits := v :: w.visits }

def pass (w : Walk) (found : Option (Branch Unit)) : Walk :=
  { w with visits := w.visits.modifyHead (·.pass found) }

def leave (w : Walk) : Walk :=
  match w.visits with
  | [] => w
  | [v] => ⟨w.ancestors.erase v.location, [], some v.shown⟩
  | v :: u :: vs =>
    pass ⟨w.ancestors.erase v.location, u :: vs, w.outcome⟩ (some (.folder v.name v.shown))

/-- A walk begins in its first directory; from a path that leads nowhere there is no walk. -/
def start (s : Storage) (inherited : Rules) (dir : String) : Walk :=
  match s.find dir with
  | .ok site => enter {} (.start s inherited "" dir site.location)
  | .error _ => {}

/-- Do what the name at hand asks for. -/
def step (s : Storage) (root : String) (w : Walk) : Option Walk :=
  match w.visits with
  | [] => none
  | v :: _ =>
    match v.coming with
    | [] => some w.leave
    | name :: _ =>
      let path := join v.dir name
      let rules := rulesIn s root v.inherited v.dir
      match s.find path with
      | .ok ⟨l, .directory _⟩ =>
        if rules.ignores s.home path true then some (w.pass none)
        else if l ∈ w.ancestors then some (w.pass (some (.loop name)))
        else some (w.enter (.start s (rulesBelow s v.inherited v.dir) name path l))
      | _ => some (w.pass (visibleFile s rules path name))

/-- One state of a walk comes after another. -/
def Runs (s : Storage) (root : String) : Walk → Walk → Prop :=
  Relation.ReflTransGen fun w w' => step s root w = some w'

/-- The walk goes from one state to another and is deeper than a given depth on the way. -/
def RunsBelow (s : Storage) (root : String) (depth : Nat) : Walk → Walk → Prop :=
  Relation.ReflTransGen fun w w' => step s root w = some w' ∧ depth < w.visits.length

variable {s : Storage} {root dir name : String} {inherited : Rules} {chain : List Location}
  {w w' : Walk} {v : Visit} {vs : List Visit} {coming : List String} {l : Location}
  {names : List String} {found : Option (Branch Unit)} {depth : Nat}

theorem RunsBelow.runs (h : RunsBelow s root depth w w') : Runs s root w w' :=
  Relation.ReflTransGen.mono (fun _ _ h => h.1) _ _ h

theorem RunsBelow.mono {deeper : Nat} (hd : depth ≤ deeper) (h : RunsBelow s root deeper w w') :
    RunsBelow s root depth w w' :=
  Relation.ReflTransGen.mono (fun _ _ h => ⟨h.1, hd.trans_lt h.2⟩) _ _ h

/-! ## What a step does -/

theorem step_leave (hv : w.visits = v :: vs) (hc : v.coming = []) :
    step s root w = some w.leave := by
  simp [step, hv, hc]

theorem step_enter (hv : w.visits = v :: vs) (hc : v.coming = name :: coming)
    (hf : s.find (join v.dir name) = .ok ⟨l, .directory names⟩)
    (hi : (rulesIn s root v.inherited v.dir).ignores s.home (join v.dir name) true = false)
    (hl : l ∉ w.ancestors) :
    step s root w =
      some (w.enter (.start s (rulesBelow s v.inherited v.dir) name (join v.dir name) l)) := by
  simp [step, hv, hc, hf, hi, hl]

theorem step_pass (hv : w.visits = v :: vs) (hc : v.coming = name :: coming)
    (hw : ∀ m, m ∈ w.ancestors ↔ m ∈ chain)
    (hn : ∀ l names, s.find (join v.dir name) = .ok ⟨l, .directory names⟩ →
      (rulesIn s root v.inherited v.dir).ignores s.home (join v.dir name) true = true ∨ l ∈ chain) :
    step s root w = some (w.pass (branchAt s root v.inherited chain v.dir name)) := by
  unfold step branchAt
  rw [hv]
  dsimp only
  rw [hc]
  dsimp only
  cases hf : s.find (join v.dir name) with
  | error cause => rfl
  | ok site =>
    obtain ⟨l, bytes | names⟩ := site
    · rfl
    · dsimp only
      by_cases hi : (rulesIn s root v.inherited v.dir).ignores s.home (join v.dir name) true = true
      · rw [if_pos hi, if_pos hi]
      · have hl : l ∈ chain := (hn l names hf).resolve_left hi
        rw [if_neg hi, if_neg hi, if_pos ((hw l).mpr hl), if_pos (List.contains_iff_mem.mpr hl)]

/-- All that a step can do. -/
theorem step_cases (h : step s root w = some w') : ∃ v vs, w.visits = v :: vs ∧
    ((v.coming = [] ∧ w' = w.leave) ∨
      (∃ name coming found, v.coming = name :: coming ∧ w' = w.pass found) ∨
      ∃ name coming l names, v.coming = name :: coming ∧
        s.find (join v.dir name) = .ok ⟨l, .directory names⟩ ∧
        (rulesIn s root v.inherited v.dir).ignores s.home (join v.dir name) true = false ∧
        l ∉ w.ancestors ∧
        w' = w.enter (.start s (rulesBelow s v.inherited v.dir) name (join v.dir name) l)) := by
  unfold step at h
  split at h
  · cases h
  · next v vs hv =>
    refine ⟨v, vs, hv, ?_⟩
    split at h
    · next hc => exact .inl ⟨hc, (Option.some.inj h).symm⟩
    · next name coming hc =>
      dsimp only at h
      split at h
      · next l names hf =>
        split at h
        · exact .inr (.inl ⟨name, coming, none, hc, (Option.some.inj h).symm⟩)
        · next hi =>
          split at h
          · exact .inr (.inl ⟨name, coming, _, hc, (Option.some.inj h).symm⟩)
          · next hl =>
            exact .inr (.inr ⟨name, coming, l, names, hc, hf, by simpa using hi, hl,
              (Option.some.inj h).symm⟩)
      · exact .inr (.inl ⟨name, coming, _, hc, (Option.some.inj h).symm⟩)

/-! ## The set of locations -/

def route (w : Walk) : List (String × Location) := w.visits.map fun v => (v.dir, v.location)

@[simp] theorem route_enter : (w.enter v).route = (v.dir, v.location) :: w.route := rfl

@[simp] theorem ancestors_enter : (w.enter v).ancestors = insert v.location w.ancestors := rfl

@[simp] theorem ancestors_pass : (w.pass found).ancestors = w.ancestors := rfl

@[simp] theorem route_pass : (w.pass found).route = w.route := by
  unfold route pass
  cases w.visits <;> rfl

@[simp] theorem length_route : w.route.length = w.visits.length := List.length_map ..

theorem ancestors_leave (hv : w.visits = v :: vs) :
    w.leave.ancestors = w.ancestors.erase v.location := by
  unfold leave
  rw [hv]
  cases vs <;> rfl

theorem route_leave (hv : w.visits = v :: vs) :
    w.leave.route = vs.map fun v => (v.dir, v.location) := by
  unfold leave
  rw [hv]
  cases vs with
  | nil => rfl
  | cons u vs => exact route_pass

@[simp] theorem dir_start : (Visit.start s inherited name dir l).dir = dir := by
  unfold Visit.start
  split <;> rfl

@[simp] theorem location_start : (Visit.start s inherited name dir l).location = l := by
  unfold Visit.start
  split <;> rfl

/-- Paths that go down from a directory one name at a time, the lowest first. -/
inductive Descending (dir : String) : List String → Prop where

  | nil : Descending dir []

  | first : Descending dir [dir]

  | next {above name : String} {paths : List String} (h : Descending dir (above :: paths)) :
      Descending dir (join above name :: above :: paths)

theorem Descending.tail {path : String} {paths : List String}
    (h : Descending dir (path :: paths)) : Descending dir paths := by
  cases h with
  | first => exact .nil
  | next h => exact h

/-- The set holds the locations of the directories that the walk is in. They differ from each other,
and they lie one below the other, beginning with the first directory. -/
structure Sound (s : Storage) (dir : String) (w : Walk) : Prop where
  ancestors_eq : w.ancestors = (w.route.map (·.2)).toFinset
  nodup : (w.route.map (·.2)).Nodup
  located : ∀ p ∈ w.route, s.location? p.1 = some p.2
  entered : ∀ p ∈ w.route, p.1 = dir ∨ s.isDirectory p.1 = true
  descending : Descending dir (w.route.map (·.1))

theorem Sound.mem_ancestors_iff (h : Sound s dir w) {m : Location} :
    m ∈ w.ancestors ↔ m ∈ w.route.map (·.2) := by
  rw [h.ancestors_eq, List.mem_toFinset]

theorem sound_empty : Sound s dir {} where
  ancestors_eq := rfl
  nodup := .nil
  located := nofun
  entered := nofun
  descending := .nil

theorem sound_start : Sound s dir (start s inherited dir) := by
  unfold start
  split
  · next site hf =>
    have hr : (enter {} (.start s inherited "" dir site.location)).route =
        [(dir, site.location)] := by
      rw [route_enter, dir_start, location_start]
      rfl
    refine ⟨?_, ?_, ?_, ?_, ?_⟩ <;> rw [hr]
    · simp [enter]
    · exact List.nodup_singleton _
    · simpa using location?_of_find hf
    · simp
    · exact .first
  · exact sound_empty

theorem Sound.pass (h : Sound s dir w) : Sound s dir (w.pass found) where
  ancestors_eq := by simpa using h.ancestors_eq
  nodup := by simpa using h.nodup
  located := by simpa using h.located
  entered := by simpa using h.entered
  descending := by simpa using h.descending

theorem Sound.enter (h : Sound s dir w) (hv : w.visits = v :: vs)
    (hf : s.find (join v.dir name) = .ok ⟨l, .directory names⟩) (hl : l ∉ w.ancestors) :
    Sound s dir (w.enter (.start s inherited name (join v.dir name) l)) where
  ancestors_eq := by simp [h.ancestors_eq]
  nodup := by
    rw [h.mem_ancestors_iff] at hl
    rw [route_enter, location_start, List.map_cons, List.nodup_cons]
    exact ⟨hl, h.nodup⟩
  located := by
    rw [route_enter, dir_start, location_start, List.forall_mem_cons]
    exact ⟨location?_of_find hf, h.located⟩
  entered := by
    rw [route_enter, dir_start, location_start, List.forall_mem_cons]
    exact ⟨.inr (isDirectory_of_find hf), h.entered⟩
  descending := by
    have hd := h.descending
    have hr : w.route = (v.dir, v.location) :: vs.map fun v => (v.dir, v.location) := by
      rw [route, hv, List.map_cons]
    rw [hr, List.map_cons] at hd
    rw [route_enter, hr, dir_start, List.map_cons, List.map_cons]
    exact .next hd

theorem Sound.leave (h : Sound s dir w) (hv : w.visits = v :: vs) : Sound s dir w.leave := by
  have hr : w.route = (v.dir, v.location) :: w.leave.route := by
    rw [route_leave hv, route, hv, List.map_cons]
  have hn := h.nodup
  rw [hr, List.map_cons, List.nodup_cons] at hn
  have hs : ∀ p ∈ w.leave.route, p ∈ w.route := fun p hp => hr ▸ List.mem_cons_of_mem _ hp
  refine ⟨?_, hn.2, fun p hp => h.located p (hs p hp), fun p hp => h.entered p (hs p hp), ?_⟩
  · rw [ancestors_leave hv, h.ancestors_eq, hr, List.map_cons, List.toFinset_cons,
      Finset.erase_insert (by simpa using hn.1)]
  · have hd := h.descending
    rw [hr, List.map_cons] at hd
    exact hd.tail

/-- The set stays in step with the visits. -/
theorem Sound.step (h : Sound s dir w) (hs : step s root w = some w') : Sound s dir w' := by
  obtain ⟨v, vs, hv, ⟨-, rfl⟩ | ⟨name, coming, found, -, rfl⟩ |
    ⟨name, coming, l, names, -, hf, -, hl, rfl⟩⟩ := step_cases hs
  · exact h.leave hv
  · exact h.pass
  · exact h.enter hv hf hl

theorem sound_of_runs (h : Runs s root (start s inherited dir) w) : Sound s dir w := by
  induction h with
  | refl => exact sound_start
  | tail _ hs ih => exact ih.step hs

/-! ## How a walk goes on -/

/-- A visit of a directory comes to its last name with what is visible there. -/
def Explores (s : Storage) (root : String) (inherited : Rules) (chain : List Location)
    (dir : String) : Prop :=
  ∀ (ancestors : Finset Location) (vs : List Visit) (o : Option (List (Branch Unit)))
    (name : String) (l : Location), (∀ m, m ∈ ancestors ↔ m ∈ chain) →
      RunsBelow s root vs.length ⟨ancestors, .start s inherited name dir l :: vs, o⟩
        ⟨ancestors, ⟨name, dir, l, inherited, [], visible s root inherited chain dir⟩ :: vs, o⟩

/-- A directory that has been entered is left in the end. What is visible in it has been found, and
the set is as it was before. -/
theorem Explores.returns (h : Explores s root inherited (l :: chain) dir)
    (hw : ∀ m, m ∈ w.ancestors ↔ m ∈ chain) (hl : l ∉ w.ancestors) (hv : w.visits ≠ []) :
    RunsBelow s root w.visits.length (w.enter (.start s inherited name dir l))
      (w.pass (some (.folder name (visible s root inherited (l :: chain) dir)))) := by
  obtain ⟨ancestors, visits, outcome⟩ := w
  obtain ⟨u, us, rfl⟩ := List.exists_cons_of_ne_nil hv
  have hin := h (insert l ancestors) (u :: us) outcome name l (by simp [hw])
  simp only [enter, location_start]
  refine hin.tail ⟨?_, by simp⟩
  rw [step_leave rfl rfl]
  simp only [leave, Finset.erase_insert hl]

theorem runsBelow_pass (hv : w.visits = v :: vs) (hc : v.coming = name :: coming)
    (hw : ∀ m, m ∈ w.ancestors ↔ m ∈ chain)
    (ih : ∀ l names, s.find (join v.dir name) = .ok ⟨l, .directory names⟩ → l ∉ chain →
      Explores s root (rulesBelow s v.inherited v.dir) (l :: chain) (join v.dir name)) :
    RunsBelow s root vs.length w (w.pass (branchAt s root v.inherited chain v.dir name)) := by
  have hd : vs.length < w.visits.length := by simp [hv]
  by_cases he : ∃ l names, s.find (join v.dir name) = .ok ⟨l, .directory names⟩ ∧
      (rulesIn s root v.inherited v.dir).ignores s.home (join v.dir name) true = false ∧ l ∉ chain
  · -- A directory is entered, and passed only when all below it has been explored.
    obtain ⟨l, names, hf, hi, hl⟩ := he
    have hb : branchAt s root v.inherited chain v.dir name = some (.folder name
        (visible s root (rulesBelow s v.inherited v.dir) (l :: chain) (join v.dir name))) := by
      simp [branchAt, hf, hi, hl]
    have hn : l ∉ w.ancestors := fun hm => hl ((hw l).mp hm)
    rw [hb]
    exact .head ⟨step_enter hv hc hf hi hn, hd⟩
      (((ih l names hf hl).returns hw hn (by simp [hv])).mono hd.le)
  · refine .single ⟨step_pass hv hc hw ?_, hd⟩
    intro l names hf
    by_contra hn
    obtain ⟨hi, hl⟩ := not_or.mp hn
    exact he ⟨l, names, hf, by simpa using hi, hl⟩

theorem runsBelow_names {ancestors : Finset Location} {outcome : Option (List (Branch Unit))}
    (hw : ∀ m, m ∈ ancestors ↔ m ∈ chain)
    (ih : ∀ n l names, s.find (join dir n) = .ok ⟨l, .directory names⟩ → l ∉ chain →
      Explores s root (rulesBelow s inherited dir) (l :: chain) (join dir n))
    (shown : List (Branch Unit)) :
    RunsBelow s root vs.length
      ⟨ancestors, ⟨name, dir, l, inherited, coming, shown⟩ :: vs, outcome⟩
      ⟨ancestors, ⟨name, dir, l, inherited, [],
        shown ++ coming.filterMap (branchAt s root inherited chain dir)⟩ :: vs, outcome⟩ := by
  induction coming generalizing shown with
  | nil =>
    rw [List.filterMap_nil, List.append_nil]
    exact .refl
  | cons n coming ihn =>
    have hp := runsBelow_pass (w := ⟨ancestors, ⟨name, dir, l, inherited, n :: coming, shown⟩ :: vs,
      outcome⟩) rfl rfl hw (ih n)
    refine hp.trans ?_
    have hs : shown ++ (n :: coming).filterMap (branchAt s root inherited chain dir) =
        (shown ++ (branchAt s root inherited chain dir n).toList) ++
          coming.filterMap (branchAt s root inherited chain dir) := by
      cases hb : branchAt s root inherited chain dir n <;> simp [hb]
    rw [hs]
    exact ihn _

theorem explores (s : Storage) (root : String) (inherited : Rules) (chain : List Location)
    (dir : String) : Explores s root inherited chain dir := by
  -- The chain of the recursion has the same members as the set of the walk at that point.
  induction inherited, chain, dir using visible.induct s root with
  | case1 inherited chain dir f hn =>
    intro ancestors vs outcome name l hw
    rw [visible_of_error hn, Visit.start, hn]
    exact .refl
  | case2 inherited chain dir names hn ih =>
    intro ancestors vs outcome name l hw
    rw [visible_of_names hn, Visit.start, hn]
    exact runsBelow_names hw (fun n l names hf hl => ih n l names hf (by simpa using hl)) []

/-! ## Depth and end -/

theorem enters_of_length_lt (h : step s root w = some w')
    (hd : w.visits.length < w'.visits.length) :
    ∃ v name coming l names, w.visits.head? = some v ∧ v.coming = name :: coming ∧
      s.find (join v.dir name) = .ok ⟨l, .directory names⟩ ∧ l ∉ w.ancestors ∧
      w' = w.enter (.start s (rulesBelow s v.inherited v.dir) name (join v.dir name) l) := by
  rw [← length_route, ← length_route] at hd
  obtain ⟨v, vs, hv, ⟨-, rfl⟩ | ⟨name, coming, found, -, rfl⟩ |
    ⟨name, coming, l, names, hc, hf, -, hl, rfl⟩⟩ := step_cases h
  · simp [route_leave hv, hv] at hd
  · simp at hd
  · exact ⟨v, name, coming, l, names, by simp [hv], hc, hf, hl, rfl⟩

theorem runs_end (s : Storage) (root : String) (inherited : Rules) (dir : String) :
    Runs s root (start s inherited dir) ⟨∅, [], visibleBelow s root inherited dir⟩ := by
  unfold start visibleBelow
  cases hf : s.find dir with
  | error cause => exact .refl
  | ok site =>
    have he := explores s root inherited [site.location] dir {site.location} [] none ""
      site.location (by simp)
    simp only [enter, location_start, insert_empty_eq]
    refine he.runs.tail ?_
    rw [step_leave rfl rfl]
    simp [leave]

theorem runs_end_of_runs (h : Runs s root (start s inherited dir) w) :
    Runs s root w ⟨∅, [], visibleBelow s root inherited dir⟩ := by
  have unique : Relator.RightUnique fun w w' => step s root w = some w' := by
    intro a b c hb hc
    exact Option.some.inj (hb.symm.trans hc)
  rcases Relation.ReflTransGen.total_of_right_unique unique h (runs_end s root inherited dir) with
    hr | hr
  · exact hr
  · -- Nothing comes after the end but the end.
    rcases Relation.ReflTransGen.cases_head_iff.mp hr with rfl | ⟨w', hs, -⟩
    · exact .refl
    · cases hs

/-- A walk is in no more directories at a time than there are. -/
theorem Sound.length_visits_le (h : Sound s dir w) (hd : s.isDirectory dir = true) :
    w.visits.length ≤ s.directoryLocations.ncard := by
  have hs : ↑(w.route.map (·.2)).toFinset ⊆ s.directoryLocations := by
    intro l hl
    obtain ⟨p, hp, rfl⟩ := List.mem_map.mp (List.mem_toFinset.mp hl)
    have hp' : s.isDirectory p.1 = true := by
      rcases h.entered p hp with he | he
      · rwa [he]
      · exact he
    obtain ⟨l, names, hf⟩ := find_of_isDirectory hp'
    have hl := h.located p hp
    rw [location?_of_find hf] at hl
    exact ⟨p.1, names, Option.some.inj hl ▸ hf⟩
  calc w.visits.length = (w.route.map (·.2)).toFinset.card := by
        rw [List.toFinset_card_of_nodup h.nodup, List.length_map, length_route]
    _ = (↑(w.route.map (·.2)).toFinset : Set Location).ncard := (Set.ncard_coe_finset _).symm
    _ ≤ s.directoryLocations.ncard := Set.ncard_le_ncard hs s.finite_directoryLocations

/-- A walk from a directory is never deeper than there are directories, enters a directory only if
its location is not in the set, and comes to its end, with what is visible. -/
theorem bounded_and_ends (inherited : Rules) (hd : s.isDirectory dir = true) :
    ∀ w, Runs s root (start s inherited dir) w →
      w.visits.length ≤ s.directoryLocations.ncard ∧
      (∀ w', step s root w = some w' → w.visits.length < w'.visits.length →
        ∃ v, w' = w.enter v ∧ s.location? v.dir = some v.location ∧ v.location ∉ w.ancestors) ∧
      Runs s root w ⟨∅, [], visibleBelow s root inherited dir⟩ ∧
      step s root ⟨∅, [], visibleBelow s root inherited dir⟩ = none := by
  intro w hw
  refine ⟨(sound_of_runs hw).length_visits_le hd, ?_, runs_end_of_runs hw, rfl⟩
  intro w' hs hdeep
  obtain ⟨v, name, coming, l, names, -, -, hf, hl, rfl⟩ := enters_of_length_lt hs hdeep
  exact ⟨_, rfl, by simpa using location?_of_find hf, by simpa using hl⟩

/-- Two directories that link to each other, one of them to itself and to the top as well. -/
def linkedDisk : Disk where
  entries := [(["a"], .directory), (["a", "b"], .link "../b"), (["a", "here"], .link "."),
    (["a", "top"], .link "/"), (["b"], .directory), (["b", "a"], .link "/a")]
  locations_nodup := by decide
  isName_of_mem := by decide

theorem bounded_and_ends_linkedDisk :
    let s := linkedDisk.storage []
    s.isDirectory "/" = true ∧
    ∀ w, Runs s "/" (start s [] "/") w →
      w.visits.length ≤ s.directoryLocations.ncard ∧
      (∀ w', step s "/" w = some w' → w.visits.length < w'.visits.length →
        ∃ v, w' = w.enter v ∧ s.location? v.dir = some v.location ∧ v.location ∉ w.ancestors) ∧
      Runs s "/" w ⟨∅, [], visibleBelow s "/" [] "/"⟩ ∧
      step s "/" ⟨∅, [], visibleBelow s "/" [] "/"⟩ = none := by
  have hd : (linkedDisk.storage []).isDirectory "/" = true := by decide
  exact ⟨hd, bounded_and_ends [] hd⟩

end Walk

end Survey

end Gazetteer

import Gazetteer.Proofs.Outline.Marks
import Gazetteer.Survey.Findings
import Mathlib.Data.List.Infix
import Mathlib.Data.List.Nodup

/-! # Visibility

Which entries a survey shows, said of an entry and the directories above it alone: its name and
theirs are listed and not hidden, no rule of a directory above ignores it or them, and the way to it
enters no directory twice. The rules handed down from directory to directory come to the rules of
all directories above.
-/

namespace Gazetteer

def Storage.location? (s : Storage) (path : String) : Option Location :=
  (s.find path).toOption.map (·.location)

namespace Survey

open Ignore Outline Gazetteer.Path

variable {s : Storage} {root dir name : String} {inherited : Rules} {chain : List Location}
  {trail : List String}

/-- The built-in and inherited rules, and those of all directories along a trail. -/
def rulesAlong (s : Storage) (root : String) (inherited : Rules) (dir : String)
    (trail : List String) : Rules :=
  Rules.builtIn root ++ inherited ++
    trail.inits.flatMap fun t => s.ignoreRules (join (descend dir t) Storage.ignoreFile)

/-- The locations of the directories that a trail leads through, beginning with the first. -/
def stops (s : Storage) (dir : String) (trail : List String) : List (Option Location) :=
  trail.dropLast.inits.map fun t => s.location? (descend dir t)

/-- What makes an entry below a directory visible. -/
structure Visible (s : Storage) (root : String) (inherited : Rules) (dir : String)
    (trail : List String) : Prop where
  below : trail ≠ []
  listed : ∀ t name, t ++ [name] <+: trail → isHidden name = false ∧
    ∃ names, s.names (descend dir t) = .ok names ∧ name ∈ names
  kept : ∀ t name, t ++ [name] <+: trail →
    (rulesAlong s root inherited dir t).ignores s.home (descend dir (t ++ [name]))
      (s.isDirectory (descend dir (t ++ [name]))) = false
  entered : (stops s dir trail).Nodup
  measured : s.isDirectory (descend dir trail) = false →
    ∃ size, s.size (descend dir trail) = .ok size

/-! ## One step of the way -/

/-- An entry of a directory that is neither hidden nor ignored. -/
structure Shown (s : Storage) (root : String) (inherited : Rules) (dir name : String) : Prop where
  unhidden : isHidden name = false
  listed : ∃ names, s.names dir = .ok names ∧ name ∈ names
  kept : (rulesIn s root inherited dir).ignores s.home (join dir name)
    (s.isDirectory (join dir name)) = false

/-- The way to a visible entry, as a survey goes it. -/
inductive Leads (s : Storage) (root : String) :
    Rules → List Location → String → List String → Prop where

  | here {inherited : Rules} {chain : List Location} {dir name : String}
      (h : Shown s root inherited dir name)
      (hm : s.isDirectory (join dir name) = false → ∃ size, s.size (join dir name) = .ok size) :
      Leads s root inherited chain dir [name]

  | deeper {inherited : Rules} {chain : List Location} {dir name : String} {l : Location}
      {names : List String} {trail : List String} (h : Shown s root inherited dir name)
      (hf : s.find (join dir name) = .ok ⟨l, .directory names⟩) (hl : l ∉ chain)
      (ht : Leads s root (rulesBelow s inherited dir) (l :: chain) (join dir name) trail) :
      Leads s root inherited chain dir (name :: trail)

theorem find_of_names {path : String} {names : List String} (h : s.names path = .ok names) :
    ∃ l, s.find path = .ok ⟨l, .directory names⟩ := by
  unfold Storage.names Storage.attempt at h
  split at h
  · cases h
  · split at h
    · cases h
    · next site hs =>
      rcases site with ⟨l, bytes | ns⟩
      · cases h
      · cases h; exact ⟨l, hs⟩

theorem trouble_of_names {path : String} {names : List String} (h : s.names path = .ok names) :
    s.trouble .list path = none := by
  unfold Storage.names Storage.attempt at h
  split at h
  · cases h
  · assumption

theorem names_of_find {path : String} {l : Location} {names : List String}
    (ht : s.trouble .list path = none) (h : s.find path = .ok ⟨l, .directory names⟩) :
    s.names path = .ok names := by
  simp [Storage.names, Storage.attempt, ht, h]

theorem isDirectory_of_find {path : String} {l : Location} {names : List String}
    (h : s.find path = .ok ⟨l, .directory names⟩) : s.isDirectory path = true := by
  simp [Storage.isDirectory, h]

theorem find_of_isDirectory {path : String} (h : s.isDirectory path = true) :
    ∃ l names, s.find path = .ok ⟨l, .directory names⟩ := by
  unfold Storage.isDirectory at h
  split at h
  · next l names hf => exact ⟨l, names, hf⟩
  · cases h

theorem location?_of_find {path : String} {l : Location} {content : Content}
    (h : s.find path = .ok ⟨l, content⟩) : s.location? path = some l := by
  simp [Storage.location?, h, Except.toOption]

/-! ## The branches of a directory -/

def branchAt (s : Storage) (root : String) (inherited : Rules) (chain : List Location)
    (dir name : String) : Option (Branch Unit) :=
  match s.find (join dir name) with
  | .ok ⟨l, .directory _⟩ =>
    if (rulesIn s root inherited dir).ignores s.home (join dir name) true then none
    else if chain.contains l then some (.loop name)
    else some (.folder name
      (visible s root (rulesBelow s inherited dir) (l :: chain) (join dir name)))
  | _ => visibleFile s (rulesIn s root inherited dir) (join dir name) name

theorem visible_of_names {names : List String} (h : s.names dir = .ok names) :
    visible s root inherited chain dir =
      (names.filter (!isHidden ·)).filterMap (branchAt s root inherited chain dir) := by
  rw [visible, h]
  apply List.filterMap_congr
  intro name _
  unfold branchAt
  dsimp only
  split <;> next hf => simp [hf]

theorem visible_of_error {f : Fault} (h : s.names dir = .error f) :
    visible s root inherited chain dir = [.fault f] := by
  rw [visible, h]

theorem not_directory_of_find {path : String}
    (h : ∀ l names, s.find path = .ok ⟨l, .directory names⟩ → False) :
    s.isDirectory path = false := by
  unfold Storage.isDirectory
  split
  · next l names hf => exact (h l names hf).elim
  · rfl

theorem mem_entriesOf_branchAt {e : List String × Bool} :
    (∃ b, branchAt s root inherited chain dir name = some b ∧ e ∈ entriesOf b) ↔
      (rulesIn s root inherited dir).ignores s.home (join dir name)
          (s.isDirectory (join dir name)) = false ∧
        (e = ([name], s.isDirectory (join dir name)) ∧
            (s.isDirectory (join dir name) = false → ∃ size, s.size (join dir name) = .ok size) ∨
          ∃ l names, s.find (join dir name) = .ok ⟨l, .directory names⟩ ∧ l ∉ chain ∧
            e ∈ (entriesOfAll (visible s root (rulesBelow s inherited dir) (l :: chain)
              (join dir name))).map (Prod.map (name :: ·) id)) := by
  unfold branchAt
  split
  · next l ns hf =>
    rw [isDirectory_of_find hf, hf]
    by_cases hi : (rulesIn s root inherited dir).ignores s.home (join dir name) true = true
    · simp [hi]
    · by_cases hl : l ∈ chain <;> simp [hi, hl, entriesOf]
  · next hf =>
    rw [not_directory_of_find hf, visibleFile]
    constructor
    · rintro ⟨b, hb, he⟩
      split at hb
      · cases hb
      · next hi =>
        split at hb
        · next size hs =>
          cases hb
          exact ⟨by simpa using hi, .inl ⟨by simpa [entriesOf] using he, fun _ => ⟨size, hs⟩⟩⟩
        · cases hb
    · rintro ⟨hi, ⟨rfl, hm⟩ | ⟨l, ns, hd, -⟩⟩
      · obtain ⟨size, hs⟩ := hm rfl
        exact ⟨.file name size (), by simp [hi, hs], by simp [entriesOf]⟩
      · exact (hf l ns hd).elim

theorem kept_of_branchAt {b : Branch Unit}
    (h : branchAt s root inherited chain dir name = some b) :
    (rulesIn s root inherited dir).ignores s.home (join dir name) (s.isDirectory (join dir name)) =
      false := by
  unfold branchAt at h
  split at h
  · next l names hf =>
    split at h
    · cases h
    · next hi => rw [isDirectory_of_find hf, Bool.eq_false_iff.mpr hi]
  · next hf =>
    unfold visibleFile at h
    split at h
    · cases h
    · next hi => rw [not_directory_of_find hf, Bool.eq_false_iff.mpr hi]

theorem mem_flatMap_visible {β : Type} {f : Branch Unit → List β} {x : β}
    (hf : ∀ cause, f (.fault cause) = []) :
    x ∈ (visible s root inherited chain dir).flatMap f ↔
      ∃ name, Shown s root inherited dir name ∧
        ∃ b, branchAt s root inherited chain dir name = some b ∧ x ∈ f b := by
  cases hn : s.names dir with
  | error cause =>
    rw [visible_of_error hn]
    constructor
    · intro h
      simp [hf] at h
    · rintro ⟨name, hs, -⟩
      obtain ⟨names, hl, -⟩ := hs.listed
      rw [hn] at hl
      cases hl
  | ok names =>
    rw [visible_of_names hn]
    simp only [List.mem_flatMap, List.mem_filterMap, List.mem_filter, Bool.not_eq_true']
    constructor
    · rintro ⟨b, ⟨name, ⟨hm, hh⟩, hb⟩, hx⟩
      exact ⟨name, ⟨hh, ⟨names, hn, hm⟩, kept_of_branchAt hb⟩, b, hb, hx⟩
    · rintro ⟨name, hs, b, hb, hx⟩
      obtain ⟨ns, hl, hm⟩ := hs.listed
      rw [hn] at hl
      cases hl
      exact ⟨b, ⟨name, ⟨hm, hs.unhidden⟩, hb⟩, hx⟩

theorem mem_entriesOfAll_visible {e : List String × Bool} :
    e ∈ entriesOfAll (visible s root inherited chain dir) ↔
      ∃ name, Shown s root inherited dir name ∧
        (e = ([name], s.isDirectory (join dir name)) ∧
            (s.isDirectory (join dir name) = false → ∃ size, s.size (join dir name) = .ok size) ∨
          ∃ l names, s.find (join dir name) = .ok ⟨l, .directory names⟩ ∧ l ∉ chain ∧
            e ∈ (entriesOfAll (visible s root (rulesBelow s inherited dir) (l :: chain)
              (join dir name))).map (Prod.map (name :: ·) id)) := by
  rw [entriesOfAll_eq_flatMap, mem_flatMap_visible fun _ => rfl]
  refine exists_congr fun name => and_congr_right fun hs => ?_
  rw [mem_entriesOf_branchAt]
  exact and_iff_right hs.kept

/-- The entries of what is visible are those that a way leads to. -/
theorem mem_entriesOfAll_iff_leads {isDir : Bool} :
    (trail, isDir) ∈ entriesOfAll (visible s root inherited chain dir) ↔
      Leads s root inherited chain dir trail ∧ s.isDirectory (descend dir trail) = isDir := by
  induction trail generalizing inherited chain dir with
  | nil =>
    constructor
    · intro h
      obtain ⟨n, -, ⟨he, -⟩ | ⟨l, ns, -, -, hm⟩⟩ := mem_entriesOfAll_visible.mp h
      · simp at he
      · simp at hm
    · rintro ⟨h, -⟩
      cases h
  | cons name trail ih =>
    constructor
    · intro h
      obtain ⟨n, hs, ⟨he, hm⟩ | ⟨l, ns, hf, hl, hm⟩⟩ := mem_entriesOfAll_visible.mp h
      · cases he
        exact ⟨.here hs hm, rfl⟩
      · obtain ⟨⟨t, d⟩, ht, he⟩ := List.mem_map.mp hm
        cases he
        obtain ⟨hw, hd⟩ := ih.mp ht
        exact ⟨.deeper hs hf hl hw, hd⟩
    · rintro ⟨h, rfl⟩
      apply mem_entriesOfAll_visible.mpr
      cases h with
      | here hs hm => exact ⟨name, hs, .inl ⟨rfl, hm⟩⟩
      | deeper hs hf hl hw =>
        exact ⟨name, hs, .inr ⟨_, _, hf, hl, List.mem_map.mpr ⟨_, ih.mpr ⟨hw, rfl⟩, rfl⟩⟩⟩

/-! ## The whole way -/

@[simp] theorem rulesAlong_nil :
    rulesAlong s root inherited dir [] = rulesIn s root inherited dir := by
  simp [rulesAlong, rulesIn]

/-- What a directory hands down is what the directories below it add to. -/
@[simp] theorem rulesAlong_cons : rulesAlong s root inherited dir (name :: trail) =
    rulesAlong s root (rulesBelow s inherited dir) (join dir name) trail := by
  simp [rulesAlong, rulesBelow, List.flatMap_map]

theorem stops_eq_cons : stops s dir trail = s.location? dir :: (stops s dir trail).tail := by
  cases h : trail.dropLast <;> simp [stops, h]

theorem stops_singleton : stops s dir [name] = [s.location? dir] := by
  simp [stops]

theorem stops_cons (h : trail ≠ []) :
    stops s dir (name :: trail) = s.location? dir :: stops s (join dir name) trail := by
  simp [stops, List.dropLast_cons_of_ne_nil h]

theorem append_singleton_prefix_cons {t : List String} {a : String} :
    t ++ [a] <+: name :: trail ↔
      t = [] ∧ a = name ∨ ∃ u, t = name :: u ∧ u ++ [a] <+: trail := by
  cases t with
  | nil => simp
  | cons b t => simp [List.cons_prefix_cons, and_assoc]

theorem visible_singleton_iff : Visible s root inherited dir [name] ↔
    Shown s root inherited dir name ∧
      (s.isDirectory (join dir name) = false → ∃ size, s.size (join dir name) = .ok size) := by
  constructor
  · intro h
    obtain ⟨hh, hl⟩ := h.listed [] name (List.prefix_refl _)
    exact ⟨⟨hh, hl, by simpa using h.kept [] name (List.prefix_refl _)⟩, h.measured⟩
  · rintro ⟨hs, hm⟩
    refine ⟨by simp, ?_, ?_, by simp [stops_singleton], hm⟩
    · intro t a ht
      rcases append_singleton_prefix_cons.mp ht with ⟨rfl, rfl⟩ | ⟨u, -, hu⟩
      · exact ⟨hs.unhidden, hs.listed⟩
      · simp at hu
    · intro t a ht
      rcases append_singleton_prefix_cons.mp ht with ⟨rfl, rfl⟩ | ⟨u, -, hu⟩
      · simpa using hs.kept
      · simp at hu

theorem visible_cons_iff (hne : trail ≠ []) : Visible s root inherited dir (name :: trail) ↔
    Shown s root inherited dir name ∧
      Visible s root (rulesBelow s inherited dir) (join dir name) trail ∧
      s.location? dir ∉ stops s (join dir name) trail := by
  constructor
  · intro h
    have he := h.entered
    rw [stops_cons hne, List.nodup_cons] at he
    have deeper : ∀ {t : List String} {a : String}, t ++ [a] <+: trail →
        (name :: t) ++ [a] <+: name :: trail := fun ht => List.cons_prefix_cons.mpr ⟨rfl, ht⟩
    have hp : [] ++ [name] <+: name :: trail := ⟨trail, rfl⟩
    obtain ⟨hh, hl⟩ := h.listed [] name hp
    refine ⟨⟨hh, hl, by simpa using h.kept [] name hp⟩, ⟨hne, ?_, ?_, he.2, h.measured⟩, he.1⟩
    · exact fun t a ht => h.listed _ a (deeper ht)
    · intro t a ht
      simpa using h.kept _ a (deeper ht)
  · rintro ⟨hs, hv, hd⟩
    refine ⟨by simp, ?_, ?_, ?_, hv.measured⟩
    · intro t a ht
      rcases append_singleton_prefix_cons.mp ht with ⟨rfl, rfl⟩ | ⟨u, rfl, hu⟩
      · exact ⟨hs.unhidden, hs.listed⟩
      · exact hv.listed u a hu
    · intro t a ht
      rcases append_singleton_prefix_cons.mp ht with ⟨rfl, rfl⟩ | ⟨u, rfl, hu⟩
      · simpa using hs.kept
      · simpa using hv.kept u a hu
    · rw [stops_cons hne, List.nodup_cons]
      exact ⟨hd, hv.entered⟩

theorem Visible.find (h : Visible s root inherited dir trail) :
    ∃ l names, s.find dir = .ok ⟨l, .directory names⟩ := by
  obtain ⟨name, rest, rfl⟩ := List.exists_cons_of_ne_nil h.below
  obtain ⟨-, names, hn, -⟩ := h.listed [] name ⟨rest, rfl⟩
  obtain ⟨l, hl⟩ := find_of_names hn
  exact ⟨l, names, hl⟩

/-- A way that avoids the chain leads to an entry if and only if the entry is visible. -/
theorem leads_iff (hc : ∃ m ∈ chain, s.location? dir = some m) :
    Leads s root inherited chain dir trail ↔
      Visible s root inherited dir trail ∧ ∀ m ∈ chain, some m ∉ (stops s dir trail).tail := by
  induction trail generalizing inherited chain dir with
  | nil => exact ⟨nofun, fun h => (h.1.below rfl).elim⟩
  | cons name trail ih =>
    by_cases hne : trail = []
    · subst hne
      rw [visible_singleton_iff, stops_singleton]
      constructor
      · intro h
        cases h with
        | here hs hm => exact ⟨⟨hs, hm⟩, by simp⟩
        | deeper _ _ _ hw => cases hw
      · rintro ⟨⟨hs, hm⟩, -⟩
        exact .here hs hm
    · obtain ⟨m₀, hm₀, hdir⟩ := hc
      rw [visible_cons_iff hne, stops_cons hne, List.tail_cons]
      constructor
      · intro h
        cases h with
        | here => exact (hne rfl).elim
        | @deeper _ _ _ _ l _ _ hs hf hl hw =>
          have hloc := location?_of_find hf
          obtain ⟨hv, ha⟩ := (ih ⟨l, by simp, hloc⟩).mp hw
          have avoid : ∀ m ∈ chain, some m ∉ stops s (join dir name) trail := by
            intro m hm
            rw [stops_eq_cons, hloc, List.mem_cons, not_or]
            exact ⟨fun he => hl (Option.some.inj he ▸ hm), ha m (List.mem_cons_of_mem _ hm)⟩
          exact ⟨⟨hs, hv, hdir ▸ avoid m₀ hm₀⟩, avoid⟩
      · rintro ⟨⟨hs, hv, -⟩, ha⟩
        obtain ⟨l, names, hf⟩ := hv.find
        have hloc := location?_of_find hf
        have hst : stops s (join dir name) trail =
            some l :: (stops s (join dir name) trail).tail := by
          rw [← hloc]
          exact stops_eq_cons
        have hnd := hv.entered
        rw [hst, List.nodup_cons] at hnd
        refine .deeper hs hf (fun hl => ha l hl (hst ▸ List.mem_cons_self)) ?_
        refine (ih ⟨l, by simp, hloc⟩).mpr ⟨hv, ?_⟩
        intro m hm
        rcases List.mem_cons.mp hm with rfl | hm
        · exact hnd.1
        · exact fun h => ha m hm (List.mem_of_mem_tail h)

end Survey

end Gazetteer

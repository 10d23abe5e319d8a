import Gazetteer.Proofs.Survey.Walk

/-! # Loops

Which directories are named without being entered. They are those whose locations lie on the way to
them; no other directory keeps a directory from being shown, neither one beside it nor one that the
walk has left. Behind this stands the set of a walk, which is back as it was whenever a directory
has been left.
-/

namespace Gazetteer

namespace Outline

variable {α : Type}

mutual

/-- The trails to the directories that are named without being entered. -/
def loopsOf : Branch α → List (List String)
  | .file _ _ _ => []
  | .folder name inside => (loopsOfAll inside).map (name :: ·)
  | .loop name => [[name]]
  | .fault _ => []

def loopsOfAll : List (Branch α) → List (List String)
  | [] => []
  | b :: bs => loopsOf b ++ loopsOfAll bs

end

theorem loopsOfAll_eq_flatMap (bs : List (Branch α)) : loopsOfAll bs = bs.flatMap loopsOf := by
  induction bs with
  | nil => rfl
  | cons b bs ih => rw [loopsOfAll, ih, List.flatMap_cons]

end Outline

namespace Survey

open Ignore Outline Gazetteer.Path

variable {s : Storage} {root dir name : String} {inherited : Rules} {chain : List Location}
  {trail : List String}

theorem file_of_visibleFile {rules : Rules} {path : String} {b : Branch Unit}
    (h : visibleFile s rules path name = some b) : ∃ size, b = .file name size () := by
  unfold visibleFile at h
  split at h
  · cases h
  · split at h
    · next size _ => exact ⟨size, (Option.some.inj h).symm⟩
    · cases h

theorem mem_loopsOf_branchAt (hs : Shown s root inherited dir name) :
    (∃ b, branchAt s root inherited chain dir name = some b ∧ trail ∈ loopsOf b) ↔
      ∃ l names, s.find (join dir name) = .ok ⟨l, .directory names⟩ ∧
        (l ∈ chain ∧ trail = [name] ∨
          l ∉ chain ∧ ∃ rest ∈ loopsOfAll (visible s root (rulesBelow s inherited dir) (l :: chain)
            (join dir name)), name :: rest = trail) := by
  unfold branchAt
  split
  · next l ns hf =>
    have hk := hs.kept
    rw [isDirectory_of_find hf] at hk
    simp only [hf, hk, Except.ok.injEq, Site.mk.injEq, Content.directory.injEq]
    by_cases hl : l ∈ chain <;> simp [hl, loopsOf]
  · next hf =>
    constructor
    · rintro ⟨b, hb, ht⟩
      obtain ⟨size, rfl⟩ := file_of_visibleFile hb
      cases ht
    · rintro ⟨l, names, hd, -⟩
      exact (hf l names hd).elim

theorem mem_loopsOfAll_visible :
    trail ∈ loopsOfAll (visible s root inherited chain dir) ↔
      ∃ name, Shown s root inherited dir name ∧
        ∃ l names, s.find (join dir name) = .ok ⟨l, .directory names⟩ ∧
          (l ∈ chain ∧ trail = [name] ∨
            l ∉ chain ∧ ∃ rest ∈ loopsOfAll (visible s root (rulesBelow s inherited dir)
              (l :: chain) (join dir name)), name :: rest = trail) := by
  rw [loopsOfAll_eq_flatMap, mem_flatMap_visible fun _ => rfl]
  exact exists_congr fun name => and_congr_right mem_loopsOf_branchAt

/-- The loops are the directories that a way leads to from within: their locations are on the chain,
or among those of the directories on the way. -/
theorem mem_loopsOfAll_iff_leads :
    trail ∈ loopsOfAll (visible s root inherited chain dir) ↔
      Leads s root inherited chain dir trail ∧
        ∃ l names, s.find (descend dir trail) = .ok ⟨l, .directory names⟩ ∧
          (l ∈ chain ∨ some l ∈ (stops s dir trail).tail) := by
  induction trail generalizing inherited chain dir with
  | nil =>
    constructor
    · intro h
      obtain ⟨n, -, l, names, -, ⟨-, ht⟩ | ⟨-, rest, -, ht⟩⟩ := mem_loopsOfAll_visible.mp h
      · cases ht
      · cases ht
    · rintro ⟨h, -⟩
      cases h
  | cons name trail ih =>
    constructor
    · intro h
      obtain ⟨n, hs, l, names, hf, ⟨hl, ht⟩ | ⟨hl, rest, hr, ht⟩⟩ := mem_loopsOfAll_visible.mp h
      · cases ht
        have hd : s.isDirectory (join dir name) = true := isDirectory_of_find hf
        exact ⟨.here hs (by simp [hd]), l, names, hf, .inl hl⟩
      · cases ht
        obtain ⟨hw, m, ns, hm, hc⟩ := ih.mp hr
        have hne : trail ≠ [] := by rintro rfl; cases hw
        refine ⟨.deeper hs hf hl hw, m, ns, hm, ?_⟩
        rw [stops_cons hne, List.tail_cons, stops_eq_cons, location?_of_find hf]
        rcases hc with hc | hc
        · rcases List.mem_cons.mp hc with rfl | hc
          · exact .inr List.mem_cons_self
          · exact .inl hc
        · exact .inr (List.mem_cons_of_mem _ hc)
    · rintro ⟨h, m, ns, hm, hc⟩
      apply mem_loopsOfAll_visible.mpr
      cases h with
      | here hs =>
        rw [stops_singleton, List.tail_cons] at hc
        exact ⟨name, hs, m, ns, hm, .inl ⟨hc.resolve_right List.not_mem_nil, rfl⟩⟩
      | @deeper _ _ _ _ l names _ hs hf hl hw =>
        have hne : trail ≠ [] := by rintro rfl; cases hw
        rw [stops_cons hne, List.tail_cons, stops_eq_cons, location?_of_find hf] at hc
        refine ⟨name, hs, l, names, hf, .inr ⟨hl, trail, ih.mpr ⟨hw, m, ns, hm, ?_⟩, rfl⟩⟩
        rcases hc with hc | hc
        · exact .inl (List.mem_cons_of_mem _ hc)
        · rcases List.mem_cons.mp hc with he | hc
          · exact .inl (Option.some.inj he ▸ List.mem_cons_self)
          · exact .inr hc

def loopsBelow (s : Storage) (root : String) (inherited : Rules) (dir : String) :
    List (List String) :=
  ((visibleBelow s root inherited dir).map loopsOfAll).getD []

theorem mem_loopsBelow_iff : trail ∈ loopsBelow s root inherited dir ↔
    Visible s root inherited dir trail ∧ s.isDirectory (descend dir trail) = true ∧
      s.location? (descend dir trail) ∈ stops s dir trail := by
  unfold loopsBelow visibleBelow
  cases hf : s.find dir with
  | error cause =>
    simp only [Option.map_none, Option.getD_none, List.not_mem_nil, false_iff, not_and]
    intro hv
    obtain ⟨l, names, hd⟩ := hv.find
    rw [hf] at hd
    cases hd
  | ok site =>
    have hl := location?_of_find hf
    have hs : stops s dir trail = s.location? dir :: (stops s dir trail).tail := stops_eq_cons
    rw [Option.map_some, Option.getD_some, mem_loopsOfAll_iff_leads,
      leads_iff ⟨_, List.mem_singleton_self _, hl⟩, hs, hl]
    constructor
    · rintro ⟨⟨hv, -⟩, l, names, hd, hc⟩
      refine ⟨hv, isDirectory_of_find hd, ?_⟩
      rw [location?_of_find hd]
      simpa using hc
    · rintro ⟨hv, hd, hc⟩
      have hn := hv.entered
      rw [hs, hl, List.nodup_cons] at hn
      obtain ⟨l, names, hd⟩ := find_of_isDirectory hd
      rw [location?_of_find hd] at hc
      exact ⟨⟨hv, by simpa using hn.1⟩, l, names, hd, by simpa using hc⟩

namespace Walk

theorem returns {w w' : Walk} (hw : Sound s dir w) (hs : step s root w = some w')
    (hd : w.visits.length < w'.visits.length) :
    ∃ found, RunsBelow s root w.visits.length w' (w.pass found) := by
  obtain ⟨v, name, coming, l, names, hv, -, hf, hl, rfl⟩ := enters_of_length_lt hs hd
  refine ⟨_, (explores s root (rulesBelow s v.inherited v.dir) (l :: w.route.map (·.2))
    (join v.dir name)).returns (fun m => hw.mem_ancestors_iff) hl ?_⟩
  rintro hn
  rw [hn] at hv
  cases hv

/-- At every point of a walk its set is that of the locations of the directories it is in, and they
differ from each other; when a directory is left, whether or not its names could be listed, the set
is what it was before. So a directory is named without being entered if and only if its location is
that of one on the way from the first directory to the one that holds it. -/
theorem loop_iff_on_the_way (s : Storage) (root : String) (inherited : Rules) (dir : String) :
    (∀ w, Runs s root (start s inherited dir) w → Sound s dir w ∧
      ∀ w', step s root w = some w' → w.visits.length < w'.visits.length →
        ∃ w'', RunsBelow s root w.visits.length w' w'' ∧ w''.visits.length = w.visits.length ∧
          w''.ancestors = w.ancestors) ∧
    Runs s root (start s inherited dir) ⟨∅, [], visibleBelow s root inherited dir⟩ ∧
    ∀ trail, trail ∈ loopsBelow s root inherited dir ↔
      Visible s root inherited dir trail ∧ s.isDirectory (descend dir trail) = true ∧
        s.location? (descend dir trail) ∈ stops s dir trail := by
  refine ⟨fun w hw => ⟨sound_of_runs hw, fun w' hs hd => ?_⟩, runs_end s root inherited dir,
    fun trail => mem_loopsBelow_iff⟩
  obtain ⟨found, hr⟩ := returns (sound_of_runs hw) hs hd
  refine ⟨w.pass found, hr, ?_, ancestors_pass⟩
  rw [← length_route, route_pass, length_route]

end Walk

end Survey

end Gazetteer

import Gazetteer.Proofs.Disk.LinkFree
import Gazetteer.Proofs.Ignore.Pruning
import Gazetteer.Proofs.Survey.Traversal

/-! # Towers

A directory with a directory in it, and so on down. Nothing is ignored in a tower, so that a survey
of it goes down to the last directory.
-/

namespace Gazetteer

/-! ## Characters that a match needs -/

namespace Regex

def needs (c : Char) : Regex → Bool
  | char x => x == c
  | cat a b => a.needs c || b.needs c
  | alt a b => a.needs c && b.needs c
  | empty | one _ | run _ | start | finish => false

theorem Spans.mem {r : Regex} {c : Char} {p : Bool} {m z : List Char} (h : r.Spans p m z)
    (hn : r.needs c = true) : c ∈ m := by
  induction h with
  | char => exact List.mem_singleton.mpr (eq_of_beq hn).symm
  | cat _ _ iha ihb =>
    rw [needs, Bool.or_eq_true] at hn
    exact List.mem_append.mpr (hn.imp iha ihb)
  | left _ ih => exact ih (Bool.and_eq_true_iff.mp hn).1
  | right _ ih => exact ih (Bool.and_eq_true_iff.mp hn).2
  | _ => cases hn

theorem mem_of_search {r : Regex} {c : Char} {s : String} (h : r.search s = true)
    (hn : r.needs c = true) : c ∈ s.toList := by
  obtain ⟨x, t, hs, m, z, rfl, hm⟩ := (search_iff r s).mp h
  rw [hs]
  exact List.mem_append_right _ (List.mem_append_left _ (hm.mem hn))

end Regex

open Gazetteer.Path Survey

abbrev stair (k : Nat) : List String := List.replicate k "d"

theorem stair_cons (k : Nat) : stair (k + 1) = "d" :: stair k := rfl

theorem stair_succ (k : Nat) : stair (k + 1) = stair k ++ ["d"] := List.replicate_succ'

theorem isTrail_stair (k : Nat) : IsTrail (stair k) := by
  intro name h
  rw [List.eq_of_mem_replicate h]
  decide

def stairPath (k : Nat) : String := descend "/d" (stair k)

theorem stairPath_succ (k : Nat) : stairPath (k + 1) = join (stairPath k) "d" := by
  rw [stairPath, stair_succ, descend_concat, stairPath]

theorem toList_stairPath (k : Nat) :
    (stairPath k).toList = (List.replicate (k + 1) ['/', 'd']).flatten := by
  induction k with
  | zero => decide
  | succ k ih =>
    have hl : (stairPath k).toList.getLast? = some 'd' := by
      rw [ih, List.replicate_succ', List.flatten_append]
      simp
    rw [stairPath_succ, toList_join (by decide), stem_of_last hl (by decide), ih,
      List.replicate_succ' (n := k + 1), List.flatten_append]
    simp

theorem byteLength_stairPath (k : Nat) : Disk.byteLength (stairPath k) = 2 * (k + 1) := by
  rw [Disk.byteLength, toList_stairPath]
  generalize k + 1 = n
  induction n with
  | zero => rfl
  | succ n ih =>
    have hl : (Text.Utf8.encode ['/', 'd']).length = 2 := by decide
    rw [List.replicate_succ, List.flatten_cons, Text.Utf8.encode, List.flatMap_append,
      List.length_append]
    unfold Text.Utf8.encode at hl ih
    omega

namespace Disk

/-- A directory at each of the first levels of a tower, and nothing else. -/
def tower (n : Nat) : Disk where
  entries := (List.range n).map fun i => (stair (i + 1), .directory)
  locations_nodup := by
    rw [List.map_map]
    refine List.Nodup.map (fun i j h => ?_) List.nodup_range
    simpa using congrArg List.length h
  isName_of_mem := by
    intro e he
    obtain ⟨i, -, rfl⟩ := List.mem_map.mp he
    exact isTrail_stair (i + 1)

variable {n k i : Nat} {l : Location} {o : Occupant} {path : String}

theorem occupant?_of_mem {d : Disk} (h : (l, o) ∈ d.entries) (hl : l ≠ []) :
    d.occupant? l = some o := by
  obtain ⟨before, after, he⟩ := List.append_of_mem h
  have hn := d.locations_nodup
  rw [he, List.map_append, List.nodup_append] at hn
  rw [occupant?, if_neg hl, List.lookup_eq_some_iff]
  refine ⟨before, after, he, fun p hp => bne_iff_ne.mpr fun hpl => ?_⟩
  exact hn.2.2 p.1 (List.mem_map_of_mem hp) l (by simp) hpl.symm

theorem occupant?_tower_stair (h : k ≤ n) : (tower n).occupant? (stair k) = some .directory := by
  cases k with
  | zero => rfl
  | succ k =>
    have hm : (stair (k + 1), Occupant.directory) ∈ (tower n).entries :=
      List.mem_map.mpr ⟨k, List.mem_range.mpr h, rfl⟩
    exact occupant?_of_mem hm (by simp)

theorem eq_directory_of_occupant? (h : (tower n).occupant? l = some o) : o = .directory := by
  unfold occupant? at h
  split at h
  · exact (Option.some.inj h).symm
  · obtain ⟨before, after, hs, -⟩ := List.lookup_eq_some_iff.mp h
    have hm : (l, o) ∈ (tower n).entries := by simp [hs]
    obtain ⟨i, -, he⟩ := List.mem_map.mp hm
    exact (Prod.ext_iff.mp he).2.symm

theorem linkFree_tower (n : Nat) : (tower n).LinkFree := fun _ _ h =>
  nomatch eq_directory_of_occupant? h

theorem step_tower (jump : Location → List String → Except Cause Location) (h : i + k ≤ n) :
    (tower n).step jump (stair i) (stair k) = .ok (stair (i + k)) := by
  induction k generalizing i with
  | zero => rfl
  | succ k ih =>
    have hi : (tower n).kind? (stair i) = some true :=
      occupant?_eq_directory_iff.mp (occupant?_tower_stair (by omega))
    have hn : (tower n).kind? (stair i ++ ["d"]) = some true := by
      rw [← stair_succ]
      exact occupant?_eq_directory_iff.mp (occupant?_tower_stair (by omega))
    have hb : ¬ nameLimit < byteLength "d" := by decide
    rw [stair_cons, step_name (linkFree_tower n) (by decide)]
    simp only [hi, hn, hb, ne_eq, not_true_eq_false, if_false, reduceCtorEq]
    rw [← stair_succ]
    have hs := ih (i := i + 1) (by omega)
    rw [hs]
    congr 2
    omega

theorem locate_tower (h : 0 < n) : (tower n).locate "/d" = .ok (stair 1) := by
  have hc : components "/d" = ["", "d"] := by decide
  have ho : (tower n).origin "/d" = [] := by rw [origin_eq, if_pos (by decide)]
  have htop : (tower n).kind? [] = some true :=
    occupant?_eq_directory_iff.mp (occupant?_tower_stair (k := 0) (Nat.zero_le n))
  rw [locate_eq, if_neg (by decide), if_neg (by decide), hc, ho, follow_linkLimit,
    step_cons (linkFree_tower n), if_neg (by simp [htop]), if_pos (by decide)]
  exact step_tower (i := 0) (k := 1) _ (by omega)

/-- Each path down a tower leads to a directory, unless it is too long. -/
theorem find_tower (hk : k < n) (hl : 2 * n ≤ pathLimit) :
    (tower n).find (stairPath k) =
      .ok ⟨stair (k + 1), .directory ((tower n).names (stair (k + 1)))⟩ := by
  have hb := byteLength_stairPath k
  have hp : (tower n).locate (stairPath k) = .ok (stair (1 + k)) := by
    rw [stairPath] at hb ⊢
    rw [locate_descend (linkFree_tower n) (locate_tower (by omega)) (isTrail_stair k),
      if_neg (by omega), follow_linkLimit, step_tower _ (by omega)]
  rw [find, hp, Nat.add_comm 1 k]
  simp [bind, Except.bind, siteAt, occupant?_tower_stair (n := n) (k := k + 1) hk]

theorem ignoreRules_tower (path : String) : ((tower n).storage []).ignoreRules path = [] := by
  unfold Storage.ignoreRules
  split
  · next l bytes hf =>
    obtain ⟨hl, ho⟩ := find_file_iff.mp hf
    exact nomatch eq_directory_of_occupant? ho
  · rfl

end Disk

/-- Nothing in a tower is ignored: the expressions of the built-in rules need other letters. -/
theorem builtIn_keeps_stairPath (home : String) (k : Nat) :
    (Ignore.Rules.builtIn "/d").ignores home (stairPath (k + 1)) true = false := by
  have hneeds : ∀ r ∈ Ignore.Rules.builtInRegexes, ['.', 'c', 'o', 's', 'u'].any r.needs := by
    decide
  have hother : ∀ c ∈ ['.', 'c', 'o', 's', 'u'], c ≠ '/' ∧ c ∉ "d".toList := by simp
  rw [Ignore.Rules.ignores, List.any_eq_false]
  intro rule hrule hi
  obtain ⟨r, hr, rfl⟩ := List.mem_map.mp hrule
  obtain ⟨c, hc, hn⟩ := List.any_eq_true.mp (hneeds r hr)
  obtain ⟨hslash, hd⟩ := hother c hc
  have hne : stair (k + 1) ≠ [] := by simp
  have hstair : ∀ name ∈ stair (k + 1), c ∉ name.toList := fun name hm => by
    rw [List.eq_of_mem_replicate hm]
    exact hd
  rcases (Ignore.ignores_descend_iff_search hne (isTrail_stair (k + 1)) home true).mp hi
    with hs | hs
  · exact Ignore.not_mem_spelt hslash hstair true (Regex.mem_of_search hs hn)
  · exact hstair _ (List.getLast_mem hne) (Regex.mem_of_search hs hn)

namespace Survey

theorem levels_lt_of_branchAt {s : Storage} {root dir name : String} {inherited : Ignore.Rules}
    {chain : List Location} {names : List String} {inside : List (Branch Unit)}
    (hn : s.names dir = .ok names) (hm : name ∈ names) (hh : isHidden name = false)
    (hb : branchAt s root inherited chain dir name = some (.folder name inside)) :
    levelsOfAll inside < levelsOfAll (visible s root inherited chain dir) := by
  have hmem : Branch.folder name inside ∈ visible s root inherited chain dir := by
    rw [visible_of_names hn, List.mem_filterMap]
    exact ⟨name, List.mem_filter.mpr ⟨hm, by simp [hh]⟩, hb⟩
  generalize visible s root inherited chain dir = bs at hmem
  induction bs with
  | nil => cases hmem
  | cons b bs ih =>
    rw [levelsOfAll]
    rcases List.mem_cons.mp hmem with rfl | hmem
    · rw [levelsOf]
      omega
    · have := ih hmem
      omega

variable {n k : Nat} {chain : List Location}

theorem branchAt_tower (hk : k + 1 < n) (hl : 2 * n ≤ Disk.pathLimit)
    (hc : ∀ l ∈ chain, l.length ≤ k + 1) :
    branchAt ((Disk.tower n).storage []) "/d" [] chain (stairPath k) "d" =
      some (.folder "d" (visible ((Disk.tower n).storage []) "/d" [] (stair (k + 2) :: chain)
        (stairPath (k + 1)))) := by
  have hf : ((Disk.tower n).storage []).find (stairPath (k + 1)) = _ := Disk.find_tower hk hl
  have hr : rulesBelow ((Disk.tower n).storage []) [] (stairPath k) = [] := by
    simp [rulesBelow, Disk.ignoreRules_tower]
  have hi : rulesIn ((Disk.tower n).storage []) "/d" [] (stairPath k) =
      Ignore.Rules.builtIn "/d" := by
    simp [rulesIn, Disk.ignoreRules_tower]
  have hnew : ¬ chain.contains (stair (k + 2)) = true := by
    rw [List.contains_iff_mem]
    intro hm
    simpa using hc _ hm
  rw [branchAt, ← stairPath_succ, hf]
  dsimp only
  rw [hi, builtIn_keeps_stairPath, hr, if_neg Bool.false_ne_true, if_neg hnew]

theorem le_levels_tower (hk : k < n) (hl : 2 * n ≤ Disk.pathLimit)
    (hc : ∀ l ∈ chain, l.length ≤ k + 1) :
    n ≤ k + 1 +
      levelsOfAll (visible ((Disk.tower n).storage []) "/d" [] chain (stairPath k)) := by
  obtain ⟨m, hm⟩ : ∃ m, m + (k + 1) = n := ⟨n - (k + 1), by omega⟩
  induction m generalizing k chain with
  | zero => omega
  | succ m ih =>
    have hnames : ((Disk.tower n).storage []).names (stairPath k) = .ok _ :=
      names_of_find rfl (Disk.find_tower hk hl)
    have hd : "d" ∈ (Disk.tower n).names (stair (k + 1)) := by
      rw [Disk.mem_names_iff, ← stair_succ, Disk.occupant?_tower_stair (by omega)]
      rfl
    have hlt := levels_lt_of_branchAt hnames hd (by decide)
      (branchAt_tower (by omega) hl hc)
    have hdeeper := @ih (k + 1) (stair (k + 2) :: chain) (by omega)
      (List.forall_mem_cons.mpr ⟨by simp, fun l hm => (hc l hm).trans (by omega)⟩) (by omega)
    omega

/-- There are towers of as many levels as paths can lead to. -/
theorem le_levelsBelow_tower (h : 0 < n) (hl : 2 * n ≤ Disk.pathLimit) :
    n ≤ levelsBelow ((Disk.tower n).storage []) "/d" { dir := "/d" } + 1 := by
  have hf : ((Disk.tower n).storage []).find "/d" = _ := Disk.find_tower (k := 0) h hl
  have hv : n ≤ 0 + 1 +
      levelsOfAll (visible ((Disk.tower n).storage []) "/d" [] [stair 1] (stairPath 0)) :=
    le_levels_tower h hl (by simp)
  have hp : stairPath 0 = "/d" := rfl
  rw [hp] at hv
  rw [levelsBelow, visibleBelow, hf]
  exact hv.trans (by rw [Nat.add_comm]; rfl)

end Survey

end Gazetteer

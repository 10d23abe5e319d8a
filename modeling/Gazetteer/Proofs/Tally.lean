import Gazetteer.Tally
import Mathlib.Algebra.GroupWithZero.Nat
import Mathlib.Algebra.Order.BigOperators.Group.List
import Mathlib.Algebra.Order.Group.Nat
import Mathlib.Data.List.Induction
import Mathlib.Data.List.Nodup

/-! # Recording in a tally

Tables of different files are recorded one after another, each in a place of its own. After any
recordings a tally holds the last table of every file, where the file was recorded first; its totals
are the sums over these tables.
-/

namespace Gazetteer.Tally

variable {t t' : SymbolTable} {ts us : List SymbolTable} {tally : Tally} {p : String}

theorem record_of_not_mem (h : t.path ∉ tally.files) : tally.record t = tally ++ [t] := by
  induction tally with
  | nil => rfl
  | cons u tally ih =>
    simp only [files, List.map_cons, List.mem_cons, not_or] at h
    rw [record, if_neg (Ne.symm h.1), ih h.2, List.cons_append]

theorem recordAll_of_nodup (h : (files (tally ++ ts)).Nodup) :
    tally.recordAll ts = tally ++ ts := by
  induction ts generalizing tally with
  | nil => simp [recordAll]
  | cons t ts ih =>
    rw [files, List.map_append, List.map_cons, List.nodup_append] at h
    have hn : t.path ∉ tally.files := fun hm => h.2.2 _ hm _ List.mem_cons_self rfl
    change (tally.record t).recordAll ts = _
    rw [record_of_not_mem hn, ih]
    · simp
    · rw [files, List.append_assoc, List.map_append, List.nodup_append]
      exact h

theorem recordAll_concat (ts : List SymbolTable) (t : SymbolTable) :
    tally.recordAll (ts ++ [t]) = (tally.recordAll ts).record t :=
  List.foldl_concat ..

theorem total_eq_sum (count : SymbolTable → Nat) (tally : Tally) :
    tally.total count = (tally.map count).sum := by
  rw [Tally.total, List.sum, List.foldr_map]

/-! ## What was recorded -/

/-- The tables that were recorded for a file, the last one at the end. -/
def recordings (ts : List SymbolTable) (path : String) : List SymbolTable :=
  ts.filter (·.path = path)

/-- The table that was recorded last for a file. -/
def latest (ts : List SymbolTable) (path : String) : Option SymbolTable :=
  (recordings ts path).getLast?

def recordedFiles (ts : List SymbolTable) : List String := (ts.map (·.path)).eraseDups

theorem latest_concat (ts : List SymbolTable) (t : SymbolTable) :
    latest (ts ++ [t]) = Function.update (latest ts) t.path (some t) := by
  funext p
  by_cases h : p = t.path
  · simp [latest, recordings, h]
  · simp [latest, recordings, Function.update_of_ne h, Ne.symm h]

theorem recordedFiles_concat (ts : List SymbolTable) (t : SymbolTable) :
    recordedFiles (ts ++ [t]) =
      if t.path ∈ recordedFiles ts then recordedFiles ts else recordedFiles ts ++ [t.path] := by
  unfold recordedFiles
  rw [List.map_append, List.eraseDups_append, List.map_singleton, List.cons_removeAll,
    List.nil_removeAll]
  by_cases h : t.path ∈ ts.map (·.path)
  · rw [if_pos (List.mem_eraseDups.mpr h), if_neg (by simpa using h)]
    exact List.append_nil _
  · rw [if_neg (fun hm => h (List.mem_eraseDups.mp hm)), if_pos (by simpa using h)]
    rfl

theorem nodup_recordedFiles (ts : List SymbolTable) : (recordedFiles ts).Nodup := by
  induction ts using List.reverseRecOn with
  | nil => exact List.nodup_nil
  | append_singleton ts t ih =>
    rw [recordedFiles_concat]
    split
    · exact ih
    · next h => exact List.nodup_middle.mpr (List.nodup_cons.mpr (by simpa using ⟨h, ih⟩))

theorem mem_recordedFiles_iff : p ∈ recordedFiles ts ↔ recordings ts p ≠ [] := by
  simp [recordedFiles, recordings, List.mem_eraseDups]

theorem recordings_swap (h : t.path ≠ t'.path) (before after : List SymbolTable) (p : String) :
    recordings (before ++ t :: t' :: after) p = recordings (before ++ t' :: t :: after) p := by
  unfold recordings
  rw [List.filter_append, List.filter_append]
  congr 1
  by_cases ht : t.path = p
  · simp [ht, show ¬ t'.path = p from fun hu => h (ht.trans hu.symm)]
  · simp [List.filter_cons, ht]

theorem latest_isSome_iff : (latest ts p).isSome ↔ p ∈ recordedFiles ts := by
  rw [mem_recordedFiles_iff, latest, List.getLast?_isSome]

theorem path_of_latest (h : latest ts p = some t) : t.path = p := by
  have hm : t ∈ recordings ts p := List.mem_of_getLast? h
  simpa using (List.mem_filter.mp hm).2

/-! ## What a tally holds -/

/-- The last table of every recorded file. -/
def currentTables (ts : List SymbolTable) : List SymbolTable :=
  (recordedFiles ts).filterMap (latest ts)

/-- Recording puts a table at the place of its file, or opens a place at the end. -/
theorem record_filterMap {paths : List String} {table : String → Option SymbolTable}
    (hn : paths.Nodup) (ht : ∀ p ∈ paths, ∃ u, table p = some u ∧ u.path = p) :
    record t (paths.filterMap table) =
      (if t.path ∈ paths then paths else paths ++ [t.path]).filterMap
        (Function.update table t.path (some t)) := by
  induction paths with
  | nil => simp [record]
  | cons p paths ih =>
    obtain ⟨u, hu, rfl⟩ := ht p List.mem_cons_self
    obtain ⟨hp, hn⟩ := List.nodup_cons.mp hn
    rw [List.filterMap_cons_some hu, record]
    by_cases he : u.path = t.path
    · -- The place is found; the files behind it are others, and keep their tables.
      rw [he] at hp
      have hr : paths.filterMap (Function.update table t.path (some t)) = paths.filterMap table :=
        List.filterMap_congr fun q hq => Function.update_of_ne (ne_of_mem_of_not_mem hq hp) ..
      simp [he, hr]
    · have hc : Function.update table t.path (some t) u.path = some u := by
        rw [Function.update_of_ne he, hu]
      rw [if_neg he, ih hn fun q hq => ht q (List.mem_cons_of_mem _ hq)]
      by_cases hm : t.path ∈ paths
      · simp [hm, hc]
      · simp [hm, hc, Ne.symm he]

theorem recordAll_empty (ts : List SymbolTable) : empty.recordAll ts = currentTables ts := by
  induction ts using List.reverseRecOn with
  | nil => rfl
  | append_singleton ts t ih =>
    have ht : ∀ p ∈ recordedFiles ts, ∃ u, latest ts p = some u ∧ u.path = p := by
      intro p hp
      obtain ⟨u, hu⟩ := Option.isSome_iff_exists.mp (latest_isSome_iff.mpr hp)
      exact ⟨u, hu, path_of_latest hu⟩
    rw [recordAll_concat, ih, currentTables, currentTables, latest_concat, recordedFiles_concat]
    exact record_filterMap (nodup_recordedFiles ts) ht

theorem files_currentTables (ts : List SymbolTable) :
    files (currentTables ts) = recordedFiles ts := by
  unfold files currentTables
  rw [List.map_filterMap]
  calc (recordedFiles ts).filterMap (fun p => (latest ts p).map (·.path))
      = (recordedFiles ts).filterMap some := by
        refine List.filterMap_congr fun p hp => ?_
        obtain ⟨u, hu⟩ := Option.isSome_iff_exists.mp (latest_isSome_iff.mpr hp)
        rw [hu, Option.map_some, path_of_latest hu]
    _ = recordedFiles ts := List.filterMap_some

theorem currentTables_concat (h : latest ts t.path = some t) :
    currentTables (ts ++ [t]) = currentTables ts := by
  have hm : t.path ∈ recordedFiles ts := latest_isSome_iff.mp (by simp [h])
  rw [currentTables, latest_concat, recordedFiles_concat, if_pos hm, ← h, Function.update_eq_self]
  rfl

/-- Which tables are held depends on the recordings of each file by itself. -/
theorem currentTables_perm (h : ∀ p, recordings us p = recordings ts p) :
    (currentTables us).Perm (currentTables ts) := by
  have hl : latest us = latest ts := funext fun p => congrArg List.getLast? (h p)
  have hp : (recordedFiles us).Perm (recordedFiles ts) := by
    refine (List.perm_ext_iff_of_nodup (nodup_recordedFiles us) (nodup_recordedFiles ts)).mpr ?_
    intro p
    rw [mem_recordedFiles_iff, mem_recordedFiles_iff, h p]
  rw [currentTables, hl]
  exact hp.filterMap _

theorem totals_perm {a b : Tally} (h : a.Perm b) : a.totals = b.totals := by
  have ht : ∀ count : SymbolTable → Nat, a.total count = b.total count := fun count => by
    rw [total_eq_sum, total_eq_sum]
    exact (h.map count).sum_eq
  simp only [totals, ht, h.length_eq]

theorem functions_le_total (tally : Tally) :
    (tally.map (·.functions.length)).sum ≤ tally.total (·.discovered) := by
  rw [total_eq_sum]
  exact List.sum_le_sum fun t _ => t.functions_le

/-- A tally lists every recorded file once, where it was recorded first, and its totals are the sums
over the tables that were recorded last. To record the last table of a file again changes nothing,
the order in which different files are recorded has no part in the totals, and no function that is
kept in a table is left out of them. -/
theorem totals_of_latest (ts : List SymbolTable) :
    let tally := empty.recordAll ts
    let paths := (ts.map (·.path)).eraseDups
    let last := paths.filterMap (latest ts)
    tally.files = paths ∧ last.map (·.path) = paths ∧
      tally.totals = {
        files := paths.length
        functions := ((last.map (·.discovered)).sum : Nat)
        bindings := ((last.map (·.bindings.length)).sum : Nat)
        classes := ((last.map (·.classes.length)).sum : Nat) } ∧
      (∀ t, latest ts t.path = some t → empty.recordAll (ts ++ [t]) = tally) ∧
      (∀ us, (∀ p, recordings us p = recordings ts p) →
        (empty.recordAll us).totals = tally.totals) ∧
      ((tally.map (·.functions.length)).sum : Nat) ≤ tally.totals.functions := by
  have hl : (currentTables ts).length = (recordedFiles ts).length := by
    rw [← files_currentTables, files, List.length_map]
  refine ⟨?_, files_currentTables ts, ?_, fun t ht => ?_, fun us hu => ?_, ?_⟩
  · rw [recordAll_empty, files_currentTables]
    rfl
  · rw [recordAll_empty, totals, hl, total_eq_sum, total_eq_sum, total_eq_sum]
    rfl
  · rw [recordAll_empty, recordAll_empty, currentTables_concat ht]
  · rw [recordAll_empty, recordAll_empty]
    exact totals_perm (currentTables_perm hu)
  · exact Int.ofNat_le.mpr (functions_le_total _)

def sampleTable (path : String) (met : Nat) : SymbolTable :=
  .make path "python" [⟨"f", ⟨1, 0, 1, 13⟩, "def f(): pass", none⟩] [] [] [] [] met

/-- A file is recorded again with fewer functions; another one is recorded before or after it. -/
theorem totals_of_latest_repeatedFile :
    let first := sampleTable "/p/a.py" 3
    let other := sampleTable "/p/b.py" 0
    let again := sampleTable "/p/a.py" 2
    let ts := [first, other, again]
    let us := [other, first, again]
    latest ts again.path = some again ∧ (∀ p, recordings us p = recordings ts p) ∧
      (empty.recordAll ts).files = ["/p/a.py", "/p/b.py"] ∧
      (empty.recordAll ts).totals = { files := 2, functions := 3, bindings := 0, classes := 0 } ∧
      empty.recordAll (ts ++ [again]) = empty.recordAll ts ∧
      (empty.recordAll us).totals = (empty.recordAll ts).totals := by
  intro first other again ts us
  have hp : ∀ p, recordings us p = recordings ts p :=
    recordings_swap (show other.path ≠ first.path by decide) [] [again]
  have hl : latest ts again.path = some again := by decide
  obtain ⟨hf, -, ht, hr, ho, -⟩ := totals_of_latest ts
  exact ⟨hl, hp, hf.trans (by decide), ht.trans (by decide), hr again hl, ho us hp⟩

end Gazetteer.Tally

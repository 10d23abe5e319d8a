import Gazetteer.Ignore.Rules
import Gazetteer.Proofs.Ignore.Globs
import Gazetteer.Proofs.Path.Relocation

/-! # Anchored rules

An anchored rule looks at the beginning of the path from its directory, but also at the beginning of
the bare name. So it ignores what it was written for and, at any depth, what has the same name.
-/

namespace Gazetteer.Ignore

open Gazetteer.Path

/-- Rules that are meant for the directory they are written for: those of lines that a slash leads,
and the built-in ones for build output. -/
inductive Anchored : Rule → (body : List Char) → Prop where
  | line {rule : Rule} {line base : String} : rule ∈ Rules.ofLines [line] base →
      (Text.trimChars line.toList).head? = some '/' →
      Anchored rule (bodyOf (Text.trimChars line.toList))
  | buildOutput {rule : Rule} {root name : String} : rule ∈ Rules.builtIn root →
      name ∈ ["dist", "build", "coverage"] → rule.regex = Glob.topName name →
      Anchored rule name.toList

variable {rule : Rule} {b : List Char} {trail : List String} {name : String}

theorem compileLine_of_mem_ofLines {line base : String} (h : rule ∈ Rules.ofLines [line] base) :
    compileLine line = some rule.regex ∧ rule.base = base := by
  obtain ⟨regex, hc, rfl⟩ : ∃ regex, compileLine line = some regex ∧
      ⟨Text.trim line, regex, base⟩ = rule := by
    simpa [Rules.ofLines] using h
  exact ⟨hc, rfl⟩

theorem Anchored.heads (h : Anchored rule b) : Heads rule.regex b := by
  cases h with
  | @line line base hr hs =>
    have hc := (compileLine_of_mem_ofLines hr).1
    obtain ⟨r, hr, hh⟩ := exists_heads rfl (not_isNameless_of_compileLine hc) (.inl hs)
    rw [hc] at hr
    cases hr
    exact hh
  | buildOutput _ hn hr =>
    rw [hr]
    simp only [List.mem_cons, List.not_mem_nil, or_false] at hn
    rcases hn with rfl | rfl | rfl <;> exact heads_topName (by simp) (by simp)

/-- The spelling of what lies below a directory along some names. -/
def spelt (trail : List String) (isDir : Bool) : String :=
  if isDir then "/".intercalate trail ++ "/" else "/".intercalate trail

theorem spelling_descend (hne : trail ≠ []) (ht : IsTrail trail) (home base : String)
    (isDir : Bool) :
    spelling home base (descend base trail) isDir = spelt trail isDir := by
  rw [spelling, relativeTo_descend hne ht, spelt]

theorem ignores_descend_iff_search (hne : trail ≠ []) (ht : IsTrail trail) (home : String)
    (isDir : Bool) :
    rule.ignores home (descend rule.base trail) isDir = true ↔
      rule.regex.search (spelt trail isDir) = true ∨
        rule.regex.search (trail.getLast hne) = true := by
  rw [Rule.ignores, spelling_descend hne ht, baseName_descend hne ht, Bool.or_eq_true]

theorem ignores_descend_iff (h : Heads rule.regex b) (hne : trail ≠ []) (ht : IsTrail trail)
    (home : String) (isDir : Bool) :
    rule.ignores home (descend rule.base trail) isDir = true ↔
      rule.regex.matchStart (spelt trail isDir) = true ∨
        rule.regex.matchStart (trail.getLast hne) = true := by
  rw [ignores_descend_iff_search hne ht, h.search_eq, h.search_eq]

/-- An anchored rule ignores what its expression matches from the beginning of the path, and any
entry whose bare name fits the body. It keeps to its directory for exactly those paths that its
expression matches from the beginning whenever their bare name fits. -/
theorem Anchored.ignores_iff (h : Anchored rule b) (hne : trail ≠ []) (ht : IsTrail trail)
    (home : String) (isDir : Bool) :
    let path := descend rule.base trail
    let start := rule.regex.matchStart (spelling home rule.base path isDir)
    (start = true ↔ Fits b (spelt trail isDir).toList) ∧
      (rule.ignores home path isDir = true ↔ start = true ∨ Fits b (trail.getLast hne).toList) ∧
      ((rule.ignores home path isDir = true → start = true) ↔
        (Fits b (trail.getLast hne).toList → start = true)) := by
  intro path start
  have hs : start = rule.regex.matchStart (spelt trail isDir) := by
    rw [← spelling_descend hne ht home rule.base isDir]
  have hi : rule.ignores home path isDir = true ↔
      start = true ∨ Fits b (trail.getLast hne).toList := by
    rw [ignores_descend_iff h.heads hne ht, hs, h.heads.matchStart_iff (trail.getLast hne)]
  refine ⟨by rw [hs, h.heads.matchStart_iff], hi, ?_⟩
  rw [hi, or_imp, imp_self, true_and]

theorem builtIn_build_ignores_iff :
    let rule : Rule := ⟨(Glob.topName "build").print, Glob.topName "build", "/p"⟩
    rule ∈ Rules.builtIn "/p" ∧
      (rule.ignores "/" (descend "/p" ["src", "build"]) true = true ↔
        rule.regex.matchStart (spelling "/" "/p" (descend "/p" ["src", "build"]) true) = true ∨
          Fits "build".toList "build".toList) := by
  intro rule
  have hr : rule ∈ Rules.builtIn "/p" := by simp [rule, Rules.builtIn, Rules.builtInRegexes]
  have ha : Anchored rule "build".toList := .buildOutput hr (by simp) rfl
  exact ⟨hr, (ha.ignores_iff (by simp) (by decide +kernel) "/" true).2.1⟩

/-- A line with a leading slash does not keep to its directory. -/
theorem build_ignored_below : ∃ rule ∈ Rules.ofLines ["/build"] "/p",
    rule.ignores "/" "/p/src/build" true = true ∧
      rule.regex.matchStart (spelling "/" rule.base "/p/src/build" true) = false := by
  decide +kernel

end Gazetteer.Ignore

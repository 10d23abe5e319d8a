import Gazetteer.Proofs.Path.Reduction
import Gazetteer.Request

/-! # The guard against top directories

The check of a path reports the paths that are absolute and whose components reduce to nothing. It
reduces the path as it is written, while the survey starts at the path without the blanks at its
ends. The two agree unless blanks hide a spelling of a top directory.
-/

namespace Gazetteer.Request

theorem checkPath_unix_ok_iff {path : String} :
    checkPath .unix path = .ok () ↔ Text.isBlankText path = false ∧ ¬ Path.SpellsTop path := by
  unfold checkPath
  cases hb : Text.isBlankText path with
  | true => simp
  | false =>
    by_cases ht : Path.SpellsTop path
    · simp [ht, Path.parent_normalize_eq_iff, Platform.onSystemDrive]
    · simp [ht, Path.parent_normalize_eq_iff, Platform.onSystemDrive]

/-- Among the paths that are not blank, the check reports as a top directory just those that begin
with a slash and whose components reduce to nothing; it accepts all others, relative paths first. -/
theorem topDirectory_iff_reduces {path : String} (h : Text.isBlankText path = false) :
    ((∃ top, checkPath .unix path = .error (.topDirectory top)) ↔
      Path.isAbsolute path = true ∧
        Relation.ReflTransGen Path.Reduces (Path.components path) []) ∧
    ((∃ top, checkPath .unix path = .error (.topDirectory top)) ∨
      checkPath .unix path = .ok ()) ∧
    (Path.isAbsolute path = false → checkPath .unix path = .ok ()) := by
  rw [← Path.spellsTop_iff_reduces]
  by_cases ht : Path.SpellsTop path
  · have he : ∃ top, checkPath .unix path = .error (.topDirectory top) := by
      refine ⟨Path.normalize path, ?_⟩
      simp [checkPath, h, Platform.onSystemDrive, Path.parent_normalize_eq_iff.mpr ht]
    exact ⟨iff_of_true he ht, .inl he, fun ha => absurd ht.1 (by simp [ha])⟩
  · have hk : checkPath .unix path = .ok () := checkPath_unix_ok_iff.mpr ⟨h, ht⟩
    exact ⟨iff_of_false (by simp [hk]) ht, .inr hk, fun _ => hk⟩

/-- Two slashes and a detour that goes up too far spell a top directory; a detour from a relative
path does not. -/
theorem topDirectory_iff_reduces_detours :
    Text.isBlankText "//a/./..//.." = false ∧
      (∃ top, checkPath .unix "//a/./..//.." = .error (.topDirectory top)) ∧
      Relation.ReflTransGen Path.Reduces (Path.components "//a/./..//..") [] ∧
    Text.isBlankText "a/.." = false ∧ Path.isAbsolute "a/.." = false ∧
      checkPath .unix "a/.." = .ok () := by
  have hb : Text.isBlankText "//a/./..//.." = false := by decide
  have hr : Text.isBlankText "a/.." = false := by decide
  have ha : Path.isAbsolute "a/.." = false := by decide
  have ht : ∃ top, checkPath .unix "//a/./..//.." = .error (.topDirectory top) :=
    ⟨"//", by decide⟩
  exact ⟨hb, ht, ((topDirectory_iff_reduces hb).1.mp ht).2, hr, ha,
    (topDirectory_iff_reduces hr).2.2 ha⟩

theorem ok_of_bind {ε α β : Type} {x : Except ε α} {f : α → Except ε β} {b : β}
    (h : x >>= f = .ok b) : ∃ a, x = .ok a ∧ f a = .ok b := by
  cases x with
  | error e => simp [bind, Except.bind] at h
  | ok a => exact ⟨a, rfl, h⟩

theorem error_of_bind {ε α β : Type} {x : Except ε α} {f : α → Except ε β} {e : ε}
    (h : x >>= f = .error e) : x = .error e ∨ ∃ a, x = .ok a ∧ f a = .error e := by
  cases x with
  | error e' => exact .inl (congrArg Except.error (Except.error.inj h))
  | ok a => exact .inr ⟨a, rfl, h⟩

theorem parts_of_scope {r : Request} {scope : Survey.Scope} (h : r.scope = .ok scope) :
    ∃ kinds patterns depth, checkPath .unix r.path = .ok () ∧ readKinds r.symbols = .ok kinds ∧
      readPatterns r.patterns = .ok patterns ∧ readDepth r.depth = .ok depth ∧
      scope = ⟨r.root, r.analyze, if r.listSymbols then kinds else [], patterns, depth⟩ := by
  unfold Request.scope at h
  obtain ⟨⟨⟩, hp, h⟩ := ok_of_bind h
  obtain ⟨kinds, hk, h⟩ := ok_of_bind h
  obtain ⟨patterns, hf, h⟩ := ok_of_bind h
  obtain ⟨depth, hd, h⟩ := ok_of_bind h
  exact ⟨kinds, patterns, depth, hp, hk, hf, hd, (Except.ok.inj h).symm⟩

theorem root_of_scope {r : Request} {scope : Survey.Scope} (h : r.scope = .ok scope) :
    scope.root = r.root := by
  obtain ⟨kinds, patterns, depth, -, -, -, -, rfl⟩ := parts_of_scope h
  dsimp only

theorem analyze_of_scope {r : Request} {scope : Survey.Scope} (h : r.scope = .ok scope) :
    scope.analyze = r.analyze := by
  obtain ⟨kinds, patterns, depth, -, -, -, -, rfl⟩ := parts_of_scope h
  dsimp only

/-- A request for a path that passes the check surveys no top directory, unless the path spells
one once the blanks at its ends are gone. -/
theorem passes_below_top_iff (r : Request) :
    ((checkPath .unix r.path = .ok () → Path.parent r.root ≠ r.root) ↔
      Text.trim r.path = r.path ∨ ¬ Path.SpellsTop (Text.trim r.path)) ∧
    ∀ scope, r.scope = .ok scope → scope.root = r.root := by
  refine ⟨?_, fun _ => root_of_scope⟩
  simp only [checkPath_unix_ok_iff, Request.root, ne_eq, Path.parent_normalize_eq_iff]
  constructor
  · intro h
    by_cases ht : Text.trim r.path = r.path
    · exact .inl ht
    · refine .inr fun hs => h ⟨?_, Path.not_spellsTop_of_trim_ne ht⟩ hs
      cases hb : Text.isBlankText r.path with
      | false => rfl
      | true =>
        rw [Text.trim_of_isBlankText hb] at hs
        exact absurd hs.1 (by decide)
  · rintro (ht | ht) ⟨-, hs⟩
    · rwa [ht]
    · exact ht

/-- The blank before the slash hides the root of the file system from the check. -/
theorem blank_slash_passes :
    checkPath .unix " /" = .ok () ∧ Path.normalize (Text.trim " /") = "/" ∧
      Path.parent (Path.normalize (Text.trim " /")) = Path.normalize (Text.trim " /") := by
  decide

end Gazetteer.Request

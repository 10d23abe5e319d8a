import Gazetteer.Proofs.Survey.Traversal
import Gazetteer.Request

/-! # Attempts at a request

An attempt comes to the answer of a machine without bounds, unless the depth has too many digits or
the directories lie too deep.
-/

namespace Gazetteer.Request

open Survey

variable {m : Machine} {s : Storage} {r : Request} {c : Cabinet} {scope : Scope} {e : Rejection}

theorem attempt_of_error (h : r.scope = .error e) :
    r.attempt m s c = (.error (refuse m e), c) := by
  simp [attempt, h]

theorem answer_of_ok (h : r.scope = .ok scope) :
    (r.answer s c).1 = .ok (.make scope (survey s scope { dir := scope.root } c).1.text
      (survey s scope { dir := scope.root } c).1.tally) := by
  simp [answer, h]

theorem attempt_of_ok (h : r.scope = .ok scope) :
    (r.attempt m s c).1 =
      if m.writes scope.depth then
        if levelsBelow s scope.root { dir := scope.root } < m.levels then
          .ok (.make scope (survey s scope { dir := scope.root } c).1.text
            (survey s scope { dir := scope.root } c).1.tally)
        else .error .noRoom
      else .error .longNumber := by
  obtain ⟨hfits, hbreaks, -⟩ := traverse_eq_survey s scope m.levels { dir := scope.root } c
  simp only [attempt, h]
  by_cases hw : m.writes scope.depth = true
  · rw [if_pos hw, if_pos hw]
    by_cases hl : levelsBelow s scope.root { dir := scope.root } < m.levels
    · rw [if_pos hl, hfits hl]
    · have hn := hbreaks (Nat.not_lt.mp hl)
      rw [if_neg hl]
      rcases ht : traverse s scope m.levels scope.analyze { dir := scope.root }
        { cabinet := c } with ⟨_ | outline, log⟩
      · rfl
      · rw [ht] at hn
        cases hn
  · rw [if_neg hw, if_neg hw]

/-- What is answered is what a machine without bounds answers. -/
theorem answer_of_attempt {a : Answer} (h : (r.attempt m s c).1 = .ok a) :
    (r.answer s c).1 = .ok a := by
  cases hs : r.scope with
  | error e => rw [attempt_of_error hs] at h; cases h
  | ok scope =>
    rw [attempt_of_ok hs] at h
    split_ifs at h
    exact (answer_of_ok hs).trans (congrArg Except.ok (Except.ok.inj h))

end Gazetteer.Request

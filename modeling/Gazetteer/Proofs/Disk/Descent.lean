import Gazetteer.Disk
import Gazetteer.Proofs.Path.Descent
import Mathlib.Tactic.SplitIfs

/-! # The way to a directory

Wherever a path leads, through links or not, a longer path goes on from there. A path that goes down
from a directory is resolved from the location of the directory.
-/

namespace Gazetteer.Disk

open Gazetteer.Path

variable {d : Disk} {jump : Location → List String → Except Cause Location} {here l m : Location}
  {trail : List String} {dir : String}

/-- Wherever the first components of a path lead, the others go on from there. -/
def Splits (d : Disk) (walk : Location → List String → Except Cause Location) : Prop :=
  ∀ here cs, (∃ k m, ∀ ds, walk here (cs ++ ds) = d.follow k m ds) ∨
    ∃ cause, ∀ ds, walk here (cs ++ ds) = .error cause

theorem splits_step {n : Nat} (hn : d.follow n = d.step jump) (hj : d.Splits jump) :
    d.Splits (d.step jump) := by
  intro here cs
  induction cs generalizing here with
  | nil => exact .inl ⟨n, here, fun ds => by rw [hn, List.nil_append]⟩
  | cons c cs ih =>
    simp only [List.cons_append, step_component]
    split_ifs
    · exact .inr ⟨_, fun _ => rfl⟩
    · exact ih here
    · exact ih here.dropLast
    · exact .inr ⟨_, fun _ => rfl⟩
    · cases d.occupant? (here ++ [c]) with
      | none => exact .inr ⟨_, fun _ => rfl⟩
      | some o =>
        cases o with
        | file bytes => exact ih (here ++ [c])
        | directory => exact ih (here ++ [c])
        | link target =>
          simp only [← List.append_assoc]
          exact hj _ _

theorem splits_follow (d : Disk) (n : Nat) : d.Splits (d.follow n) := by
  induction n with
  | zero => exact splits_step (n := 0) rfl fun _ _ => .inr ⟨_, fun _ => rfl⟩
  | succ n ih => exact splits_step (n := n + 1) rfl ih

theorem follow_nil (d : Disk) (n : Nat) (here : Location) : d.follow n here [] = .ok here := by
  cases n <;> rfl

theorem follow_eq_step (d : Disk) (n : Nat) : ∃ jump, d.follow n = d.step jump := by
  cases n with
  | zero => exact ⟨_, rfl⟩
  | succ n => exact ⟨_, rfl⟩

theorem eq_of_follow_empty {n : Nat} (h : d.follow n here [""] = .ok m) : m = here := by
  have hs (jump) (h : d.step jump here [""] = .ok m) : m = here := by
    rw [step_component] at h
    split_ifs at h <;> simp_all [step_nil]
  cases n with
  | zero => exact hs _ h
  | succ n => exact hs _ h

theorem follow_of_locate {path : String} (h : d.locate path = .ok l) :
    path ≠ "" ∧ byteLength path ≤ pathLimit ∧
      d.follow linkLimit (d.origin path) (components path) = .ok l := by
  rw [locate_eq] at h
  split_ifs at h with hp hb
  exact ⟨hp, by omega, h⟩

theorem origin_descend (ht : IsTrail trail) : d.origin (descend dir trail) = d.origin dir := by
  rw [origin_eq, origin_eq, isAbsolute_descend ht]

/-- A path that goes down from a located directory is resolved from there, unless it is too long. -/
theorem exists_locate_descend (hl : d.locate dir = .ok l) (ht : IsTrail trail) :
    ∃ k, d.locate (descend dir trail) =
      if pathLimit < byteLength (descend dir trail) then .error .nameTooLong
      else d.follow k l trail := by
  obtain ⟨hp, hb, hf⟩ := follow_of_locate hl
  by_cases hne : trail = []
  · exact ⟨0, by rw [hne, descend_nil, hl, if_neg (by omega), follow_nil]⟩
  · obtain ⟨base, hc, hbase⟩ := components_descend hne ht
    rw [locate_eq, if_neg (descend_ne_empty hp ht), origin_descend ht, hc]
    rcases splits_follow d linkLimit (d.origin dir) base with ⟨k, m, hk⟩ | ⟨cause, hk⟩
    · have hm : m = l := by
        rcases hbase with hbase | hbase
        · rw [hbase, ← base.append_nil, hk, follow_nil] at hf
          exact Except.ok.inj hf
        · rw [hbase, hk] at hf
          exact (eq_of_follow_empty hf).symm
      exact ⟨k, by rw [hk, hm]⟩
    · rcases hbase with hbase | hbase
      · rw [hbase, ← base.append_nil, hk] at hf
        cases hf
      · rw [hbase, hk] at hf
        cases hf

end Gazetteer.Disk

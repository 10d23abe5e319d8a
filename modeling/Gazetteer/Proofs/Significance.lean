import Gazetteer.Significance

/-! # What significance keeps

A function is noted unless it is short and written inline, short and handed to a method of arrays,
or short and anonymous; each time another length counts as short.
-/

namespace Gazetteer

open Significance

variable {p q : Place} {n : Node} {src : Source} {c : Candidate} {inlineKinds : List String}

namespace Significance

def callKinds : List String := ["call_expression", "member_expression", "call"]

def argumentKinds : List String := ["arguments", "argument_list"]

/-- A call or member access that a function is handed to, as it stands or among the arguments. -/
inductive HandedTo (p : Place) : Node → Prop where

  | bare {q : Place} : p.parent? = some q → q.node.kind ∈ callKinds → HandedTo p q.node

  | argument {q r : Place} : p.parent? = some q → q.node.kind ∈ argumentKinds →
      q.parent? = some r → r.node.kind ∈ callKinds → HandedTo p r.node

theorem not_argument_of_call {kind : String} (h : kind ∈ callKinds) : kind ∉ argumentKinds := by
  simp only [callKinds, List.mem_cons, List.not_mem_nil, or_false] at h
  rcases h with rfl | rfl | rfl <;> decide

theorem callContext_eq (p : Place) : callContext p = p.parent?.bind fun q =>
    (if argumentKinds.contains q.node.kind then q.parent? else some q).bind fun r =>
      if callKinds.contains r.node.kind then some r.node else none := by
  unfold callContext
  cases p.parent? with
  | none => rfl
  | some q =>
    rw [Option.bind_some]
    cases ha : argumentKinds.contains q.node.kind with
    | true => exact if_pos ha
    | false => exact if_neg (by rw [argumentKinds] at ha; rw [ha]; exact Bool.false_ne_true)

theorem callContext_eq_some_iff : callContext p = some n ↔ HandedTo p n := by
  simp only [callContext_eq, Option.bind_eq_some_iff, Option.ite_none_right_eq_some,
    Option.some.injEq, List.contains_iff_mem]
  constructor
  · rintro ⟨q, hq, r, hr, hk, rfl⟩
    by_cases ha : q.node.kind ∈ argumentKinds
    · rw [if_pos ha] at hr
      exact .argument hq ha hr hk
    · rw [if_neg ha] at hr
      obtain rfl := Option.some.inj hr
      exact .bare hq hk
  · intro h
    cases h with
    | @bare q hq hk => exact ⟨q, hq, q, if_neg (not_argument_of_call hk), hk, rfl⟩
    | @argument q r hq ha hr hk => exact ⟨q, hq, r, by rw [if_pos ha, hr], hk, rfl⟩

theorem not_handedTo (hq : p.parent? = some q) (hk : q.node.kind ∉ argumentKinds ++ callKinds) :
    ¬HandedTo p n := by
  rw [List.mem_append, not_or] at hk
  intro h
  cases h with
  | bare hq' hc =>
    obtain rfl := Option.some.inj (hq.symm.trans hq')
    exact hk.2 hc
  | argument hq' ha =>
    obtain rfl := Option.some.inj (hq.symm.trans hq')
    exact hk.1 ha

end Significance

/-- A function is noted exactly if it is not short for what it is. -/
theorem isSignificant_iff : isSignificant inlineKinds src c = true ↔
    (c.place.node.kind ∈ inlineKinds → inlineLength ≤ c.entry.code.length) ∧
      (∀ n, HandedTo c.place n → callsArrayMethod src n = true →
        callbackLength ≤ c.entry.code.length) ∧
      (c.entry.name = anonymous → anonymousLength < c.entry.code.length) := by
  have hcall : (callContext c.place).any (callsArrayMethod src) = true ↔
      ∃ n, HandedTo c.place n ∧ callsArrayMethod src n = true := by
    simp only [Option.any_eq_true, callContext_eq_some_iff]
  simp only [isSignificant, Bool.and_eq_true, Bool.or_eq_true, Bool.not_eq_true',
    ← Bool.not_eq_true, decide_eq_true_eq, bne_iff_ne, List.contains_iff_mem, hcall]
  simp only [not_and, not_exists, Nat.not_lt, and_assoc, ne_eq]
  refine and_congr Iff.rfl (and_congr ?_ ?_)
  · constructor
    · intro h n hn hm
      exact Nat.le_of_not_lt fun hl => h hl n hn hm
    · intro h hl n hn hm
      exact absurd (h n hn hm) (Nat.not_le.mpr hl)
  · by_cases hn : c.entry.name = anonymous <;> simp [hn]

theorem isSignificant_of_long (h : anonymousLength < c.entry.code.length) :
    isSignificant inlineKinds src c = true := by
  have hi : inlineLength ≤ anonymousLength := by decide
  have hc : callbackLength ≤ anonymousLength := by decide
  exact isSignificant_iff.mpr ⟨fun _ => by omega, fun _ _ _ => by omega, fun _ => h⟩

theorem isSignificant_of_named (hk : c.place.node.kind ∉ inlineKinds)
    (hc : ∀ n, ¬HandedTo c.place n) (hn : c.entry.name ≠ anonymous) :
    isSignificant inlineKinds src c = true :=
  isSignificant_iff.mpr ⟨fun h => absurd h hk, fun n h => absurd h (hc n), fun h => absurd h hn⟩

end Gazetteer

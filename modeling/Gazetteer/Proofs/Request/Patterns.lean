import Gazetteer.Proofs.Request.RootGuard

/-! # The check of file patterns

File patterns are to be nothing at all or a list of texts that are not blank. The check goes through
the members of a value without a look at the value itself. It judges nothing and lists rightly, but
it takes a text for its characters and an object for its keys, and it fails on other values, which
have no members.
-/

namespace Gazetteer

namespace Value

def IsPattern : Value → Prop
  | text s => Text.isBlankText s = false
  | _ => False

/-- What file patterns are to be. -/
def ArePatterns : Value → Prop
  | null => True
  | array items => ∀ item ∈ items, item.IsPattern
  | _ => False

/-- What passes for file patterns. -/
def PassForPatterns : Value → Prop
  | null => True
  | array items => ∀ item ∈ items, item.IsPattern
  | object fields => ∀ field ∈ fields, Text.isBlankText field.1 = false
  | text s => ∀ c ∈ s.toList, Text.isBlank c = false
  | _ => False

end Value

namespace Request

open Value

variable {v : Value} {items : List Value} {e : Rejection}

/-! ## One pattern, and a list of them -/

theorem exists_readPattern_iff : (∃ s, readPattern v = .ok s) ↔ v.IsPattern := by
  cases v with
  | text s => cases hb : Text.isBlankText s <;> simp [readPattern, IsPattern, hb]
  | _ => simp [readPattern, IsPattern]

theorem readPattern_error (h : readPattern v = .error e) : e = .badPattern := by
  unfold readPattern at h
  split at h
  · split at h
    · exact (Except.error.inj h).symm
    · cases h
  · exact (Except.error.inj h).symm

theorem exists_mapM_readPattern_iff :
    (∃ patterns, items.mapM readPattern = .ok patterns) ↔ ∀ item ∈ items, item.IsPattern := by
  induction items with
  | nil => exact iff_of_true ⟨[], rfl⟩ nofun
  | cons item items ih =>
    rw [List.forall_mem_cons, ← exists_readPattern_iff, ← ih, List.mapM_cons]
    constructor
    · rintro ⟨patterns, h⟩
      obtain ⟨s, hs, h⟩ := ok_of_bind h
      obtain ⟨rest, hr, -⟩ := ok_of_bind h
      exact ⟨⟨s, hs⟩, rest, hr⟩
    · rintro ⟨⟨s, hs⟩, rest, hr⟩
      refine ⟨s :: rest, ?_⟩
      rw [hs, hr]
      rfl

theorem mapM_readPattern_error (h : items.mapM readPattern = .error e) : e = .badPattern := by
  induction items with
  | nil => cases h
  | cons item items ih =>
    rw [List.mapM_cons] at h
    rcases error_of_bind h with hi | ⟨s, -, h⟩
    · exact readPattern_error hi
    · rcases error_of_bind h with hr | ⟨rest, -, h⟩
      · exact ih hr
      · cases h

/-! ## The check -/

theorem readPatterns_of_members (hn : v ≠ .null) (h : v.members = .ok items) :
    readPatterns v = items.mapM readPattern := by
  cases v with
  | null => exact absurd rfl hn
  | _ => simp only [readPatterns, h]

theorem error_of_members (hn : v ≠ .null) (hm : v.members = .ok items)
    (h : readPatterns v = .error e) : e = .badPattern :=
  mapM_readPattern_error (readPatterns_of_members hn hm ▸ h)

theorem readPatterns_of_no_members {kind : String} (hn : v ≠ .null) (h : v.members = .error kind) :
    readPatterns v = .error (.noMembers kind) := by
  cases v with
  | null => exact absurd rfl hn
  | _ => simp only [readPatterns, h]

theorem exists_readPatterns_iff :
    (∃ patterns, readPatterns v = .ok patterns) ↔ v.PassForPatterns := by
  cases v with
  | null => exact iff_of_true ⟨[], rfl⟩ trivial
  | array items =>
    rw [readPatterns_of_members (by simp) rfl, exists_mapM_readPattern_iff, PassForPatterns]
  | object fields =>
    rw [readPatterns_of_members (by simp) rfl, exists_mapM_readPattern_iff, List.forall_mem_map]
    rfl
  | text s =>
    rw [readPatterns_of_members (by simp) rfl, exists_mapM_readPattern_iff, List.forall_mem_map]
    simp [IsPattern, PassForPatterns, Text.isBlankText]
  | _ => simp [readPatterns, members, PassForPatterns]

theorem exists_noMembers_iff : (∃ kind, readPatterns v = .error (.noMembers kind)) ↔
    (∃ b, v = .bool b) ∨ (∃ n, v = .integer n) ∨ v = .fraction := by
  constructor
  · rintro ⟨kind, h⟩
    cases v with
    | null => cases h
    | bool b => exact .inl ⟨b, rfl⟩
    | integer n => exact .inr (.inl ⟨n, rfl⟩)
    | fraction => exact .inr (.inr rfl)
    | text s => cases error_of_members (by simp) rfl h
    | array items => cases error_of_members (by simp) rfl h
    | object fields => cases error_of_members (by simp) rfl h
  · rintro (⟨b, rfl⟩ | ⟨n, rfl⟩ | rfl)
    · exact ⟨"bool", rfl⟩
    · exact ⟨"int", rfl⟩
    · exact ⟨"float", rfl⟩

theorem readPatterns_error (h : readPatterns v = .error e) :
    e = .badPattern ∨ ∃ kind, e = .noMembers kind := by
  by_cases hn : v = .null
  · subst hn
    cases h
  cases hm : v.members with
  | ok items => exact .inl (error_of_members hn hm h)
  | error kind =>
    refine .inr ⟨kind, ?_⟩
    rw [readPatterns_of_no_members hn hm] at h
    exact (Except.error.inj h).symm

/-- A value is judged rightly, that is without a failure and accepted only if it is what patterns
are to be, if it is nothing or a list, or if a member of it that is no pattern gives it away. -/
theorem patterns_judged_rightly_iff (v : Value) :
    (((∀ kind, readPatterns v ≠ .error (.noMembers kind)) ∧
        ((∃ patterns, readPatterns v = .ok patterns) ↔ v.ArePatterns)) ↔
      v = .null ∨ (∃ items, v = .array items) ∨
        (∃ fields, v = .object fields ∧ ∃ field ∈ fields, Text.isBlankText field.1 = true) ∨
        ∃ s, v = .text s ∧ ∃ c ∈ s.toList, Text.isBlank c = true) ∧
    ((∃ patterns, readPatterns v = .ok patterns) ↔ v.PassForPatterns) ∧
    ((∃ kind, readPatterns v = .error (.noMembers kind)) ↔
      (∃ b, v = .bool b) ∨ (∃ n, v = .integer n) ∨ v = .fraction) ∧
    ∀ e, readPatterns v = .error e → e = .badPattern ∨ ∃ kind, e = .noMembers kind := by
  refine ⟨?_, exists_readPatterns_iff, exists_noMembers_iff, fun e => readPatterns_error⟩
  simp only [ne_eq, ← not_exists, exists_noMembers_iff, exists_readPatterns_iff]
  cases v <;> simp [PassForPatterns, ArePatterns]

/-- A text is taken for its characters, and a number makes the check fail. -/
theorem bare_text_passes :
    (∃ patterns, readPatterns (.text "py") = .ok patterns) ∧ ¬ (Value.text "py").ArePatterns ∧
      readPatterns (.integer 3) = .error (.noMembers "int") :=
  ⟨⟨["p", "y"], by decide⟩, id, rfl⟩

end Request

end Gazetteer

import Gazetteer.Language.Cabinet
import Mathlib.Data.List.Basic

/-! # Answers of a cabinet

Taking a language out of a cabinet changes what the cabinet remembers, but not what it answers:
whatever has been asked before, a language is handed out or it is not.
-/

namespace Gazetteer.Cabinet

variable {c : Cabinet} {l m : Language}

@[simp] theorem loaded_load : (c.load l).2.loaded = c.loaded := by
  unfold load; split <;> rfl

@[simp] theorem unavailable_load : (c.load l).2.unavailable = c.unavailable := by
  unfold load; split <;> rfl

theorem load_congr {d : Cabinet} (ho : c.offer = d.offer)
    (ha : c.attempts.lookup l = d.attempts.lookup l) : (c.load l).1 = (d.load l).1 := by
  unfold load
  rw [ha, ho]
  split <;> rfl

theorem offer_load : (c.load l).2.offer = c.offer := by
  unfold load; split <;> rfl

theorem faulty_load : (c.load l).2.faulty = c.faulty := by
  unfold load; split <;> rfl

theorem lookup_attempts_load (h : m ≠ l) :
    (c.load l).2.attempts.lookup m = c.attempts.lookup m := by
  unfold load
  split
  · rfl
  · simp [List.lookup_cons, beq_eq_false_iff_ne.mpr h]

/-- What can come of taking out a language: it is there, it has failed before, or it is loaded now,
with success or without. -/
theorem take_cases (c : Cabinet) (l : Language) :
    (l ∈ c.loaded ∧ c.take l = (some l, c)) ∨
    (l ∉ c.loaded ∧ l ∈ c.unavailable ∧ c.take l = (none, c)) ∨
    (l ∉ c.loaded ∧ l ∉ c.unavailable ∧ (c.load l).1 = true ∧
      c.take l = (some l, { (c.load l).2 with loaded := c.loaded ++ [l] })) ∨
    (l ∉ c.loaded ∧ l ∉ c.unavailable ∧ (c.load l).1 = false ∧
      c.take l = (none, { (c.load l).2 with unavailable := l :: c.unavailable })) := by
  by_cases hl : l ∈ c.loaded
  · exact .inl ⟨hl, by simp [take, hl]⟩
  by_cases hu : l ∈ c.unavailable
  · exact .inr (.inl ⟨hl, hu, by simp [take, hl, hu]⟩)
  have hd := loaded_load (c := c) (l := l)
  have hf := unavailable_load (c := c) (l := l)
  rcases hc : c.load l with ⟨_ | _, d⟩ <;> rw [hc] at hd hf
  · exact .inr (.inr (.inr ⟨hl, hu, rfl, by simp_all [take]⟩))
  · exact .inr (.inr (.inl ⟨hl, hu, rfl, by simp_all [take]⟩))

/-- Taking out one language leaves what is remembered of another as it was. -/
theorem take_frame (h : m ≠ l) :
    (m ∈ (c.take l).2.loaded ↔ m ∈ c.loaded) ∧
      (m ∈ (c.take l).2.unavailable ↔ m ∈ c.unavailable) ∧
      (c.take l).2.offer = c.offer ∧
      (c.take l).2.attempts.lookup m = c.attempts.lookup m := by
  rcases take_cases c l with ⟨-, he⟩ | ⟨-, -, he⟩ | ⟨-, -, -, he⟩ | ⟨-, -, -, he⟩ <;> rw [he]
  · exact ⟨.rfl, .rfl, rfl, rfl⟩
  · exact ⟨.rfl, .rfl, rfl, rfl⟩
  · exact ⟨by simp [h], by simp, offer_load, lookup_attempts_load h⟩
  · exact ⟨by simp, by simp [h], offer_load, lookup_attempts_load h⟩

theorem take_fst (c : Cabinet) (l : Language) :
    (c.take l).1 =
      if l ∈ c.loaded then some l
      else if l ∈ c.unavailable then none
      else if (c.load l).1 then some l else none := by
  rcases take_cases c l with ⟨hl, he⟩ | ⟨hl, hu, he⟩ | ⟨hl, hu, hc, he⟩ | ⟨hl, hu, hc, he⟩ <;>
    simp [*]

theorem take_again (c : Cabinet) (l : Language) : ((c.take l).2.take l).1 = (c.take l).1 := by
  rw [take_fst (c.take l).2]
  rcases take_cases c l with ⟨hl, he⟩ | ⟨hl, hu, he⟩ | ⟨hl, hu, hc, he⟩ | ⟨hl, hu, hc, he⟩ <;>
    simp [*]

theorem offer_take (c : Cabinet) (l : Language) : (c.take l).2.offer = c.offer := by
  rcases take_cases c l with ⟨-, he⟩ | ⟨-, -, he⟩ | ⟨-, -, -, he⟩ | ⟨-, -, -, he⟩ <;> rw [he]
  · exact offer_load
  · exact offer_load

theorem faulty_take (c : Cabinet) (l : Language) : (c.take l).2.faulty = c.faulty := by
  rcases take_cases c l with ⟨-, he⟩ | ⟨-, -, he⟩ | ⟨-, -, -, he⟩ | ⟨-, -, -, he⟩ <;> rw [he]
  · exact faulty_load
  · exact faulty_load

theorem extract_fst (c : Cabinet) (path text : String) : (c.extract path text).1 =
    ((Language.ofSuffix? (Path.suffix path)).bind fun l => (c.take l).1).bind fun l =>
      if path ∈ c.faulty then none else some (c.offer.survey l path text) := by
  unfold extract takeFor
  cases Language.ofSuffix? (Path.suffix path) with
  | none => rfl
  | some l =>
    have ho := offer_take c l
    rcases hl : c.take l with ⟨_ | _, _⟩ <;> simp_all

/-- Two cabinets hand out the same languages, read texts alike and fail on the same files. -/
structure Agree (c d : Cabinet) : Prop where
  take_eq : ∀ l, (c.take l).1 = (d.take l).1
  offer_eq : c.offer = d.offer
  faulty_eq : c.faulty = d.faulty

namespace Agree

theorem refl (c : Cabinet) : Agree c c := ⟨fun _ => rfl, rfl, rfl⟩

theorem trans {c d e : Cabinet} (h : Agree c d) (h' : Agree d e) : Agree c e :=
  ⟨fun l => (h.take_eq l).trans (h'.take_eq l), h.offer_eq.trans h'.offer_eq,
    h.faulty_eq.trans h'.faulty_eq⟩

/-- Cabinets that agree give the same tables. -/
theorem extract_eq {c d : Cabinet} (h : Agree c d) (path text : String) :
    (c.extract path text).1 = (d.extract path text).1 := by
  rw [extract_fst, extract_fst, h.faulty_eq, h.offer_eq]
  congr 2
  funext l
  exact h.take_eq l

end Agree

theorem agree_take (c : Cabinet) (l : Language) : Agree c (c.take l).2 := by
  refine ⟨fun m => ?_, (offer_take c l).symm, (faulty_take c l).symm⟩
  by_cases h : m = l
  · rw [h, take_again]
  · obtain ⟨hl, hu, ho, ha⟩ := take_frame (c := c) h
    rw [take_fst, take_fst (c.take l).2, load_congr ho ha]
    simp only [hl, hu]

theorem agree_takeFor (c : Cabinet) (suffix : String) : c.Agree (c.takeFor suffix).2 := by
  unfold takeFor
  split
  · exact .refl c
  · exact agree_take c _

theorem agree_takeAll (suffixes : List String) (c : Cabinet) : c.Agree (c.takeAll suffixes) := by
  induction suffixes generalizing c with
  | nil => exact .refl c
  | cons suffix suffixes ih =>
    rw [takeAll_cons]
    exact (agree_takeFor c suffix).trans (ih (c.takeFor suffix).2)

/-- A cabinet that has been filled hands out what it would have handed out before. -/
theorem agree_fill (c : Cabinet) : c.Agree c.fill := agree_takeAll Language.allKinds c

theorem agree_extract (c : Cabinet) (path text : String) : Agree c (c.extract path text).2 := by
  unfold extract takeFor
  cases Language.ofSuffix? (Path.suffix path) with
  | none => exact .refl c
  | some l =>
    have h := agree_take c l
    rcases hl : c.take l with ⟨_ | _, _⟩ <;> simpa [hl] using h

theorem path_of_extract {path text : String} {t : SymbolTable}
    (h : (c.extract path text).1 = some t) : t.path = path := by
  rw [extract_fst, Option.bind_eq_some_iff] at h
  obtain ⟨l, -, h⟩ := h
  split at h
  · cases h
  · cases h; rfl

end Gazetteer.Cabinet

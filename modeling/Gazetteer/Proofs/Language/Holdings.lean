import Gazetteer.Language.Parse
import Gazetteer.Proofs.Language.Cabinet
import Gazetteer.Proofs.Path.Suffix
import Mathlib.Data.List.Nodup

/-! # Holdings of a cabinet

A cabinet is asked for the language of a suffix, or for the suffixes of all languages that it can
load. However often and in whatever order, it answers by the offer alone, and it holds the
languages that it has handed out, in the order in which it first did.
-/

namespace Gazetteer

namespace Language

variable {l : Language} {k : String}

theorem lookup_kindTable_iff : kindTable.lookup k = some l ↔ k ∈ l.kinds := by
  cases l <;> simp only [kindTable, kinds, List.lookup_cons, List.lookup_nil] <;> grind

theorem mem_allKinds_iff : k ∈ allKinds ↔ ∃ l : Language, k ∈ l.kinds := by
  simp [allKinds, ← lookup_kindTable_iff, ← Option.isSome_iff_exists]

theorem nodup_kinds (l : Language) : l.kinds.Nodup := by
  cases l <;> decide

theorem disjoint_kinds {m : Language} (h : l ≠ m) : l.kinds.Disjoint m.kinds := fun _ hl hm =>
  h (Option.some_inj.mp ((lookup_kindTable_iff.mpr hl).symm.trans (lookup_kindTable_iff.mpr hm)))

theorem kindOfSuffix_of_mem_kinds (h : k ∈ l.kinds) :
    kindOfSuffix (Path.suffix ("a." ++ k)) = k := by
  have hall : ∀ k ∈ l.kinds, kindOfSuffix (Path.suffix ("a." ++ k)) = k := by
    cases l <;> decide
  exact hall k h

end Language

/-- What a cabinet is asked for: the language of a suffix, or the suffixes of all languages that
can be loaded. -/
inductive Errand where
  | one (suffix : String)
  | all

namespace Errand

def suffixes : Errand → List String
  | one suffix => [suffix]
  | all => Language.allKinds

end Errand

namespace Cabinet

variable {c : Cabinet} {offer : Offer} {l : Language} {handed : List Language}

def serve (c : Cabinet) : Errand → Cabinet
  | .one suffix => (c.takeFor suffix).2
  | .all => c.fill

def after (c : Cabinet) (errands : List Errand) : Cabinet := errands.foldl serve c

/-- The languages that are handed out when some suffixes are tried one after another. -/
def handedOut : Cabinet → List String → List Language
  | _, [] => []
  | c, suffix :: suffixes =>
    (c.takeFor suffix).1.toList ++ handedOut (c.takeFor suffix).2 suffixes

theorem takeAll_append (c : Cabinet) (suffixes suffixes' : List String) :
    c.takeAll (suffixes ++ suffixes') = (c.takeAll suffixes).takeAll suffixes' := by
  unfold takeAll
  rw [List.foldl_append]

theorem serve_eq_takeAll (c : Cabinet) (errand : Errand) :
    c.serve errand = c.takeAll errand.suffixes := by
  cases errand with
  | one suffix => rw [Errand.suffixes, takeAll_cons, takeAll_nil, serve]
  | all => rw [Errand.suffixes, serve, fill]

theorem after_eq_takeAll (c : Cabinet) (errands : List Errand) :
    c.after errands = c.takeAll (errands.flatMap Errand.suffixes) := by
  unfold after
  induction errands generalizing c with
  | nil => rfl
  | cons errand errands ih =>
    rw [List.foldl_cons, ih, serve_eq_takeAll, List.flatMap_cons, takeAll_append]

/-! ## What is handed out -/

theorem take_new (offer : Offer) (l : Language) :
    ((new offer).take l).1 = if offer.loads l then some l else none := by
  rw [take_fst]
  cases h : offer.loads l <;> simp [new, load, h]

/-- A language is handed out for its suffixes if the offer has it, whatever was asked before. -/
theorem takeFor_eq_some_iff (h : (new offer).Agree c) {suffix : String} :
    (c.takeFor suffix).1 = some l ↔
      Language.ofSuffix? suffix = some l ∧ offer.loads l = true := by
  unfold takeFor
  cases Language.ofSuffix? suffix with
  | none => simp
  | some m =>
    simp only [← h.take_eq, take_new]
    grind

theorem mem_handedOut_iff (h : (new offer).Agree c) {suffixes : List String} :
    l ∈ c.handedOut suffixes ↔
      (∃ suffix ∈ suffixes, Language.ofSuffix? suffix = some l) ∧ offer.loads l = true := by
  induction suffixes generalizing c with
  | nil => simp [handedOut]
  | cons suffix suffixes ih =>
    simp only [handedOut, List.mem_append, Option.mem_toList, takeFor_eq_some_iff h,
      ih (h.trans (agree_takeFor c suffix)), List.mem_cons, exists_eq_or_imp]
    exact or_and_right.symm

/-! ## What is held -/

structure Holds (c : Cabinet) (handed : List Language) : Prop where
  loaded_eq : c.loaded = handed.eraseDups
  loaded_nodup : c.loaded.Nodup
  disjoint : c.loaded.Disjoint c.unavailable

namespace Holds

theorem nil (offer : Offer) : (new offer).Holds [] :=
  ⟨rfl, .nil, List.disjoint_nil_left _⟩

theorem mem_loaded_iff (h : c.Holds handed) : l ∈ c.loaded ↔ l ∈ handed := by
  rw [h.loaded_eq, List.mem_eraseDups]

theorem take (h : c.Holds handed) (l : Language) :
    (c.take l).2.Holds (handed ++ (c.take l).1.toList) := by
  rcases take_cases c l with ⟨hl, he⟩ | ⟨hl, hu, he⟩ | ⟨hl, hu, hc, he⟩ | ⟨hl, hu, hc, he⟩ <;>
    rw [he]
  · refine ⟨?_, h.loaded_nodup, h.disjoint⟩
    simp [h.loaded_eq, List.eraseDups_append, List.removeAll, h.mem_loaded_iff.mp hl]
  · simpa using h
  · refine ⟨?_, ?_, ?_⟩
    · simp [h.loaded_eq, List.eraseDups_append, List.eraseDups_cons, List.removeAll,
        mt h.mem_loaded_iff.mpr hl]
    · simpa using List.Nodup.concat hl h.loaded_nodup
    · simpa using ⟨h.disjoint, hu⟩
  · refine ⟨by simpa using h.loaded_eq, by simpa using h.loaded_nodup, ?_⟩
    simpa using ⟨hl, h.disjoint⟩

theorem takeFor (h : c.Holds handed) (suffix : String) :
    (c.takeFor suffix).2.Holds (handed ++ (c.takeFor suffix).1.toList) := by
  unfold Cabinet.takeFor
  cases Language.ofSuffix? suffix with
  | none => simpa using h
  | some l => exact h.take l

theorem takeAll (h : c.Holds handed) (suffixes : List String) :
    (c.takeAll suffixes).Holds (handed ++ c.handedOut suffixes) := by
  induction suffixes generalizing c handed with
  | nil => simpa [handedOut] using h
  | cons suffix suffixes ih =>
    simpa [handedOut] using ih (h.takeFor suffix)

end Holds

theorem nodup_kinds (h : c.loaded.Nodup) : c.kinds.Nodup :=
  List.nodup_flatMap.mpr ⟨fun l _ => l.nodup_kinds, h.imp Language.disjoint_kinds⟩

theorem agree_after (c : Cabinet) (errands : List Errand) : c.Agree (c.after errands) := by
  rw [after_eq_takeAll]
  exact agree_takeAll _ c

theorem holds_after (offer : Offer) (errands : List Errand) :
    ((new offer).after errands).Holds
      ((new offer).handedOut (errands.flatMap Errand.suffixes)) := by
  rw [after_eq_takeAll]
  exact (Holds.nil offer).takeAll _

theorem fill_after (c : Cabinet) (errands : List Errand) :
    (c.after errands).fill = c.after (errands ++ [.all]) := by
  simp only [after, List.foldl_append, List.foldl_cons, List.foldl_nil, serve]

theorem mem_loaded_fill_iff (offer : Offer) (errands : List Errand) :
    l ∈ ((new offer).after errands).fill.loaded ↔ offer.loads l = true := by
  have hasked : ∃ k ∈ Language.allKinds, Language.ofSuffix? k = some l := by
    cases l <;> decide
  rw [fill_after, (holds_after offer _).mem_loaded_iff, mem_handedOut_iff (.refl _)]
  simp only [List.flatMap_append, List.flatMap_singleton, Errand.suffixes]
  refine and_iff_right ?_
  obtain ⟨k, hk, hl⟩ := hasked
  exact ⟨k, List.mem_append_right _ hk, hl⟩

theorem isSome_extract_iff (h : (new offer).Agree c) (path text : String) :
    (c.extract path text).1.isSome = true ↔
      ∃ l, Language.ofSuffix? (Path.suffix path) = some l ∧ offer.loads l = true := by
  have hf : c.faulty = [] := h.faulty_eq.symm
  rw [extract_fst, hf]
  cases Language.ofSuffix? (Path.suffix path) with
  | none => simp
  | some l =>
    rw [Option.bind_some, ← h.take_eq, take_new]
    cases hl : offer.loads l <;> simp [hl]

/-- Whatever a cabinet has been asked for: it hands out the language of a suffix, dots in front and
letter case apart, if the offer has it; no language is both held and marked as unavailable; it
lists no suffix twice, but those of the languages that it has handed out, in the order in which it
first did; and once it has been asked for all of them, it lists those of the files that it makes a
table of. -/
theorem answers_and_holdings (offer : Offer) (errands : List Errand) :
    let c := (new offer).after errands
    (∀ suffix l, (c.takeFor suffix).1 = some l ↔
      Language.kindTable.lookup
          (Text.lower (String.ofList (suffix.toList.dropWhile (· == '.')))) = some l ∧
        offer.loads l = true) ∧
    (∀ l ∈ c.loaded, l ∉ c.unavailable) ∧
    c.kinds.Nodup ∧
    c.kinds = ((new offer).handedOut (errands.flatMap Errand.suffixes)).eraseDups.flatMap
      Language.kinds ∧
    (∀ path text, (c.fill.extract path text).1.isSome = true ↔
      Language.kindOfSuffix (Path.suffix path) ∈ c.fill.kinds) ∧
    ∀ k ∈ c.fill.kinds, ∃ path, Language.kindOfSuffix (Path.suffix path) = k := by
  intro c
  have ha : (new offer).Agree c := agree_after _ errands
  have hc : c.Holds _ := holds_after offer errands
  have hk : ∀ k, k ∈ c.fill.kinds ↔
      ∃ l, Language.kindTable.lookup k = some l ∧ offer.loads l = true := by
    intro k
    simp only [kinds, List.mem_flatMap, c, mem_loaded_fill_iff, Language.lookup_kindTable_iff]
    exact exists_congr fun l => and_comm
  refine ⟨fun suffix l => takeFor_eq_some_iff ha, fun l hl => hc.disjoint hl,
    nodup_kinds hc.loaded_nodup, ?_, fun path text => ?_, fun k hmem => ?_⟩
  · rw [kinds, hc.loaded_eq]
  · rw [isSome_extract_iff (ha.trans (agree_fill c)), hk]
    exact Iff.rfl
  · obtain ⟨l, hl, -⟩ := (hk k).mp hmem
    exact ⟨"a." ++ k, Language.kindOfSuffix_of_mem_kinds (Language.lookup_kindTable_iff.mp hl)⟩

example : ((new .full).after [.one "md", .one ".PY", .all]).kinds =
    ["py", "js", "jsx", "ts", "tsx"] := by decide

end Cabinet

end Gazetteer

import Gazetteer.Proofs.Text.Blank
import Gazetteer.Proofs.Text.Lines
import Gazetteer.Path

/-! # Top directories

A directory is at the top if it is its own parent. The shortest spelling of a path is at the top
exactly when the path is absolute and reduces to nothing. Blanks at the end of a path keep it from
reducing to nothing, since they belong to its last component.
-/

namespace Gazetteer.Path

variable {p : String} {cs reduced : List String} {c : String} {rooted : Bool}

/-- The path is absolute and nothing is left of it when it is reduced. -/
def SpellsTop (p : String) : Prop :=
  isAbsolute p = true ∧ reduceComponents true (components p) = []

theorem slash_not_mem_of_mem_components (h : c ∈ components p) : '/' ∉ c.toList := by
  obtain ⟨piece, hp, rfl⟩ := List.mem_map.mp h
  simpa using Text.not_mem_of_mem_splitAt hp

/-! ## Reducing -/

theorem pushComponent_cons (hc : c ≠ "" ∧ c ≠ "." ∧ c ≠ "..") :
    pushComponent rooted reduced c = c :: reduced := by
  obtain ⟨he, hd, hp⟩ := hc
  simp [pushComponent, he, hd, hp]

theorem mem_pushComponent {d : String} (h : d ∈ pushComponent rooted reduced c) :
    d ∈ reduced ∨ (d = c ∧ d ≠ "") := by
  unfold pushComponent at h
  split at h
  · exact .inl h
  · next hc =>
    have hne : c ≠ "" := by
      rintro rfl
      simp at hc
    split at h
    · split at h
      · split at h
        · simp at h
        · exact .inr ⟨List.mem_singleton.mp h, List.mem_singleton.mp h ▸ hne⟩
      · split at h
        · rcases List.mem_cons.mp h with rfl | h
          · exact .inr ⟨rfl, hne⟩
          · exact .inl h
        · exact .inl (List.mem_cons_of_mem _ h)
    · rcases List.mem_cons.mp h with rfl | h
      · exact .inr ⟨rfl, hne⟩
      · exact .inl h

theorem mem_reduceComponents (h : c ∈ reduceComponents rooted cs) : c ∈ cs ∧ c ≠ "" := by
  have run : ∀ (cs reduced : List String), c ∈ cs.foldl (pushComponent rooted) reduced →
      c ∈ reduced ∨ (c ∈ cs ∧ c ≠ "") := by
    intro cs
    induction cs with
    | nil => exact fun _ h => .inl h
    | cons d cs ih =>
      intro reduced h
      rcases ih _ h with h | ⟨h, hne⟩
      · rcases mem_pushComponent h with h | ⟨rfl, hne⟩
        · exact .inl h
        · exact .inr ⟨List.mem_cons_self, hne⟩
      · exact .inr ⟨List.mem_cons_of_mem _ h, hne⟩
  simpa using run cs [] (List.mem_reverse.mp h)

theorem reduceComponents_concat_ne_nil (hc : c ≠ "" ∧ c ≠ "." ∧ c ≠ "..") :
    reduceComponents rooted (cs ++ [c]) ≠ [] := by
  simp [reduceComponents, pushComponent_cons hc]

/-! ## Parents -/

theorem toList_parent_prefix : (parent p).toList <+: Text.dropEndWhile (· != '/') p.toList := by
  unfold parent
  simp only [String.toList_ofList]
  split
  · exact List.prefix_rfl
  · exact List.rdropWhile_prefix _ _

theorem parent_ne_self {a : Char} (h : p.toList.getLast? = some a) (ha : a ≠ '/') :
    parent p ≠ p := by
  intro he
  have hne : p.toList ≠ [] := by
    rintro hn
    simp [hn] at h
  have hl : p.toList.getLast hne = a := List.getLast_eq_iff_getLast?_eq_some hne |>.mpr h
  have hp := toList_parent_prefix (p := p)
  rw [he, Text.dropEndWhile_eq_rdropWhile] at hp
  have hs := (List.rdropWhile_prefix (· != '/') p.toList).eq_of_length_le hp.length_le
  rw [List.rdropWhile_eq_self_iff] at hs
  exact hs hne (by simpa [hl] using ha)

theorem parent_eq_self (h : ∀ a ∈ p.toList, a = '/') : parent p = p := by
  have hs : Text.dropEndWhile (· != '/') p.toList = p.toList := by
    rw [Text.dropEndWhile_eq_rdropWhile, List.rdropWhile_eq_self_iff]
    intro hne
    simp [h _ (List.getLast_mem hne)]
  have ha : p.toList.all (· == '/') = true := by simpa using h
  simp [parent, hs, ha]

/-! ## Shortest spellings -/

theorem leadingSlashes_ne_zero : (leadingSlashes p != 0) = isAbsolute p := by
  unfold leadingSlashes isAbsolute
  generalize p.toList = l
  split
  · rfl
  · rfl
  · rfl
  · next h =>
    cases l with
    | nil => rfl
    | cons c l =>
      have hc : c ≠ '/' := fun he => h l (he ▸ rfl)
      simp [hc]

theorem normalize_of_ne_nil (h : reduceComponents (isAbsolute p) (components p) ≠ []) :
    (normalize p).toList = List.replicate (leadingSlashes p) '/' ++
      ['/'].intercalate ((reduceComponents (isAbsolute p) (components p)).map String.toList) := by
  simp [normalize, leadingSlashes_ne_zero, h]

theorem normalize_of_eq_nil (h : reduceComponents (isAbsolute p) (components p) = []) :
    normalize p = if isAbsolute p then String.ofList (List.replicate (leadingSlashes p) '/')
      else "." := by
  have hz := leadingSlashes_ne_zero (p := p)
  unfold normalize
  simp only [hz, h]
  cases ha : isAbsolute p with
  | false => simp [show leadingSlashes p = 0 by simpa [ha] using hz]
  | true => simp [show leadingSlashes p ≠ 0 by simpa [ha] using hz]

theorem last_intercalate_slash {pieces : List (List Char)} (hne : pieces ≠ [])
    (h : ∀ piece ∈ pieces, piece ≠ [] ∧ '/' ∉ piece) :
    ∃ a, (['/'].intercalate pieces).getLast? = some a ∧ a ≠ '/' := by
  induction pieces with
  | nil => exact absurd rfl hne
  | cons piece pieces ih =>
    cases pieces with
    | nil =>
      obtain ⟨hp, hs⟩ := h piece List.mem_cons_self
      refine ⟨piece.getLast hp, by simp [List.getLast?_eq_some_getLast hp], fun he => hs ?_⟩
      exact he ▸ List.getLast_mem hp
    | cons next pieces =>
      obtain ⟨a, ha, hs⟩ := ih (by simp) fun q hq => h q (List.mem_cons_of_mem _ hq)
      refine ⟨a, ?_, hs⟩
      rw [List.intercalate_cons_cons, List.getLast?_append, ha]
      rfl

/-- The shortest spelling of a path is its own parent just if the path spells a top directory. -/
theorem parent_normalize_eq_iff : parent (normalize p) = normalize p ↔ SpellsTop p := by
  by_cases hr : reduceComponents (isAbsolute p) (components p) = []
  · rw [normalize_of_eq_nil hr]
    cases ha : isAbsolute p with
    | false =>
      have hd : parent "." ≠ "." := by decide
      simp [SpellsTop, ha, hd]
    | true =>
      rw [ha] at hr
      have hp := parent_eq_self (p := String.ofList (List.replicate (leadingSlashes p) '/'))
        (by simp)
      simp [SpellsTop, ha, hr, hp]
  · have hn := normalize_of_ne_nil hr
    have hm : ∀ piece ∈ (reduceComponents (isAbsolute p) (components p)).map String.toList,
        piece ≠ [] ∧ '/' ∉ piece := by
      intro piece hp
      obtain ⟨c, hc, rfl⟩ := List.mem_map.mp hp
      obtain ⟨hm, hne⟩ := mem_reduceComponents hc
      exact ⟨by simpa using hne, slash_not_mem_of_mem_components hm⟩
    obtain ⟨a, hl, ha⟩ := last_intercalate_slash (by simpa using hr) hm
    have hq : parent (normalize p) ≠ normalize p :=
      parent_ne_self (by rw [hn, List.getLast?_append, hl]; rfl) ha
    constructor
    · exact fun h => absurd h hq
    · rintro ⟨ha, h⟩
      exact absurd (ha ▸ h) hr

/-! ## Blanks at the ends -/

theorem ordinary_of_blank_last {b : Char} (h : c.toList.getLast? = some b)
    (hb : Text.isBlank b = true) : c ≠ "" ∧ c ≠ "." ∧ c ≠ ".." := by
  refine ⟨?_, ?_, ?_⟩
  · rintro rfl
    simp at h
  · rintro rfl
    obtain rfl : '.' = b := Option.some.inj h
    exact absurd hb (by decide)
  · rintro rfl
    obtain rfl : '.' = b := Option.some.inj h
    exact absurd hb (by decide)

theorem not_spellsTop_of_trim_ne (h : Text.trim p ≠ p) : ¬ SpellsTop p := by
  rintro ⟨ha, hr⟩
  obtain ⟨front, back, hp, hf, hb⟩ := Text.trimChars_split p.toList
  cases front with
  | cons a front =>
    have hs := hf a List.mem_cons_self
    rw [isAbsolute, hp] at ha
    obtain rfl : a = '/' := by simpa using ha
    exact absurd hs (by decide)
  | nil =>
    obtain rfl | ⟨back, b, rfl⟩ := List.eq_nil_or_concat' back
    · apply h
      rw [Text.trim, ← String.toList_inj]
      simpa using hp.symm
    · -- The last component ends with a blank, so it is left when the path is reduced.
      have hbl : Text.isBlank b = true := hb b (by simp)
      have hbs : b ≠ '/' := by
        rintro rfl
        exact absurd hbl (by decide)
      obtain ⟨pieces, last, hq⟩ := Text.splitAt_concat hbs (Text.trimChars p.toList ++ back)
      rw [components, hp, List.nil_append, ← List.append_assoc, hq, List.map_append] at hr
      have hc := ordinary_of_blank_last (c := String.ofList (last ++ [b])) (by simp) hbl
      exact reduceComponents_concat_ne_nil hc hr

end Gazetteer.Path

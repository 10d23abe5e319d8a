import Gazetteer.Path
import Gazetteer.Proofs.Text.Lines
import Mathlib.Data.List.Basic

/-! # Descending along names

The path that a trail leads to spells the names of the trail one after another, with slashes in
between. Since no name has a slash, different trails from a directory lead to different paths.
-/

namespace Gazetteer.Path

variable {dir name : String} {trail other : List String}

theorem slash_not_mem_of_isName (h : isName name = true) : '/' ∉ name.toList := by
  simp only [isName, Bool.and_eq_true, Bool.not_eq_true', List.contains_eq_mem,
    decide_eq_false_iff_not] at h
  exact h.2

theorem ordinary_of_isName (h : isName name = true) : name ≠ "" ∧ name ≠ "." ∧ name ≠ ".." := by
  simp only [isName, Bool.and_eq_true, bne_iff_ne] at h
  exact ⟨h.1.1.1, h.1.1.2, h.1.2⟩

theorem toList_ne_nil_of_isName (h : isName name = true) : name.toList ≠ [] := by
  simpa [String.toList_eq_nil_iff] using (ordinary_of_isName h).1

theorem not_isAbsolute_of_isName (h : isName name = true) : isAbsolute name = false := by
  cases hc : name.toList with
  | nil => simp [isAbsolute, hc]
  | cons c cs =>
    have hs := slash_not_mem_of_isName h
    rw [hc, List.mem_cons, not_or] at hs
    simpa [isAbsolute, hc] using Ne.symm hs.1

def stem (dir : String) : List Char :=
  match dir.toList.getLast? with
  | none | some '/' => dir.toList
  | some _ => dir.toList ++ ['/']

theorem stem_of_slash (h : dir.toList.getLast? = some '/') : stem dir = dir.toList := by
  simp [stem, h]

theorem stem_of_last {c : Char} (h : dir.toList.getLast? = some c) (hc : c ≠ '/') :
    stem dir = dir.toList ++ ['/'] := by
  unfold stem
  rw [h]
  split <;> simp_all

theorem toList_join (h : isName name = true) :
    (join dir name).toList = stem dir ++ name.toList := by
  unfold join
  rw [if_neg (by simp [not_isAbsolute_of_isName h])]
  split
  · next hl => simp [stem, hl]
  · next hl => simp [stem, hl]
  · next c hc hl => simp [stem_of_last hl hc]

theorem stem_join (h : isName name = true) :
    stem (join dir name) = stem dir ++ name.toList ++ ['/'] := by
  have hl : (join dir name).toList.getLast? =
      some (name.toList.getLast (toList_ne_nil_of_isName h)) := by
    rw [toList_join h, List.getLast?_append_of_ne_nil _ (toList_ne_nil_of_isName h),
      List.getLast?_eq_getLast_of_ne_nil]
  rw [stem_of_last hl fun he => slash_not_mem_of_isName h (he ▸ List.getLast_mem _), toList_join h]

/-- The stem of a directory ends in a slash, its own one or another. -/
theorem stem_cases (hd : dir ≠ "") :
    (∃ front, dir.toList = front ++ ['/'] ∧ stem dir = front ++ ['/']) ∨
      stem dir = dir.toList ++ ['/'] := by
  obtain ⟨front, last, hl⟩ :=
    (List.eq_nil_or_concat' dir.toList).resolve_left (by simpa using hd)
  by_cases hlast : last = '/'
  · exact .inl ⟨front, by rw [hl, hlast], by simp [stem, hl, hlast]⟩
  · exact .inr (stem_of_last (by rw [hl, List.getLast?_concat]) hlast)

theorem head?_stem (hd : dir ≠ "") : (stem dir).head? = dir.toList.head? := by
  rcases stem_cases hd with ⟨front, hl, hs⟩ | hs
  · rw [hl, hs]
  · rw [hs, List.head?_append_of_ne_nil _ (by simpa using hd)]

theorem isAbsolute_join (h : isName name = true) : isAbsolute (join dir name) = isAbsolute dir := by
  by_cases hd : dir = ""
  · rw [hd, join, if_neg (by simp [not_isAbsolute_of_isName h])]
    simpa [isAbsolute] using not_isAbsolute_of_isName h
  · have hne : stem dir ≠ [] := by
      rcases stem_cases hd with ⟨front, -, hs⟩ | hs <;> simp [hs]
    rw [isAbsolute, isAbsolute, toList_join h, List.head?_append_of_ne_nil _ hne, head?_stem hd]

theorem toList_descend (hne : trail ≠ []) (h : ∀ name ∈ trail, isName name = true) :
    (descend dir trail).toList = stem dir ++ ['/'].intercalate (trail.map String.toList) := by
  induction trail generalizing dir with
  | nil => exact absurd rfl hne
  | cons name trail ih =>
    have hn := h name List.mem_cons_self
    cases trail with
    | nil => simp [toList_join hn]
    | cons next trail =>
      rw [descend_cons, ih (by simp) (fun n hm => h n (List.mem_cons_of_mem _ hm)), stem_join hn]
      simp [List.intercalate_cons_cons]

theorem descend_injective (ht : trail ≠ []) (hn : ∀ name ∈ trail, isName name = true)
    (ho : other ≠ []) (hm : ∀ name ∈ other, isName name = true)
    (h : descend dir trail = descend dir other) : trail = other := by
  have noSlash : ∀ {t : List String}, (∀ name ∈ t, isName name = true) →
      ∀ cs ∈ t.map String.toList, '/' ∉ cs := by
    intro t ht cs hc
    obtain ⟨name, hname, rfl⟩ := List.mem_map.mp hc
    exact slash_not_mem_of_isName (ht name hname)
  have he := congrArg String.toList h
  rw [toList_descend ht hn, toList_descend ho hm, List.append_cancel_left_eq] at he
  have hs := congrArg (List.splitOn '/') he
  rw [List.splitOn_intercalate _ (noSlash hn) (by simpa using ht),
    List.splitOn_intercalate _ (noSlash hm) (by simpa using ho)] at hs
  exact List.map_injective_iff.mpr (fun _ _ => String.toList_inj.mp) hs

/-- A path that goes down a trail has the components of the directory, apart from an empty one at
their end, and then those of the trail. -/
theorem components_descend (hne : trail ≠ []) (ht : ∀ name ∈ trail, isName name = true) :
    ∃ base, components (descend dir trail) = base ++ trail ∧
      (components dir = base ∨ components dir = base ++ [""]) := by
  have hs : Text.splitAt '/' (['/'].intercalate (trail.map String.toList)) =
      trail.map String.toList := by
    rw [Text.splitAt_eq_splitOn, List.splitOn_intercalate]
    · intro cs hc
      obtain ⟨name, hm, rfl⟩ := List.mem_map.mp hc
      exact slash_not_mem_of_isName (ht name hm)
    · simpa using hne
  by_cases hd : dir = ""
  · subst hd
    refine ⟨[], ?_, .inr rfl⟩
    rw [components, toList_descend hne ht, show stem "" = [] from rfl, List.nil_append, hs]
    simp [Function.comp_def]
  have hc : ∀ front : List Char, stem dir = front ++ ['/'] →
      components (descend dir trail) =
        (Text.splitAt '/' front).map String.ofList ++ trail := by
    intro front hf
    rw [components, toList_descend hne ht, hf, List.append_assoc, List.singleton_append,
      Text.splitAt_separated, hs]
    simp [Function.comp_def]
  rcases stem_cases hd with ⟨front, hl, hf⟩ | hf
  · refine ⟨_, hc front hf, .inr ?_⟩
    rw [components, hl, Text.splitAt_separated]
    simp [Text.splitAt]
  · exact ⟨_, hc dir.toList hf, .inl rfl⟩

/-- Names that lead from a directory to what lies below it. -/
abbrev IsTrail (trail : List String) : Prop := ∀ name ∈ trail, isName name = true

theorem descend_append (dir : String) (t u : List String) :
    descend dir (t ++ u) = descend (descend dir t) u :=
  List.foldl_append

theorem descend_concat (dir : String) (t : List String) (name : String) :
    descend dir (t ++ [name]) = join (descend dir t) name := by
  rw [descend_append, descend_cons, descend_nil]

theorem join_ne_empty (h : isName name = true) : join dir name ≠ "" := by
  intro he
  have ht : (join dir name).toList = stem dir ++ name.toList := toList_join h
  rw [he] at ht
  exact toList_ne_nil_of_isName h (List.append_eq_nil_iff.mp ht.symm).2

theorem descend_ne_empty (hd : dir ≠ "") (ht : IsTrail trail) : descend dir trail ≠ "" := by
  induction trail generalizing dir with
  | nil => exact hd
  | cons name trail ih =>
    obtain ⟨hn, ht⟩ := List.forall_mem_cons.mp ht
    exact ih (join_ne_empty hn) ht

theorem isAbsolute_descend (ht : IsTrail trail) :
    isAbsolute (descend dir trail) = isAbsolute dir := by
  induction trail generalizing dir with
  | nil => rfl
  | cons name trail ih =>
    obtain ⟨hn, ht⟩ := List.forall_mem_cons.mp ht
    rw [descend_cons, ih ht, isAbsolute_join hn]

theorem descend_ne_self (hne : trail ≠ []) (h : IsTrail trail) : descend dir trail ≠ dir := by
  obtain ⟨name, rest, rfl⟩ := List.exists_cons_of_ne_nil hne
  have hn := toList_ne_nil_of_isName (h name List.mem_cons_self)
  have hs : dir.toList.length ≤ (stem dir).length := by
    unfold stem
    split <;> simp
  have hl : 0 < name.toList.length := List.length_pos_iff.mpr hn
  intro he
  have hd := congrArg (fun p => p.toList.length) he
  rw [toList_descend hne h] at hd
  simp only [List.map_cons, List.intercalate, List.length_append] at hd
  cases rest <;> simp at hd <;> omega

theorem descend_inj (ht : IsTrail trail) (ho : IsTrail other) :
    descend dir trail = descend dir other ↔ trail = other := by
  refine ⟨fun h => ?_, fun h => h ▸ rfl⟩
  by_cases hne : trail = []
  · by_contra hc
    exact descend_ne_self (fun he => hc (hne.trans he.symm)) ho (by rw [← h, hne, descend_nil])
  · by_cases hno : other = []
    · exact absurd (by rw [h, hno, descend_nil]) (descend_ne_self hne ht)
    · exact descend_injective hne ht hno ho h

def IsBelow (dir path : String) : Prop :=
  ∃ trail, trail ≠ [] ∧ IsTrail trail ∧ path = descend dir trail

theorem isBelow_descend_iff (ht : IsTrail trail) (ho : IsTrail other) :
    IsBelow (descend dir trail) (descend dir other) ↔ trail <+: other ∧ other ≠ trail := by
  constructor
  · rintro ⟨rest, hne, hr, he⟩
    have ha : IsTrail (trail ++ rest) := List.forall_mem_append.mpr ⟨ht, hr⟩
    rw [← descend_append, descend_inj ho ha] at he
    subst he
    exact ⟨List.prefix_append .., by simpa using hne⟩
  · rintro ⟨⟨rest, rfl⟩, hne⟩
    refine ⟨rest, by simpa using hne, (List.forall_mem_append.mp ho).2, descend_append ..⟩

end Gazetteer.Path

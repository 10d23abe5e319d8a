import Gazetteer.Eligibility
import Gazetteer.Proofs.Path.Descent
import Gazetteer.Proofs.Path.Top

/-! # Paths below different directories

What lies below a directory is spelt alike from there, wherever the directory stands. The base name
of a path, and all that is read off it, does not depend on the directory at all.
-/

namespace Gazetteer.Path

variable {home home' dir p q base base' name : String} {trail place : List String}

/-! ## Absolute components -/

theorem reduceComponents_append (cs : List String) (ht : IsTrail trail) :
    reduceComponents true (cs ++ trail) = reduceComponents true cs ++ trail := by
  induction trail generalizing cs with
  | nil => simp
  | cons name trail ih =>
    obtain ⟨hn, ht⟩ := List.forall_mem_cons.mp ht
    have hc : reduceComponents true (cs ++ [name]) = reduceComponents true cs ++ [name] := by
      simp [reduceComponents, pushComponent_cons (ordinary_of_isName hn)]
    rw [List.append_cons, ih _ ht, hc, List.append_assoc, List.singleton_append]

theorem reduceComponents_empty (cs : List String) :
    reduceComponents true (cs ++ [""]) = reduceComponents true cs := by
  simp [reduceComponents, pushComponent]

theorem components_concat_slash (cs : List Char) :
    components (String.ofList (cs ++ ['/'])) = components (String.ofList cs) ++ [""] := by
  simp [components, Text.splitAt_separated, Text.splitAt]

theorem toList_join_of_not_isAbsolute (h : isAbsolute p = false) :
    (join dir p).toList = stem dir ++ p.toList := by
  rw [join, if_neg (by simp [h])]
  split
  · next hl => simp [stem, hl]
  · next hl => simp [stem, hl]
  · next c hc hl => simp [stem_of_last hl hc]

theorem stem_join_of_not_isAbsolute (h : isAbsolute p = false) :
    stem (join dir p) = stem dir ++ stem p := by
  have hl : (join dir p).toList = stem dir ++ p.toList := toList_join_of_not_isAbsolute h
  by_cases hp : p.toList = []
  · have hs : stem p = [] := by simp [stem, hp]
    rw [hp, List.append_nil] at hl
    rw [hs, List.append_nil]
    by_cases hd : dir = ""
    · subst hd
      simp [stem, hl]
    · obtain ⟨front, hf⟩ : ∃ front, stem dir = front ++ ['/'] := by
        rcases stem_cases hd with ⟨front, -, hs⟩ | hs
        · exact ⟨front, hs⟩
        · exact ⟨_, hs⟩
      rw [stem_of_slash (by rw [hl, hf, List.getLast?_concat]), hl]
  · have hlast : (join dir p).toList.getLast? = p.toList.getLast? := by
      rw [hl, List.getLast?_append_of_ne_nil _ hp]
    obtain ⟨front, c, hc⟩ := (List.eq_nil_or_concat' p.toList).resolve_left hp
    have hp : p.toList.getLast? = some c := by rw [hc, List.getLast?_concat]
    rw [hp] at hlast
    by_cases he : c = '/'
    · subst he
      rw [stem_of_slash hlast, stem_of_slash hp, hl]
    · rw [stem_of_last hlast he, stem_of_last hp he, hl, List.append_assoc]

theorem join_descend (h : isAbsolute dir = false) (ht : IsTrail trail) :
    join home (descend dir trail) = descend (join home dir) trail := by
  induction trail generalizing dir with
  | nil => rfl
  | cons name trail ih =>
    obtain ⟨hn, ht⟩ := List.forall_mem_cons.mp ht
    have hj : join home (join dir name) = join (join home dir) name := by
      rw [← String.toList_inj, toList_join_of_not_isAbsolute (by rw [isAbsolute_join hn, h]),
        toList_join hn, toList_join hn, stem_join_of_not_isAbsolute h, List.append_assoc]
    rw [descend_cons, descend_cons, ih (by rw [isAbsolute_join hn, h]) ht, hj]

theorem reduceComponents_descend (ht : IsTrail trail) :
    reduceComponents true (components (descend dir trail)) =
      reduceComponents true (components dir) ++ trail := by
  by_cases hne : trail = []
  · rw [hne, descend_nil, List.append_nil]
  · obtain ⟨front, hc, hfront⟩ := components_descend hne ht
    have hr : reduceComponents true (components dir) = reduceComponents true front := by
      rcases hfront with h | h
      · rw [h]
      · rw [h, reduceComponents_empty]
    rw [hc, reduceComponents_append front ht, hr]

theorem absoluteComponents_descend (ht : IsTrail trail) :
    absoluteComponents home (descend dir trail) = absoluteComponents home dir ++ trail := by
  rw [absoluteComponents, absoluteComponents, isAbsolute_descend ht]
  split
  · exact reduceComponents_descend ht
  next h => rw [join_descend (by simpa using h) ht, reduceComponents_descend ht]

/-! ## The directory of a path -/

theorem reduceComponents_dropEndWhile (cs : List Char) :
    reduceComponents true (components (String.ofList (Text.dropEndWhile (· == '/') cs))) =
      reduceComponents true (components (String.ofList cs)) := by
  induction cs using List.reverseRecOn with
  | nil => rfl
  | append_singleton cs c ih =>
    rw [Text.dropEndWhile_eq_rdropWhile] at ih ⊢
    by_cases hc : c = '/'
    · rw [hc, List.rdropWhile_concat_pos _ _ _ (by rfl), ih, components_concat_slash,
        reduceComponents_empty]
    · rw [List.rdropWhile_concat_neg _ _ _ (by simpa using hc)]

theorem reduceComponents_stem (lead : List Char) (hd : dir ≠ "") :
    reduceComponents true (components (String.ofList (lead ++ stem dir))) =
      reduceComponents true (components (String.ofList (lead ++ dir.toList))) := by
  rcases stem_cases hd with ⟨front, hl, hs⟩ | hs
  · rw [hs, hl]
  · rw [hs, ← List.append_assoc, components_concat_slash, reduceComponents_empty]

theorem dropEndWhile_join (hd : dir ≠ "") (hn : isName name = true) :
    Text.dropEndWhile (· != '/') (join dir name).toList = stem dir := by
  obtain ⟨front, hs⟩ : ∃ front, stem dir = front ++ ['/'] := by
    rcases stem_cases hd with ⟨front, -, hs⟩ | hs
    · exact ⟨front, hs⟩
    · exact ⟨_, hs⟩
  have hname : ∀ c ∈ name.toList, (c != '/') = true := fun c hc => by
    simpa using fun he : c = '/' => slash_not_mem_of_isName hn (he ▸ hc)
  rw [toList_join hn, hs, Text.dropEndWhile, List.reverse_append,
    List.dropWhile_append_of_pos (by simpa using hname)]
  simp

theorem dropEndWhile_append {cs : List Char} (h : ∃ c ∈ cs, c ≠ '/') (lead : List Char) :
    Text.dropEndWhile (· == '/') (lead ++ cs) = lead ++ Text.dropEndWhile (· == '/') cs := by
  have he : (cs.reverse.dropWhile (· == '/')).isEmpty = false := by simpa using h
  simp [Text.dropEndWhile, List.dropWhile_append, he]

def lead (home p : String) : List Char := if isAbsolute p then [] else stem home

theorem absoluteComponents_eq (home p : String) : absoluteComponents home p =
    reduceComponents true (components (String.ofList (lead home p ++ p.toList))) := by
  unfold absoluteComponents lead
  split
  · rw [List.nil_append, String.ofList_toList]
  · next h => rw [← toList_join_of_not_isAbsolute (by simpa using h), String.ofList_toList]

theorem absoluteComponents_ofList {cs : List Char} (h : cs.head? = dir.toList.head?) :
    absoluteComponents home (String.ofList cs) =
      reduceComponents true (components (String.ofList (lead home dir ++ cs))) := by
  rw [absoluteComponents_eq, lead, lead, isAbsolute, isAbsolute, String.toList_ofList, h]

theorem absoluteComponents_parent_join (hn : isName name = true) :
    absoluteComponents home (parent (join dir name)) = absoluteComponents home dir := by
  by_cases hd : dir = ""
  · have hj : join dir name = name := by
      rw [← String.toList_inj, toList_join hn, hd]
      rfl
    have hp : Text.dropEndWhile (· != '/') name.toList = [] := by
      rw [Text.dropEndWhile_eq_rdropWhile, List.rdropWhile_eq_nil_iff]
      intro c hc
      simpa using fun he : c = '/' => slash_not_mem_of_isName hn (he ▸ hc)
    rw [hj, parent, hp, hd]
    rfl
  · rw [absoluteComponents_eq home dir, ← reduceComponents_stem _ hd, parent,
      dropEndWhile_join hd hn]
    split
    · exact absoluteComponents_ofList (head?_stem hd)
    next hall =>
      have hsome : ∃ c ∈ stem dir, c ≠ '/' := by simpa using hall
      have hhead : (Text.dropEndWhile (· == '/') (stem dir)).head? = dir.toList.head? := by
        have hne : Text.dropEndWhile (· == '/') (stem dir) ≠ [] := by
          rw [Text.dropEndWhile_eq_rdropWhile, ne_eq, List.rdropWhile_eq_nil_iff]
          simpa using hsome
        obtain ⟨rest, hs⟩ := List.rdropWhile_prefix (· == '/') (stem dir)
        rw [← Text.dropEndWhile_eq_rdropWhile] at hs
        rw [← head?_stem hd, ← congrArg List.head? hs, List.head?_append_of_ne_nil _ hne]
      rw [absoluteComponents_ofList hhead, ← dropEndWhile_append hsome,
        reduceComponents_dropEndWhile]

/-! ## Relative paths -/

theorem relativeComponents_append (cs start target : List String) :
    relativeComponents (cs ++ start) (cs ++ target) = relativeComponents start target := by
  induction cs with
  | nil => rfl
  | cons c cs ih => rw [List.cons_append, List.cons_append, relativeComponents, if_pos rfl, ih]

/-- From a place below one directory, what is below it is spelt as from the same place below
another. -/
theorem relativeTo_congr {cs cs' : List String} (hb : absoluteComponents home base = cs ++ place)
    (hp : absoluteComponents home p = cs ++ trail)
    (hb' : absoluteComponents home' base' = cs' ++ place)
    (hp' : absoluteComponents home' q = cs' ++ trail) :
    relativeTo home' base' q = relativeTo home base p := by
  rw [relativeTo, relativeTo, hb, hp, hb', hp', relativeComponents_append,
    relativeComponents_append]

theorem relativeTo_descend (hne : trail ≠ []) (ht : IsTrail trail) :
    relativeTo home dir (descend dir trail) = "/".intercalate trail := by
  have hr : relativeComponents (absoluteComponents home dir)
      (absoluteComponents home dir ++ trail) = trail :=
    calc relativeComponents (absoluteComponents home dir) (absoluteComponents home dir ++ trail)
      _ = relativeComponents (absoluteComponents home dir ++ [])
            (absoluteComponents home dir ++ trail) := by rw [List.append_nil]
      _ = relativeComponents [] trail := relativeComponents_append ..
      _ = trail := rfl
  rw [relativeTo, absoluteComponents_descend ht, hr]
  cases trail with
  | nil => exact absurd rfl hne
  | cons => rfl

/-! ## Base names -/

theorem baseName_descend (hne : trail ≠ []) (ht : IsTrail trail) :
    baseName (descend dir trail) = trail.getLast hne := by
  obtain ⟨front, hc, -⟩ := components_descend hne ht
  rw [baseName, hc, List.getLastD_eq_getLast?, List.getLast?_append_of_ne_nil _ hne,
    List.getLast?_eq_getLast_of_ne_nil hne, Option.getD_some]

theorem suffix_congr (h : baseName p = baseName q) : suffix p = suffix q := by
  rw [suffix, suffix, h]

theorem isEligible_congr (h : baseName p = baseName q) (supported patterns : List String) :
    isEligible supported patterns p = isEligible supported patterns q := by
  have hk : Path.kind p = Path.kind q := by rw [Path.kind, Path.kind, suffix_congr h]
  have hf (pattern : String) : fitsPattern p pattern = fitsPattern q pattern := by
    unfold fitsPattern
    cases FilePattern.ofString pattern <;> simp only [FilePattern.fits, h, hk]
  simp only [isEligible, hk, funext hf]

end Gazetteer.Path

import Gazetteer.Proofs.Ignore.Anchors

/-! # Below an ignored directory

A rule that is not anchored and ignores a directory also ignores whatever lies below it. So a survey
that does not enter the directory passes over nothing that the rule would have kept.
-/

namespace Gazetteer.Ignore

open Gazetteer.Path

variable {b m p s z front : List Char} {trail more : List String}

/-! ## Longer texts -/

theorem getLast?_of_append_eq {u t : List Char} (h : s = [] ∨ s.getLast? = some '/')
    (hs : s = u ++ t) : t = [] ∨ t.getLast? = some '/' := by
  by_cases ht : t = []
  · exact .inl ht
  · rcases h with h | h
    · exact absurd (List.append_eq_nil_iff.mp (hs ▸ h)).2 ht
    · exact .inr (by rwa [hs, List.getLast?_append_of_ne_nil _ ht] at h)

/-- What a body names up to a slash goes on with any name: no literal at the end of the body takes
the slash, so the body ends in a star, and that takes the name. -/
theorem Names.append_name (h : Names b m) (hne : b ≠ []) (hb : b.getLast? ≠ some '/')
    (hm : m = [] ∨ m.getLast? = some '/') (hslash : '/' ∉ p) (hline : '\n' ∉ p) :
    Names b (m ++ p) := by
  have tail {c : Char} {b : List Char} (hne : b ≠ []) (hb : (c :: b).getLast? ≠ some '/') :
      b.getLast? ≠ some '/' := by
    rwa [List.getLast?_cons_of_ne_nil hne] at hb
  induction h with
  | done => exact absurd rfl hne
  | @anyText b k t hk ht ih =>
    by_cases hbn : b = []
    · subst hbn
      obtain rfl := names_nil_iff.mp ht
      rw [List.append_nil, ← List.append_nil (k ++ p)]
      exact .anyText (by simp [hk, hline]) .done
    · rw [List.append_assoc]
      exact .anyText hk (ih hbn (tail hbn (tail (by simp) hb)) (getLast?_of_append_eq hm rfl))
  | @anyName b k t hs hk ht ih =>
    by_cases hbn : b = []
    · subst hbn
      obtain rfl := names_nil_iff.mp ht
      rw [List.append_nil, ← List.append_nil (k ++ p)]
      exact .anyName hs (by simp [hk, hslash]) .done
    · rw [List.append_assoc]
      exact .anyName hs hk (ih hbn (tail hbn hb) (getLast?_of_append_eq hm rfl))
  | @anyChar b c t hc ht ih =>
    by_cases hbn : b = []
    · subst hbn
      obtain rfl := names_nil_iff.mp ht
      simp [hc] at hm
    · exact .anyChar hc (ih hbn (tail hbn hb) (getLast?_of_append_eq hm (u := [c]) rfl))
  | @self b c t hs hq ht ih =>
    by_cases hbn : b = []
    · subst hbn
      obtain rfl := names_nil_iff.mp ht
      simp_all
    · exact .self hs hq (ih hbn (tail hbn hb) (getLast?_of_append_eq hm (u := [c]) rfl))

/-- What a body names stands in a path, at the beginning or after a slash. -/
def Occurs (b s : List Char) : Prop :=
  ∃ a t, s = a ++ t ∧ (a = [] ∨ a.getLast? = some '/') ∧ Fits b t

theorem EndsName.append {t : List Char} (h : EndsName z) (hline : '\n' ∉ z) (hne : z ≠ []) :
    EndsName (z ++ t) := by
  rcases h with rfl | rfl | h
  · exact absurd rfl hne
  · simp at hline
  · obtain ⟨r, rfl⟩ := List.head?_eq_some_iff.mp h
    exact .inr (.inr rfl)

theorem Occurs.below (h : Occurs b s) (hne : b ≠ []) (hb : b.getLast? ≠ some '/')
    (hs : s.getLast? = some '/') (hline : '\n' ∉ s ++ p) (hslash : '/' ∉ p) (hz : EndsName z) :
    Occurs b (s ++ (p ++ z)) := by
  obtain ⟨a, -, rfl, ha, m, y, rfl, hm, hy⟩ := h
  simp only [List.mem_append, not_or] at hline
  obtain ⟨⟨-, -, hyline⟩, hpline⟩ := hline
  by_cases hyn : y = []
  · -- The body names the path to its end, slash included.
    subst hyn
    have hlast : m = [] ∨ m.getLast? = some '/' :=
      getLast?_of_append_eq (.inr hs) (u := a) (by simp)
    exact ⟨a, (m ++ p) ++ z, by simp, ha, m ++ p, z, rfl,
      hm.append_name hne hb hlast hslash hpline, hz⟩
  · exact ⟨a, m ++ (y ++ (p ++ z)), by simp, ha, m, _, rfl, hm, hy.append hyline hyn⟩

theorem Occurs.below_name (h : Occurs b s) (hline : '\n' ∉ s) (hslash : '/' ∉ s)
    (hf : front = [] ∨ front.getLast? = some '/') (t : List Char) :
    Occurs b (front ++ (s ++ '/' :: t)) := by
  obtain ⟨a, -, rfl, ha, m, y, rfl, hm, hy⟩ := h
  simp only [List.mem_append, not_or] at hline hslash
  have ha : a = [] := ha.resolve_right fun ha => hslash.1 (List.mem_of_getLast? ha)
  have hy : y = [] := by
    rcases hy with hy | hy | hy
    · exact hy
    · exact absurd (hy ▸ List.mem_singleton_self _) hline.2.2
    · exact absurd (List.mem_of_mem_head? hy) hslash.2.2
  subst ha hy
  exact ⟨front, m ++ '/' :: t, by simp, hf, m, _, rfl, hm, .inr (.inr rfl)⟩

/-! ## Rules -/

theorem spelt_append (ht : trail ≠ []) (hm : more ≠ []) (isDir : Bool) :
    spelt (trail ++ more) isDir = spelt trail true ++ spelt more isDir := by
  have hs : "/".intercalate (trail ++ more) =
      "/".intercalate trail ++ "/" ++ "/".intercalate more :=
    String.intercalate_append_of_ne_nil ht hm
  cases isDir with
  | true => simp [spelt, hs, String.append_assoc]
  | false => simp [spelt, hs, String.append_assoc]

theorem exists_spelt_cons (name : String) (more : List String) (isDir : Bool) :
    ∃ z, (spelt (name :: more) isDir).toList = name.toList ++ z ∧ EndsName z := by
  by_cases hm : more = []
  · subst hm
    cases isDir with
    | true => exact ⟨['/'], by simp [spelt], .inr (.inr rfl)⟩
    | false => exact ⟨[], by simp [spelt], .inl rfl⟩
  · refine ⟨'/' :: (spelt more isDir).toList, ?_, .inr (.inr rfl)⟩
    rw [← List.singleton_append, spelt_append (List.cons_ne_nil name []) hm]
    simp [spelt]

theorem not_mem_spelt {c : Char} (hc : c ≠ '/') (h : ∀ name ∈ trail, c ∉ name.toList)
    (isDir : Bool) : c ∉ (spelt trail isDir).toList := by
  induction trail with
  | nil => cases isDir <;> simp [spelt, hc]
  | cons name rest ih =>
    obtain ⟨hname, hrest⟩ := List.forall_mem_cons.mp h
    by_cases hr : rest = []
    · subst hr
      cases isDir <;> simp [spelt, hname, hc]
    · have hs : spelt (name :: rest) isDir = spelt [name] true ++ spelt rest isDir :=
        spelt_append (List.cons_ne_nil name []) hr isDir
      rw [hs, String.toList_append, List.mem_append, not_or]
      exact ⟨by simp [spelt, hname, hc], ih hrest⟩

theorem exists_spelt_getLast (hne : trail ≠ []) :
    ∃ front, (spelt trail true).toList = front ++ ((trail.getLast hne).toList ++ ['/']) ∧
      (front = [] ∨ front.getLast? = some '/') := by
  obtain ⟨init, name, rfl⟩ := (List.eq_nil_or_concat' trail).resolve_left hne
  rw [List.getLast_concat]
  by_cases hi : init = []
  · subst hi
    exact ⟨[], by simp [spelt], .inl rfl⟩
  · refine ⟨(spelt init true).toList, ?_, .inr (by simp [spelt])⟩
    rw [spelt_append hi (List.cons_ne_nil name []), String.toList_append]
    simp [spelt]

/-- The rule of a line that is not anchored looks everywhere for the body of the line. -/
theorem search_iff_occurs {rule : Rule} {line base : String}
    (hr : rule ∈ Rules.ofLines [line] base) (hu : ¬IsAnchored (Text.trimChars line.toList))
    (s : String) :
    rule.regex.search s = true ↔ Occurs (bodyOf (Text.trimChars line.toList)) s.toList := by
  have hc := (compileLine_of_mem_ofLines hr).1
  obtain ⟨r, hr, hs⟩ := exists_compileLine rfl (not_isNameless_of_compileLine hc)
  rw [hc] at hr
  obtain rfl := Option.some.inj hr
  rw [hs, Occurs]
  simp only [hu, not_false_eq_true, true_and]

/-- A rule that is not anchored and ignores a directory ignores every file and every directory
below it. -/
theorem ignores_below {rule : Rule} {line base : String}
    (hr : rule ∈ Rules.ofLines [line] base) (hu : ¬IsAnchored (Text.trimChars line.toList))
    (hne : trail ≠ []) (hm : more ≠ []) (ht : IsTrail (trail ++ more))
    (hline : ∀ name ∈ trail ++ more, '\n' ∉ name.toList)
    {home : String} (h : rule.ignores home (descend base trail) true = true) (isDir : Bool) :
    rule.ignores home (descend (descend base trail) more) isDir = true := by
  obtain ⟨hc, rfl⟩ := compileLine_of_mem_ofLines hr
  have hn := not_isNameless_of_compileLine hc
  have hs := search_iff_occurs hr hu
  have htrail := List.forall_mem_append.mp ht
  have hlines := List.forall_mem_append.mp hline
  rw [ignores_descend_iff_search hne htrail.1, hs, hs] at h
  rw [← descend_append, ignores_descend_iff_search (by simp [hne]) ht, hs]
  refine .inl ?_
  rw [spelt_append hne hm, String.toList_append]
  rcases h with h | h
  · -- The path of the directory goes on with the next name.
    obtain ⟨name, rest, rfl⟩ := List.exists_cons_of_ne_nil hm
    obtain ⟨z, hz, hends⟩ := exists_spelt_cons name rest isDir
    rw [hz]
    refine h.below (bodyOf_ne_nil hn) (getLast?_bodyOf hn) (by simp [spelt]) ?_ ?_ hends
    · rw [List.mem_append, not_or]
      exact ⟨not_mem_spelt (by decide) hlines.1 true, hlines.2 name List.mem_cons_self⟩
    · exact slash_not_mem_of_isName (htrail.2 name List.mem_cons_self)
  · -- The name of the directory stands in the path of whatever is below.
    obtain ⟨front, hd, hf⟩ := exists_spelt_getLast hne
    have hlast := List.getLast_mem hne
    rw [hd]
    simpa using h.below_name (hlines.1 _ hlast) (slash_not_mem_of_isName (htrail.1 _ hlast)) hf
      (spelt more isDir).toList

def buildRule : Rule := ⟨"build/*", Glob.toRegex (.body false (globTokens "build/*".toList)), "/p"⟩

/-- The star stands for nothing in the path of the directory and for a name in a path below it. -/
theorem ignores_below_build :
    buildRule ∈ Rules.ofLines ["build/*"] "/p" ∧
      buildRule.ignores "/" (descend "/p" ["src", "build"]) true = true ∧
      buildRule.ignores "/" (descend (descend "/p" ["src", "build"]) ["tools", "gen.py"]) false =
        true := by
  have hr : buildRule ∈ Rules.ofLines ["build/*"] "/p" := by decide +kernel
  have hu : ¬IsAnchored (Text.trimChars "build/*".toList) := by decide +kernel
  have hd : buildRule.ignores "/" (descend "/p" ["src", "build"]) true = true := by decide +kernel
  have ht : IsTrail (["src", "build"] ++ ["tools", "gen.py"]) := by decide +kernel
  have hline : ∀ name ∈ ["src", "build"] ++ ["tools", "gen.py"], '\n' ∉ name.toList := by
    decide +kernel
  exact ⟨hr, hd, ignores_below hr hu (by simp) (by simp) ht hline hd false⟩

end Gazetteer.Ignore

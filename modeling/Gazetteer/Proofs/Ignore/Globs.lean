import Gazetteer.Ignore.Glob
import Gazetteer.Proofs.Regex.Notation
import Gazetteer.Proofs.Text.Blank

/-! # What globs name

A glob is read from left to right: stars and question marks go with many texts, any other character
with itself. The expression of a line is found in a text exactly if the text has, at a place where
the line may stand, a part that its body names, and the part ends where a name can end.
-/

namespace Gazetteer.Ignore

open Regex

/-- A text that the body of a line names. -/
inductive Names : (body text : List Char) → Prop where
  | done : Names [] []
  | anyText {b m t} : '\n' ∉ m → Names b t → Names ('*' :: '*' :: b) (m ++ t)
  | anyName {b m t} : b.head? ≠ some '*' → '/' ∉ m → Names b t → Names ('*' :: b) (m ++ t)
  | anyChar {b c t} : c ≠ '/' → Names b t → Names ('?' :: b) (c :: t)
  | self {b c t} : c ≠ '*' → c ≠ '?' → Names b t → Names (c :: b) (c :: t)

variable {b m s t z : List Char} {p : Bool}

theorem names_nil_iff : Names [] m ↔ m = [] :=
  ⟨fun | .done => rfl, fun h => h ▸ .done⟩

theorem names_anyText_iff :
    Names ('*' :: '*' :: b) m ↔ ∃ k t, m = k ++ t ∧ '\n' ∉ k ∧ Names b t := by
  constructor
  · intro h
    cases h with
    | anyText hk ht => exact ⟨_, _, rfl, hk, ht⟩
    | anyName hb => exact absurd rfl hb
    | self hc => exact absurd rfl hc
  · rintro ⟨k, t, rfl, hk, ht⟩
    exact .anyText hk ht

theorem names_anyName_iff (hb : b.head? ≠ some '*') :
    Names ('*' :: b) m ↔ ∃ k t, m = k ++ t ∧ '/' ∉ k ∧ Names b t := by
  constructor
  · intro h
    cases h with
    | anyText => exact absurd rfl hb
    | anyName _ hk ht => exact ⟨_, _, rfl, hk, ht⟩
    | self hc => exact absurd rfl hc
  · rintro ⟨k, t, rfl, hk, ht⟩
    exact .anyName hb hk ht

theorem names_anyChar_iff : Names ('?' :: b) m ↔ ∃ c t, m = c :: t ∧ c ≠ '/' ∧ Names b t := by
  constructor
  · intro h
    cases h with
    | anyChar hc ht => exact ⟨_, _, rfl, hc, ht⟩
    | self _ hc => exact absurd rfl hc
  · rintro ⟨c, t, rfl, hc, ht⟩
    exact .anyChar hc ht

theorem names_self_iff {c : Char} (hs : c ≠ '*') (hq : c ≠ '?') :
    Names (c :: b) m ↔ ∃ t, m = c :: t ∧ Names b t := by
  constructor
  · intro h
    cases h with
    | anyText => exact absurd rfl hs
    | anyName => exact absurd rfl hs
    | anyChar => exact absurd rfl hq
    | self _ _ ht => exact ⟨_, rfl, ht⟩
  · rintro ⟨t, rfl, ht⟩
    exact .self hs hq ht

theorem names_literal_iff (hs : '*' ∉ b) (hq : '?' ∉ b) : Names b m ↔ m = b := by
  induction b generalizing m with
  | nil => exact names_nil_iff
  | cons c b ih =>
    rw [List.mem_cons, not_or] at hs hq
    rw [names_self_iff (Ne.symm hs.1) (Ne.symm hq.1)]
    simp only [ih hs.2 hq.2, exists_eq_right]

/-- The expression of a body matches what the body names, wherever it stands. -/
theorem spans_globTokens (b : List Char) :
    (seq ((globTokens b).map (·.toRegex))).Spans p m z ↔ Names b m := by
  fun_induction globTokens b generalizing p m with
  | case1 => exact spans_empty_iff.trans names_nil_iff.symm
  | case2 b ih =>
    simp only [List.map_cons, seq_cons, spans_cat_iff, ih, names_anyText_iff]
    simp only [GlobToken.toRegex, spans_run_iff, forall_visible_iff]
  | case3 b hb ih =>
    have hb : b.head? ≠ some '*' := by
      cases b with
      | nil => simp
      | cons c b => simpa using fun hc : c = '*' => hb b (by rw [hc])
    simp only [List.map_cons, seq_cons, spans_cat_iff, ih, names_anyName_iff hb]
    simp only [GlobToken.toRegex, spans_run_iff, forall_nonSlash_iff]
  | case4 b ih =>
    simp only [List.map_cons, seq_cons, spans_cat_iff, ih, names_anyChar_iff]
    simp only [GlobToken.toRegex, spans_one_iff, has_nonSlash_iff]
    constructor
    · rintro ⟨-, t, rfl, ⟨c, hc, rfl⟩, ht⟩
      exact ⟨c, t, rfl, hc, ht⟩
    · rintro ⟨c, t, rfl, hc, ht⟩
      exact ⟨[c], t, rfl, ⟨c, hc, rfl⟩, ht⟩
  | case5 c b _ hs hq ih =>
    simp only [List.map_cons, seq_cons, spans_cat_iff, ih, names_self_iff hs hq]
    simp only [GlobToken.toRegex, spans_char_iff]
    constructor
    · rintro ⟨-, t, rfl, rfl, ht⟩
      exact ⟨t, rfl, ht⟩
    · rintro ⟨t, rfl, ht⟩
      exact ⟨[c], t, rfl, rfl, ht⟩

/-! ## Where a name may stand -/

/-- What may follow a name: nothing, a line feed that ends the text, or what lies below. -/
def EndsName (z : List Char) : Prop := z = [] ∨ z = ['\n'] ∨ z.head? = some '/'

/-- A text begins with what the body of a line names. -/
def Fits (b t : List Char) : Prop := ∃ m z, t = m ++ z ∧ Names b m ∧ EndsName z

theorem matchesAt_slash_iff : MatchesAt (.char '/') p t ↔ t.head? = some '/' := by
  cases t with
  | nil => simp [MatchesAt]
  | cons c t => simp [MatchesAt, eq_comm]

theorem matchesAt_below_iff : MatchesAt Glob.below p t ↔ EndsName t := by
  have hrun {q u} : MatchesAt (seq [.run .visible]) q u :=
    ⟨[], u, rfl, spans_cat_empty.mpr (.run (by simp))⟩
  have hslash : MatchesAt (.seq [.char '/', .run .visible]) p t ↔ MatchesAt (.char '/') p t := by
    rw [seq_cons, matchesAt_cat_iff]
    simp only [hrun, and_true]
    rfl
  rw [Glob.below, matchesAt_alt_iff, matchesAt_finish_iff, hslash, matchesAt_slash_iff, EndsName,
    or_assoc]

theorem matchesAt_end_iff : MatchesAt (.alt .finish (.char '/')) p t ↔ EndsName t := by
  rw [matchesAt_alt_iff, matchesAt_finish_iff, matchesAt_slash_iff, EndsName, or_assoc]

theorem matchesAt_fits_iff {r e : Regex} (hr : ∀ p m z, r.Spans p m z ↔ Names b m)
    (he : ∀ p t, e.MatchesAt p t ↔ EndsName t) : MatchesAt (.cat r e) p t ↔ Fits b t := by
  simp only [matchesAt_cat_iff, hr, he, Fits]

theorem spans_anywhere_iff : Glob.anywhere.Spans p m z ↔
    p = true ∧ m = [] ∨ ∃ k, '\n' ∉ k ∧ m = k ++ ['/'] := by
  simp only [Glob.anywhere, spans_alt_iff, spans_start_iff, seq_cons, seq_nil, spans_cat_iff,
    spans_run_iff, forall_visible_iff, spans_char_iff, spans_empty_iff]
  constructor
  · rintro (h | ⟨k, -, rfl, hk, -, -, rfl, rfl, rfl⟩)
    · exact .inl h
    · exact .inr ⟨k, hk, rfl⟩
  · rintro (h | ⟨k, hk, rfl⟩)
    · exact .inl h
    · exact .inr ⟨k, ['/'], rfl, hk, ['/'], [], rfl, rfl, rfl⟩

/-- Behind `anywhere`, an expression is looked for at the beginning and after every slash. -/
theorem search_anywhere_iff (r : Regex) (s : String) :
    (cat Glob.anywhere r).search s = true ↔
      ∃ a t, s.toList = a ++ t ∧ (a = [] ∨ a.getLast? = some '/') ∧ r.MatchesAt a.isEmpty t := by
  simp only [search_iff, matchesAt_cat_iff, spans_anywhere_iff]
  constructor
  · rintro ⟨x, -, hs, m, t, rfl, hm, hr⟩
    refine ⟨x ++ m, t, by simpa using hs, ?_, by rwa [isEmpty_append]⟩
    rcases hm with ⟨hx, rfl⟩ | ⟨k, -, rfl⟩
    · exact .inl (by simpa using hx)
    · exact .inr (by simp)
  · rintro ⟨a, t, hs, rfl | ha, hr⟩
    · exact ⟨[], t, hs, [], t, rfl, .inl ⟨rfl, rfl⟩, hr⟩
    · obtain ⟨k, rfl⟩ := List.getLast?_eq_some_iff.mp ha
      refine ⟨k, '/' :: t, by simpa using hs, ['/'], t, rfl, .inr ⟨[], by simp, rfl⟩, ?_⟩
      rwa [isEmpty_append] at hr

/-- The expression looks for a body at the beginning of a text and nowhere else. -/
def Heads (r : Regex) (b : List Char) : Prop :=
  ∃ q, r = cat .start q ∧ ∀ t, q.MatchesAt true t ↔ Fits b t

theorem Heads.matchStart_iff {r : Regex} (h : Heads r b) (s : String) :
    r.matchStart s = true ↔ Fits b s.toList := by
  obtain ⟨q, rfl, hq⟩ := h
  rw [Regex.matchStart_iff, matchesAt_start_iff, hq]

theorem Heads.search_eq {r : Regex} (h : Heads r b) (s : String) : r.search s = r.matchStart s := by
  obtain ⟨q, rfl, -⟩ := h
  exact search_start q s

theorem heads_topName {name : String} (hs : '*' ∉ name.toList) (hq : '?' ∉ name.toList) :
    Heads (Glob.topName name) name.toList := by
  have he (p : Bool) (t : List Char) :
      MatchesAt (seq [.alt .finish (.char '/')]) p t ↔ EndsName t := by
    rw [← matchesAt_end_iff (p := p)]
    simp only [MatchesAt, seq_cons, seq_nil, spans_cat_empty]
  exact ⟨_, rfl, fun t =>
    matchesAt_fits_iff (fun p m z => by rw [spans_literal_iff, names_literal_iff hs hq]) he⟩

theorem heads_body (b : List Char) : Heads (Glob.toRegex (.body true (globTokens b))) b :=
  ⟨_, rfl, fun _ => matchesAt_fits_iff (fun _ _ _ => spans_globTokens b)
    fun _ _ => matchesAt_below_iff⟩

/-! ## Lines -/

def IsNameless (cs : List Char) : Prop :=
  cs = [] ∨ cs.head? = some '#' ∨ cs.head? = some '!' ∨ ∀ c ∈ cs, c = '/'

/-- Lines that slashes lead, and the package directory. -/
def IsAnchored (cs : List Char) : Prop :=
  cs.head? = some '/' ∨ cs = "node_modules".toList ∨ cs = "node_modules/".toList

instance (cs : List Char) : Decidable (IsAnchored cs) := inferInstanceAs (Decidable (_ ∨ _ ∨ _))

def coreOf (cs : List Char) : List Char := cs.rdropWhile (· == '/')

/-- What a line is written about: its core, without the slashes that lead an anchored line or the
stars and the slash that begin another. -/
def bodyOf (cs : List Char) : List Char :=
  if IsAnchored cs then (coreOf cs).dropWhile (· == '/')
  else if "**/".toList <+: coreOf cs then (coreOf cs).drop 3
  else coreOf cs

section Body

variable {cs : List Char}

theorem coreOf_ne_nil (h : ¬IsNameless cs) : coreOf cs ≠ [] := by
  rw [coreOf, ne_eq, List.rdropWhile_eq_nil_iff]
  intro hall
  exact h (.inr (.inr (.inr (by simpa using hall))))

theorem getLast_coreOf (h : coreOf cs ≠ []) : (coreOf cs).getLast h ≠ '/' := by
  simpa [coreOf] using List.rdropWhile_last_not (· == '/') cs h

theorem head_coreOf (h : ¬IsNameless cs) : (coreOf cs).head? = cs.head? := by
  obtain ⟨rest, hs⟩ := List.rdropWhile_prefix (· == '/') cs
  conv_rhs => rw [← hs]
  exact (List.head?_append_of_ne_nil _ (coreOf_ne_nil h)).symm

theorem splitBody_eq (h : ¬IsNameless cs) (hn : cs ≠ "node_modules".toList)
    (hn' : cs ≠ "node_modules/".toList) :
    Glob.splitBody cs = (decide (IsAnchored cs), bodyOf cs) := by
  have ha : IsAnchored cs ↔ (coreOf cs).head? = some '/' := by
    rw [head_coreOf h, IsAnchored, or_iff_left (not_or.mpr ⟨hn, hn'⟩)]
  rw [Glob.splitBody, Text.dropEndWhile_eq_rdropWhile, ← coreOf, bodyOf]
  simp only [ha]
  split
  · next r hr => simp [hr]
  · next r hr => simp [hr]
  · next hslash hstars =>
    have hs : (coreOf cs).head? ≠ some '/' := fun hc => by
      obtain ⟨r, hr⟩ := List.head?_eq_some_iff.mp hc
      exact hslash r hr
    have hss : ¬"**/".toList <+: coreOf cs := fun ⟨r, hr⟩ => hstars r hr.symm
    simp only [hs, hss, decide_false, if_false]

theorem bodyOf_ne_nil (h : ¬IsNameless cs) : bodyOf cs ≠ [] := by
  have hne := coreOf_ne_nil h
  have hlast := getLast_coreOf hne
  unfold bodyOf
  split
  · rw [ne_eq, List.dropWhile_eq_nil_iff]
    intro hall
    exact hlast (by simpa using hall _ (List.getLast_mem hne))
  · split
    next hs =>
      obtain ⟨r, hr⟩ := hs
      simp only [← hr] at hlast ⊢
      rintro (rfl : r = [])
      exact hlast rfl
    · exact hne

/-- The body of a line ends as the line does without its slashes. -/
theorem bodyOf_suffix (cs : List Char) : bodyOf cs <:+ coreOf cs := by
  unfold bodyOf
  split
  · exact List.dropWhile_suffix _
  · split
    · exact List.drop_suffix _ _
    · exact List.suffix_rfl

theorem getLast?_bodyOf (h : ¬IsNameless cs) : (bodyOf cs).getLast? ≠ some '/' := by
  obtain ⟨front, hs⟩ := bodyOf_suffix cs
  rw [← List.getLast?_append_of_ne_nil front (bodyOf_ne_nil h), hs,
    List.getLast?_eq_getLast_of_ne_nil (coreOf_ne_nil h)]
  intro hc
  exact getLast_coreOf (coreOf_ne_nil h) (Option.some.inj hc)

theorem bodyOf_packages (h : cs = "node_modules".toList ∨ cs = "node_modules/".toList) :
    bodyOf cs = "node_modules".toList := by
  rcases h with rfl | rfl <;> simp [bodyOf, coreOf, IsAnchored, List.rdropWhile]

end Body

section Line

variable {line : String} {cs : List Char} (hcs : Text.trimChars line.toList = cs)

include hcs

theorem ofLine?_of_nameless (h : IsNameless cs) : Glob.ofLine? line = none := by
  simp only [Glob.ofLine?, hcs]
  rcases h with rfl | h | h | h
  · rfl
  · obtain ⟨r, rfl⟩ := List.head?_eq_some_iff.mp h
    rfl
  · obtain ⟨r, rfl⟩ := List.head?_eq_some_iff.mp h
    rfl
  · have hcore : cs.rdropWhile (· == '/') = [] := by
      rw [List.rdropWhile_eq_nil_iff]
      simpa using h
    have hn (s : List Char) (hs : 'n' ∈ s) : cs ≠ s := fun hc =>
      absurd (h 'n' (hc ▸ hs)) (by decide)
    split
    · rfl
    · rfl
    · rfl
    · simp only [hn "node_modules".toList (by simp), hn "node_modules/".toList (by simp),
        decide_false, Bool.or_self, Bool.false_eq_true, if_false, Glob.splitBody,
        Text.dropEndWhile_eq_rdropWhile, hcore]

theorem ofLine?_of_packages (h : cs = "node_modules".toList ∨ cs = "node_modules/".toList) :
    Glob.ofLine? line = some .packages := by
  rcases h with rfl | rfl <;> simp [Glob.ofLine?, hcs]

theorem ofLine?_of_body (h : ¬IsNameless cs) (hn : cs ≠ "node_modules".toList)
    (hn' : cs ≠ "node_modules/".toList) :
    Glob.ofLine? line = some (.body (IsAnchored cs) (globTokens (bodyOf cs))) := by
  simp only [Glob.ofLine?, hcs]
  split
  · exact absurd (.inl rfl) h
  · exact absurd (.inr (.inl rfl)) h
  · exact absurd (.inr (.inr (.inl rfl))) h
  · simp only [hn, hn', decide_false, Bool.or_self, Bool.false_eq_true, if_false,
      splitBody_eq h hn hn']
    cases hb : bodyOf cs with
    | nil => exact absurd hb (bodyOf_ne_nil h)
    | cons c b => rfl

theorem compileLine_of_nameless (h : IsNameless cs) : compileLine line = none := by
  rw [compileLine, ofLine?_of_nameless hcs h, Option.map_none]

omit hcs in
theorem not_isNameless_of_compileLine {r : Regex} (h : compileLine line = some r) :
    ¬IsNameless (Text.trimChars line.toList) := by
  intro hn
  rw [compileLine_of_nameless rfl hn] at h
  cases h

/-- The expression of an anchored line looks for its body at the beginning. -/
theorem exists_heads (h : ¬IsNameless cs) (ha : IsAnchored cs) :
    ∃ r, compileLine line = some r ∧ Heads r (bodyOf cs) := by
  by_cases hp : cs = "node_modules".toList ∨ cs = "node_modules/".toList
  · rw [bodyOf_packages hp, compileLine, ofLine?_of_packages hcs hp]
    exact ⟨_, rfl, heads_topName (by simp) (by simp)⟩
  · obtain ⟨hn, hn'⟩ := not_or.mp hp
    rw [compileLine, ofLine?_of_body hcs h hn hn', decide_eq_true ha]
    exact ⟨_, rfl, heads_body _⟩

theorem exists_compileLine (h : ¬IsNameless cs) : ∃ r, compileLine line = some r ∧
    ∀ s : String, r.search s = true ↔ ∃ a t, s.toList = a ++ t ∧
      (a = [] ∨ ¬IsAnchored cs ∧ a.getLast? = some '/') ∧ Fits (bodyOf cs) t := by
  by_cases ha : IsAnchored cs
  · obtain ⟨r, hr, hh⟩ := exists_heads hcs h ha
    refine ⟨r, hr, fun s => ?_⟩
    rw [hh.search_eq, hh.matchStart_iff]
    simp only [ha, not_true, false_and, or_false]
    exact ⟨fun hf => ⟨[], s.toList, rfl, rfl, hf⟩, fun ⟨_, _, hs, ha, hf⟩ => by
      subst ha; rwa [hs]⟩
  · have hp := not_or.mp (not_or.mp ha).2
    refine ⟨_, by rw [compileLine, ofLine?_of_body hcs h hp.1 hp.2, decide_eq_false ha]; rfl,
      fun s => ?_⟩
    rw [Glob.toRegex, search_anywhere_iff]
    simp only [ha, not_false_eq_true, true_and,
      matchesAt_fits_iff (fun _ _ _ => spans_globTokens _) fun _ _ => matchesAt_below_iff]

end Line

/-- A line names nothing if it is blank, a comment, a negation or all slashes. The expression of
any other line can be read in the usual notation, and it is found in a text exactly if the text is
what the body of the line names between a place where the line may stand and the end of a name. -/
theorem compileLine_language (line : String) :
    let cs := Text.trimChars line.toList
    (IsNameless cs ∧ compileLine line = none) ∨
      ¬IsNameless cs ∧ ∃ r e, compileLine line = some r ∧ Regex.read r.print = some e ∧
        ∀ s : String, e.search s = r.search s ∧
          (e.search s = true ↔ ∃ a m z, s.toList = a ++ (m ++ z) ∧
            (a = [] ∨ ¬IsAnchored cs ∧ a.getLast? = some '/') ∧
            Names (bodyOf cs) m ∧ EndsName z) := by
  intro cs
  by_cases h : IsNameless cs
  · exact .inl ⟨h, compileLine_of_nameless rfl h⟩
  · obtain ⟨r, hr, hs⟩ := exists_compileLine rfl h
    refine .inr ⟨h, r, r.normal, hr, read_print r, fun s => ⟨search_normal r s, ?_⟩⟩
    rw [search_normal, hs]
    constructor
    · rintro ⟨a, -, hs, ha, m, z, rfl, hm, hz⟩
      exact ⟨a, m, z, hs, ha, hm, hz⟩
    · rintro ⟨a, m, z, hs, ha, hm, hz⟩
      exact ⟨a, m ++ z, hs, ha, m, z, rfl, hm, hz⟩

end Gazetteer.Ignore

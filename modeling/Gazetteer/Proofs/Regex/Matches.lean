import Gazetteer.Regex

/-! # What expressions match

The texts that an expression matches at a place, as a relation. The search with backtracking finds
a match if and only if there is one.
-/

namespace Gazetteer.Regex

/-- An expression matches a text that stands before `rest`; the flag tells whether the match is at
the beginning of the whole text. -/
inductive Spans : Regex → Bool → List Char → (rest : List Char) → Prop where
  | empty {p z} : Spans .empty p [] z
  | char {c p z} : Spans (.char c) p [c] z
  | one {cls c p z} : cls.has c = true → Spans (.one cls) p [c] z
  | run {cls p m z} : (∀ c ∈ m, cls.has c = true) → Spans (.run cls) p m z
  | start {z} : Spans .start true [] z
  | finish {p z} : z = [] ∨ z = ['\n'] → Spans .finish p [] z
  | cat {a b p m n z} : Spans a p m (n ++ z) → Spans b (p && m.isEmpty) n z →
      Spans (.cat a b) p (m ++ n) z
  | left {a b p m z} : Spans a p m z → Spans (.alt a b) p m z
  | right {a b p m z} : Spans b p m z → Spans (.alt a b) p m z

variable {a b : Regex} {cls : CharClass} {p : Bool} {m s z : List Char}

@[simp] theorem spans_empty_iff : Spans .empty p m z ↔ m = [] :=
  ⟨fun | .empty => rfl, fun h => h ▸ .empty⟩

@[simp] theorem spans_char_iff {c : Char} : Spans (.char c) p m z ↔ m = [c] :=
  ⟨fun | .char => rfl, fun h => h ▸ .char⟩

@[simp] theorem spans_one_iff : Spans (.one cls) p m z ↔ ∃ c, cls.has c = true ∧ m = [c] :=
  ⟨fun | .one h => ⟨_, h, rfl⟩, fun ⟨_, h, hm⟩ => hm ▸ .one h⟩

@[simp] theorem spans_run_iff : Spans (.run cls) p m z ↔ ∀ c ∈ m, cls.has c = true :=
  ⟨fun | .run h => h, .run⟩

@[simp] theorem spans_start_iff : Spans .start p m z ↔ p = true ∧ m = [] :=
  ⟨fun | .start => ⟨rfl, rfl⟩, fun ⟨hp, hm⟩ => hp ▸ hm ▸ .start⟩

@[simp] theorem spans_finish_iff : Spans .finish p m z ↔ m = [] ∧ (z = [] ∨ z = ['\n']) :=
  ⟨fun | .finish h => ⟨rfl, h⟩, fun ⟨hm, h⟩ => hm ▸ .finish h⟩

theorem spans_cat_iff : Spans (.cat a b) p m z ↔
    ∃ m₁ m₂, m = m₁ ++ m₂ ∧ a.Spans p m₁ (m₂ ++ z) ∧ b.Spans (p && m₁.isEmpty) m₂ z :=
  ⟨fun | .cat ha hb => ⟨_, _, rfl, ha, hb⟩, fun ⟨_, _, hm, ha, hb⟩ => hm ▸ .cat ha hb⟩

theorem spans_alt_iff : Spans (.alt a b) p m z ↔ a.Spans p m z ∨ b.Spans p m z :=
  ⟨fun | .left h => .inl h | .right h => .inr h, fun h => h.elim .left .right⟩

theorem has_nonSlash_iff {c : Char} : CharClass.nonSlash.has c = true ↔ c ≠ '/' := bne_iff_ne

theorem forall_visible_iff : (∀ c ∈ m, CharClass.visible.has c = true) ↔ '\n' ∉ m := by
  simp [CharClass.has, List.forall_mem_ne']

theorem forall_nonSlash_iff : (∀ c ∈ m, CharClass.nonSlash.has c = true) ↔ '/' ∉ m := by
  simp [CharClass.has, List.forall_mem_ne']

/-! ## Searching -/

theorem exists_split_nil {q : List Char → List Char → Prop} :
    (∃ m z, s = m ++ z ∧ m = [] ∧ q m z) ↔ q [] s :=
  ⟨fun ⟨_, _, hs, hm, h⟩ => by subst hm hs; exact h, fun h => ⟨[], s, rfl, rfl, h⟩⟩

theorem exists_split_singleton {x c : Char} {q : List Char → List Char → Prop} :
    (∃ m z, x :: s = m ++ z ∧ m = [c] ∧ q m z) ↔ x = c ∧ q [c] s := by
  constructor
  · rintro ⟨_, z, hs, rfl, h⟩
    obtain ⟨rfl, rfl⟩ := List.cons_eq_cons.mp hs
    exact ⟨rfl, h⟩
  · rintro ⟨rfl, h⟩
    exact ⟨[x], s, rfl, rfl, h⟩

theorem acceptsRun_iff {k : Bool → List Char → Bool} :
    acceptsRun cls k p s = true ↔
      ∃ m z, s = m ++ z ∧ (∀ c ∈ m, cls.has c = true) ∧ k (p && m.isEmpty) z = true := by
  induction s generalizing p with
  | nil =>
    simp only [acceptsRun, List.nil_eq, List.append_eq_nil_iff]
    exact ⟨fun hk => ⟨[], [], ⟨rfl, rfl⟩, nofun, by simpa using hk⟩,
      fun ⟨_, _, ⟨hm, hz⟩, _, hk⟩ => by subst hm hz; simpa using hk⟩
  | cons c s ih =>
    rw [acceptsRun, Bool.or_eq_true, Bool.and_eq_true, ih]
    constructor
    · rintro (⟨hc, m, z, rfl, hm, hk⟩ | hk)
      · exact ⟨c :: m, z, rfl, List.forall_mem_cons.mpr ⟨hc, hm⟩, by simpa using hk⟩
      · exact ⟨[], c :: s, rfl, nofun, by simpa using hk⟩
    · rintro ⟨_ | ⟨d, m⟩, z, hs, hm, hk⟩
      · exact .inr (by simpa [hs] using hk)
      · obtain ⟨rfl, rfl⟩ := List.cons_eq_cons.mp hs
        obtain ⟨hc, hm⟩ := List.forall_mem_cons.mp hm
        exact .inl ⟨hc, m, z, rfl, hm, by simpa using hk⟩

theorem isEmpty_append (m n : List Char) : (m ++ n).isEmpty = (m.isEmpty && n.isEmpty) := by
  cases m <;> rfl

/-- Some match leaves a rest that `k` agrees to. -/
theorem accepts_iff (r : Regex) {k : Bool → List Char → Bool} :
    r.accepts k p s = true ↔
      ∃ m z, s = m ++ z ∧ r.Spans p m z ∧ k (p && m.isEmpty) z = true := by
  induction r generalizing k p s with
  | empty => simp [accepts, exists_split_nil]
  | char c =>
    cases s with
    | nil => simp [accepts]
    | cons x s => simp [accepts, exists_split_singleton]
  | one cls =>
    cases s with
    | nil => simp [accepts]
    | cons x s =>
      simp only [accepts, Bool.and_eq_true, spans_one_iff]
      constructor
      · rintro ⟨hx, hk⟩
        exact ⟨[x], s, rfl, ⟨x, hx, rfl⟩, by simpa using hk⟩
      · rintro ⟨_, z, hs, ⟨c, hc, rfl⟩, hk⟩
        obtain ⟨rfl, rfl⟩ := List.cons_eq_cons.mp hs
        exact ⟨hc, by simpa using hk⟩
  | run cls => simp [accepts, acceptsRun_iff]
  | start =>
    simp only [accepts, Bool.and_eq_true, spans_start_iff, and_assoc, and_left_comm (a := p = true),
      exists_split_nil]
    simp
  | finish =>
    simp only [accepts, Bool.and_eq_true, spans_finish_iff, and_assoc, exists_split_nil]
    simp
  | cat a b iha ihb =>
    rw [accepts, iha]
    simp only [ihb, spans_cat_iff]
    constructor
    · rintro ⟨m, -, rfl, ha, n, z, rfl, hb, hk⟩
      refine ⟨m ++ n, z, by simp, ⟨m, n, rfl, ha, hb⟩, ?_⟩
      simpa [Bool.and_assoc, isEmpty_append] using hk
    · rintro ⟨-, z, rfl, ⟨m, n, rfl, ha, hb⟩, hk⟩
      refine ⟨m, n ++ z, by simp, ha, n, z, rfl, hb, ?_⟩
      simpa [Bool.and_assoc, isEmpty_append] using hk
  | alt a b iha ihb =>
    rw [accepts, Bool.or_eq_true, iha, ihb]
    simp only [spans_alt_iff]
    constructor
    · rintro (⟨m, z, hs, h, hk⟩ | ⟨m, z, hs, h, hk⟩)
      · exact ⟨m, z, hs, .inl h, hk⟩
      · exact ⟨m, z, hs, .inr h, hk⟩
    · rintro ⟨m, z, hs, h | h, hk⟩
      · exact .inl ⟨m, z, hs, h, hk⟩
      · exact .inr ⟨m, z, hs, h, hk⟩

def MatchesAt (r : Regex) (p : Bool) (s : List Char) : Prop := ∃ m z, s = m ++ z ∧ r.Spans p m z

theorem matchesAt_cat_iff : MatchesAt (.cat a b) p s ↔
    ∃ m t, s = m ++ t ∧ a.Spans p m t ∧ b.MatchesAt (p && m.isEmpty) t := by
  simp only [MatchesAt, spans_cat_iff]
  constructor
  · rintro ⟨-, z, rfl, m, n, rfl, ha, hb⟩
    exact ⟨m, n ++ z, by simp, ha, n, z, rfl, hb⟩
  · rintro ⟨m, -, rfl, ha, n, z, rfl, hb⟩
    exact ⟨m ++ n, z, by simp, m, n, rfl, ha, hb⟩

theorem matchesAt_alt_iff : MatchesAt (.alt a b) p s ↔ a.MatchesAt p s ∨ b.MatchesAt p s := by
  simp only [MatchesAt, spans_alt_iff, and_or_left, exists_or]

theorem matchesAt_finish_iff : MatchesAt .finish p s ↔ s = [] ∨ s = ['\n'] := by
  simp only [MatchesAt, spans_finish_iff, exists_split_nil]

theorem matchesAt_start_iff : MatchesAt (.cat .start b) true s ↔ b.MatchesAt true s := by
  rw [matchesAt_cat_iff]
  simp only [spans_start_iff, true_and, exists_split_nil, List.isEmpty_nil, Bool.and_self]

theorem accepts_true_iff (r : Regex) :
    r.accepts (fun _ _ => true) p s = true ↔ r.MatchesAt p s := by
  simp [accepts_iff, MatchesAt]

theorem searchFrom_iff (r : Regex) :
    r.searchFrom p s = true ↔ ∃ x t, s = x ++ t ∧ r.MatchesAt (p && x.isEmpty) t := by
  induction s generalizing p with
  | nil =>
    rw [searchFrom, accepts_true_iff]
    constructor
    · intro h
      exact ⟨[], [], rfl, by simpa using h⟩
    · rintro ⟨x, t, hs, h⟩
      obtain ⟨rfl, rfl⟩ := List.nil_eq_append_iff.mp hs
      simpa using h
  | cons c s ih =>
    rw [searchFrom, Bool.or_eq_true, ih, accepts_true_iff]
    constructor
    · rintro (h | ⟨x, t, rfl, h⟩)
      · exact ⟨[], c :: s, rfl, by simpa using h⟩
      · exact ⟨c :: x, t, rfl, by simpa using h⟩
    · rintro ⟨_ | ⟨d, x⟩, t, hs, h⟩
      · exact .inl (by simpa [hs] using h)
      · obtain ⟨rfl, rfl⟩ := List.cons_eq_cons.mp hs
        exact .inr ⟨x, t, rfl, by simpa using h⟩

/-- The search finds a match if there is one anywhere. -/
theorem search_iff (r : Regex) (s : String) :
    r.search s = true ↔ ∃ x t, s.toList = x ++ t ∧ r.MatchesAt x.isEmpty t := by
  simp [search, searchFrom_iff]

theorem matchStart_iff (r : Regex) (s : String) :
    r.matchStart s = true ↔ r.MatchesAt true s.toList :=
  accepts_true_iff r

theorem search_start (r : Regex) (s : String) :
    (cat .start r).search s = (cat .start r).matchStart s := by
  rw [Bool.eq_iff_iff, search_iff, matchStart_iff]
  constructor
  · rintro ⟨x, t, hs, h⟩
    obtain ⟨m, t', rfl, hm, h⟩ := matchesAt_cat_iff.mp h
    obtain ⟨hx, rfl⟩ := spans_start_iff.mp hm
    obtain rfl := List.isEmpty_iff.mp hx
    rw [hs]
    exact matchesAt_cat_iff.mpr ⟨[], t', rfl, .start, h⟩
  · intro h
    exact ⟨[], s.toList, rfl, h⟩

/-! ## Sequences -/

@[simp] theorem seq_nil : seq [] = .empty := rfl

@[simp] theorem seq_cons (r : Regex) (rs : List Regex) : seq (r :: rs) = .cat r (seq rs) := rfl

theorem spans_cat_assoc {c : Regex} :
    Spans (.cat (.cat a b) c) p m z ↔ Spans (.cat a (.cat b c)) p m z := by
  simp only [spans_cat_iff]
  constructor
  · rintro ⟨-, n, rfl, ⟨k, m, rfl, ha, hb⟩, hc⟩
    refine ⟨k, m ++ n, by simp, by simpa using ha, m, n, rfl, hb, ?_⟩
    simpa [Bool.and_assoc, isEmpty_append] using hc
  · rintro ⟨k, -, rfl, ha, m, n, rfl, hb, hc⟩
    refine ⟨k ++ m, n, by simp, ⟨k, m, rfl, by simpa using ha, hb⟩, ?_⟩
    simpa [Bool.and_assoc, isEmpty_append] using hc

theorem spans_empty_cat : Spans (.cat .empty a) p m z ↔ a.Spans p m z := by
  simp only [spans_cat_iff, spans_empty_iff, exists_split_nil]
  simp

theorem spans_cat_empty : Spans (.cat a .empty) p m z ↔ a.Spans p m z := by
  simp [spans_cat_iff]

theorem spans_cat_congr {a' b' : Regex} (ha : ∀ p m z, a.Spans p m z ↔ a'.Spans p m z)
    (hb : ∀ p m z, b.Spans p m z ↔ b'.Spans p m z) :
    Spans (.cat a b) p m z ↔ Spans (.cat a' b') p m z := by
  simp only [spans_cat_iff, ha, hb]

theorem spans_seq_append (rs ts : List Regex) :
    (seq (rs ++ ts)).Spans p m z ↔ Spans (.cat (seq rs) (seq ts)) p m z := by
  induction rs generalizing p m z with
  | nil => exact spans_empty_cat.symm
  | cons r rs ih =>
    calc (seq (r :: rs ++ ts)).Spans p m z
      _ ↔ Spans (.cat r (.cat (seq rs) (seq ts))) p m z :=
        spans_cat_congr (fun _ _ _ => .rfl) fun _ _ _ => ih
      _ ↔ Spans (.cat (seq (r :: rs)) (seq ts)) p m z := spans_cat_assoc.symm

theorem spans_literal_iff {s : String} : (literal s).Spans p m z ↔ m = s.toList := by
  unfold literal
  induction s.toList generalizing p m with
  | nil => exact spans_empty_iff
  | cons c cs ih =>
    rw [List.map_cons, seq_cons, spans_cat_iff]
    simp only [ih, spans_char_iff]
    constructor
    · rintro ⟨-, -, rfl, rfl, rfl⟩
      rfl
    · rintro rfl
      exact ⟨[c], cs, rfl, rfl, rfl⟩

end Gazetteer.Regex

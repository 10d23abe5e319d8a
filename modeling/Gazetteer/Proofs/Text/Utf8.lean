import Gazetteer.Text.Utf8
import Mathlib.Tactic.SplitIfs

/-! # Decoding what was encoded

The bytes of a character are read back as that character, whatever follows them, and no other bytes
are. So bytes are decoded as a text just if the text is encoded as these bytes.
-/

namespace Gazetteer.Text

theorem mapM_eq_some_iff {α β : Type} {f : α → Option β} {l : List α} {ys : List β} :
    l.mapM f = some ys ↔ l.map f = ys.map some := by
  induction l generalizing ys with
  | nil => cases ys <;> simp
  | cons a l ih =>
    rw [List.mapM_cons, List.map_cons]
    cases ys with
    | nil => cases f a <;> simp [Option.bind_eq_some_iff]
    | cons y ys => cases f a <;> simp [Option.bind_eq_some_iff, ih, and_left_comm]

namespace Utf8

variable {a b c d : UInt8} {r : List UInt8}

theorem isTail_iff : isTail b = true ↔ 0x80 ≤ b.toNat ∧ b.toNat ≤ 0xBF := by
  simp [isTail, UInt8.le_iff_toNat_le]

theorem isSecond_iff : isSecond a b = true ↔
    0x80 ≤ b.toNat ∧ b.toNat ≤ 0xBF ∧
      (a.toNat = 0xE0 → 0xA0 ≤ b.toNat) ∧ (a.toNat = 0xED → b.toNat ≤ 0x9F) ∧
      (a.toNat = 0xF0 → 0x90 ≤ b.toNat) ∧ (a.toNat = 0xF4 → b.toNat ≤ 0x8F) := by
  simp only [isSecond, Bool.and_eq_true, decide_eq_true_eq, UInt8.le_iff_toNat_le,
    ← UInt8.toNat_inj, apply_ite UInt8.toNat, UInt8.reduceToNat]
  split_ifs <;> omega

/-! ## Reading one character -/

theorem pieces_one (ha : a.toNat < 0x80) :
    pieces (a :: r) = some (Char.ofNat a.toNat) :: pieces r := by
  have h : a < 0x80 := UInt8.lt_iff_toNat_lt.mpr ha
  rw [pieces.eq_def]
  simp [h]

theorem pieces_two (ha : 0xC2 ≤ a.toNat ∧ a.toNat ≤ 0xDF) (hb : isTail b = true) :
    pieces (a :: b :: r) = some (char2 a b) :: pieces r := by
  have h1 : ¬ a < 0x80 := by simp [UInt8.lt_iff_toNat_lt]; omega
  have h2 : 0xC2 ≤ a ∧ a ≤ 0xDF := by simpa [UInt8.le_iff_toNat_le] using ha
  rw [pieces.eq_def]
  simp [h1, h2, hb]

theorem pieces_three (ha : 0xE0 ≤ a.toNat ∧ a.toNat ≤ 0xEF) (hb : isSecond a b = true)
    (hc : isTail c = true) : pieces (a :: b :: c :: r) = some (char3 a b c) :: pieces r := by
  have h1 : ¬ a < 0x80 := by simp [UInt8.lt_iff_toNat_lt]; omega
  have h2 : ¬ (0xC2 ≤ a ∧ a ≤ 0xDF) := by simp [UInt8.le_iff_toNat_le]; omega
  have h3 : 0xE0 ≤ a ∧ a ≤ 0xEF := by simpa [UInt8.le_iff_toNat_le] using ha
  rw [pieces.eq_def]
  simp [h1, h2, h3, hb, hc]

theorem pieces_four (ha : 0xF0 ≤ a.toNat ∧ a.toNat ≤ 0xF4) (hb : isSecond a b = true)
    (hc : isTail c = true) (hd : isTail d = true) :
    pieces (a :: b :: c :: d :: r) = some (char4 a b c d) :: pieces r := by
  have h1 : ¬ a < 0x80 := by simp [UInt8.lt_iff_toNat_lt]; omega
  have h2 : ¬ (0xC2 ≤ a ∧ a ≤ 0xDF) := by simp [UInt8.le_iff_toNat_le]; omega
  have h3 : ¬ (0xE0 ≤ a ∧ a ≤ 0xEF) := by simp [UInt8.le_iff_toNat_le]; omega
  have h4 : 0xF0 ≤ a ∧ a ≤ 0xF4 := by simpa [UInt8.le_iff_toNat_le] using ha
  rw [pieces.eq_def]
  simp [h1, h2, h3, h4, hb, hc, hd]

/-! ## Reading what was written -/

theorem toNat_toUInt8_of_lt {n : Nat} (h : n < 0x100) : n.toUInt8.toNat = n := by
  rw [Nat.toUInt8_eq, UInt8.toNat_ofNat']
  omega

theorem pieces_two_written {n : Nat} (h : 0x80 ≤ n ∧ n < 0x800) :
    pieces ((0xC0 + n / 0x40).toUInt8 :: (0x80 + n % 0x40).toUInt8 :: r) =
      some (Char.ofNat n) :: pieces r := by
  have ha := toNat_toUInt8_of_lt (n := 0xC0 + n / 0x40) (by omega)
  have hb := toNat_toUInt8_of_lt (n := 0x80 + n % 0x40) (by omega)
  have hn : (0xC0 + n / 0x40 - 0xC0) * 0x40 + (0x80 + n % 0x40 - 0x80) = n := by omega
  rw [pieces_two (by omega) (isTail_iff.mpr (by omega)), char2, ha, hb, hn]

theorem pieces_three_written {n : Nat} (h : 0x800 ≤ n ∧ n < 0x10000)
    (hv : n < 0xD800 ∨ 0xDFFF < n) :
    pieces ((0xE0 + n / 0x1000).toUInt8 :: (0x80 + n / 0x40 % 0x40).toUInt8 ::
        (0x80 + n % 0x40).toUInt8 :: r) = some (Char.ofNat n) :: pieces r := by
  have ha := toNat_toUInt8_of_lt (n := 0xE0 + n / 0x1000) (by omega)
  have hb := toNat_toUInt8_of_lt (n := 0x80 + n / 0x40 % 0x40) (by omega)
  have hc := toNat_toUInt8_of_lt (n := 0x80 + n % 0x40) (by omega)
  have hs : isSecond (0xE0 + n / 0x1000).toUInt8 (0x80 + n / 0x40 % 0x40).toUInt8 = true := by
    rw [isSecond_iff]
    omega
  have hn : ((0xE0 + n / 0x1000 - 0xE0) * 0x40 + (0x80 + n / 0x40 % 0x40 - 0x80)) * 0x40 +
      (0x80 + n % 0x40 - 0x80) = n := by omega
  rw [pieces_three (by omega) hs (isTail_iff.mpr (by omega)), char3, ha, hb, hc, hn]

theorem pieces_four_written {n : Nat} (h : 0x10000 ≤ n ∧ n < 0x110000) :
    pieces ((0xF0 + n / 0x40000).toUInt8 :: (0x80 + n / 0x1000 % 0x40).toUInt8 ::
        (0x80 + n / 0x40 % 0x40).toUInt8 :: (0x80 + n % 0x40).toUInt8 :: r) =
      some (Char.ofNat n) :: pieces r := by
  have ha := toNat_toUInt8_of_lt (n := 0xF0 + n / 0x40000) (by omega)
  have hb := toNat_toUInt8_of_lt (n := 0x80 + n / 0x1000 % 0x40) (by omega)
  have hc := toNat_toUInt8_of_lt (n := 0x80 + n / 0x40 % 0x40) (by omega)
  have hd := toNat_toUInt8_of_lt (n := 0x80 + n % 0x40) (by omega)
  have hs : isSecond (0xF0 + n / 0x40000).toUInt8 (0x80 + n / 0x1000 % 0x40).toUInt8 = true := by
    rw [isSecond_iff]
    omega
  have hn : (((0xF0 + n / 0x40000 - 0xF0) * 0x40 + (0x80 + n / 0x1000 % 0x40 - 0x80)) * 0x40 +
      (0x80 + n / 0x40 % 0x40 - 0x80)) * 0x40 + (0x80 + n % 0x40 - 0x80) = n := by omega
  rw [pieces_four (by omega) hs (isTail_iff.mpr (by omega)) (isTail_iff.mpr (by omega)), char4, ha,
    hb, hc, hd, hn]

theorem pieces_encodeChar_append (x : Char) (r : List UInt8) :
    pieces (encodeChar x ++ r) = some x :: pieces r := by
  have hv : x.toNat < 0xD800 ∨ 0xDFFF < x.toNat ∧ x.toNat < 0x110000 := x.valid
  have hx : Char.ofNat x.toNat = x := Char.ofNat_toNat x
  unfold encodeChar
  dsimp only
  split_ifs with h1 h2 h3
  · have ha := toNat_toUInt8_of_lt (n := x.toNat) (by omega)
    rw [List.singleton_append, pieces_one (by omega), ha, hx]
  · have hp := pieces_two_written (n := x.toNat) (r := r) (by omega)
    rwa [hx] at hp
  · have hp := pieces_three_written (n := x.toNat) (r := r) (by omega) (by omega)
    rwa [hx] at hp
  · have hp := pieces_four_written (n := x.toNat) (r := r) (by omega)
    rwa [hx] at hp

/-! ## Texts -/

theorem encode_cons (x : Char) (cs : List Char) : encode (x :: cs) = encodeChar x ++ encode cs :=
  List.flatMap_cons

@[simp] theorem encode_append (xs ys : List Char) : encode (xs ++ ys) = encode xs ++ encode ys :=
  List.flatMap_append

theorem pieces_encode (cs : List Char) : pieces (encode cs) = cs.map some := by
  induction cs with
  | nil => rfl
  | cons x cs ih => rw [encode_cons, pieces_encodeChar_append, ih, List.map_cons]

@[simp] theorem decodeLossy_encode (cs : List Char) : decodeLossy (encode cs) = cs := by
  simp [decodeLossy, pieces_encode, Function.comp_def]

/-! ## Beginnings of a text -/

theorem length_pieces_cons_pos (b : UInt8) (bytes : List UInt8) :
    0 < (pieces (b :: bytes)).length := by
  unfold pieces
  repeat' split
  all_goals simp

theorem length_pieces_append (front back : List UInt8) :
    (pieces front).length ≤ (pieces (front ++ back)).length := by
  fun_induction pieces front with
  | case1 => exact Nat.zero_le _
  | case3 | case6 | case7 | case11 | case12 | case13 =>
    exact length_pieces_cons_pos _ _
  | case2 | case4 | case5 | case8 | case9 | case10 | case14 | case15 | case16 | case17 | case18 =>
    rename_i ih
    have hs := Nat.succ_le_succ ih
    conv => rhs; rw [List.cons_append, pieces.eq_def]
    clear ih
    simp only [List.cons_append, Bool.false_eq_true, if_true, if_false, *]
    exact hs

theorem length_decodeLossy_append (front back : List UInt8) :
    (decodeLossy front).length ≤ (decodeLossy (front ++ back)).length := by
  simpa [decodeLossy] using length_pieces_append front back

/-! ## Bytes of one character -/

theorem le_toNat_toUInt8 {n : Nat} (h : 0x80 ≤ n ∧ n < 0x100) : 0x80 ≤ n.toUInt8.toNat := by
  rw [toNat_toUInt8_of_lt h.2]
  exact h.1

/-- The bytes of a character are the character itself or no ASCII at all. -/
theorem toNat_of_mem_encodeChar {x : Char} (h : b ∈ encodeChar x) :
    b.toNat = x.toNat ∨ 0x80 ≤ b.toNat := by
  have hv : x.toNat < 0xD800 ∨ 0xDFFF < x.toNat ∧ x.toNat < 0x110000 := x.valid
  unfold encodeChar at h
  dsimp only at h
  split_ifs at h with h1 h2 h3
  · obtain rfl := List.mem_singleton.mp h
    exact .inl (toNat_toUInt8_of_lt (by omega))
  · simp only [List.mem_cons, List.not_mem_nil, or_false] at h
    rcases h with rfl | rfl
    · exact .inr (le_toNat_toUInt8 (by omega))
    · exact .inr (le_toNat_toUInt8 (by omega))
  · simp only [List.mem_cons, List.not_mem_nil, or_false] at h
    rcases h with rfl | rfl | rfl
    · exact .inr (le_toNat_toUInt8 (by omega))
    · exact .inr (le_toNat_toUInt8 (by omega))
    · exact .inr (le_toNat_toUInt8 (by omega))
  · simp only [List.mem_cons, List.not_mem_nil, or_false] at h
    rcases h with rfl | rfl | rfl | rfl
    · exact .inr (le_toNat_toUInt8 (by omega))
    · exact .inr (le_toNat_toUInt8 (by omega))
    · exact .inr (le_toNat_toUInt8 (by omega))
    · exact .inr (le_toNat_toUInt8 (by omega))

/-! ## Strictness

No other bytes are read as a character than those that it is written with.
-/

variable {bytes : List UInt8} {cs : List Char}

theorem toNat_ofNat {n : Nat} (h : n < 0xD800 ∨ 0xDFFF < n ∧ n < 0x110000) :
    (Char.ofNat n).toNat = n := by
  have hv : n.isValidChar := h
  rw [Char.ofNat, dif_pos hv]
  rfl

theorem encodeChar_one (ha : a.toNat < 0x80) : encodeChar (Char.ofNat a.toNat) = [a] := by
  rw [encodeChar, toNat_ofNat (by omega), if_pos ha]
  simp

theorem encodeChar_two (ha : 0xC2 ≤ a.toNat ∧ a.toNat ≤ 0xDF) (hb : isTail b = true) :
    encodeChar (char2 a b) = [a, b] := by
  rw [isTail_iff] at hb
  rw [encodeChar, char2, toNat_ofNat (by omega), if_neg (by omega), if_pos (by omega)]
  simp only [List.cons.injEq, ← UInt8.toNat_inj, and_true]
  rw [toNat_toUInt8_of_lt (by omega), toNat_toUInt8_of_lt (by omega)]
  omega

theorem encodeChar_three (ha : 0xE0 ≤ a.toNat ∧ a.toNat ≤ 0xEF) (hb : isSecond a b = true)
    (hc : isTail c = true) : encodeChar (char3 a b c) = [a, b, c] := by
  rw [isSecond_iff] at hb
  rw [isTail_iff] at hc
  rw [encodeChar, char3, toNat_ofNat (by omega), if_neg (by omega), if_neg (by omega),
    if_pos (by omega)]
  simp only [List.cons.injEq, ← UInt8.toNat_inj, and_true]
  rw [toNat_toUInt8_of_lt (by omega), toNat_toUInt8_of_lt (by omega),
    toNat_toUInt8_of_lt (by omega)]
  omega

theorem encodeChar_four (ha : 0xF0 ≤ a.toNat ∧ a.toNat ≤ 0xF4) (hb : isSecond a b = true)
    (hc : isTail c = true) (hd : isTail d = true) : encodeChar (char4 a b c d) = [a, b, c, d] := by
  rw [isSecond_iff] at hb
  rw [isTail_iff] at hc hd
  rw [encodeChar, char4, toNat_ofNat (by omega), if_neg (by omega), if_neg (by omega),
    if_neg (by omega)]
  simp only [List.cons.injEq, ← UInt8.toNat_inj, and_true]
  rw [toNat_toUInt8_of_lt (by omega), toNat_toUInt8_of_lt (by omega),
    toNat_toUInt8_of_lt (by omega), toNat_toUInt8_of_lt (by omega)]
  omega

theorem encode_of_cons {x : Char} {xs : List (Option Char)} {front r : List UInt8}
    (hx : encodeChar x = front) (hr : ∀ {cs}, xs = cs.map some → encode cs = r)
    (h : some x :: xs = cs.map some) : encode cs = front ++ r := by
  obtain ⟨y, cs, rfl, hy, hcs⟩ := List.map_eq_cons_iff.mp h.symm
  rw [encode_cons, hr hcs.symm, Option.some.inj hy, hx]

theorem encode_of_pieces (h : pieces bytes = cs.map some) : encode cs = bytes := by
  fun_induction pieces bytes generalizing cs with
  | case1 =>
    obtain rfl := List.map_eq_nil_iff.mp h.symm
    rfl
  | case2 a r ha ih => exact encode_of_cons (encodeChar_one (UInt8.lt_iff_toNat_lt.mp ha)) ih h
  | case4 a _ ha b r hb ih =>
    have ha' : 0xC2 ≤ a.toNat ∧ a.toNat ≤ 0xDF := by simpa [UInt8.le_iff_toNat_le] using ha
    exact encode_of_cons (encodeChar_two ha' hb) ih h
  | case8 a _ _ ha b hb c r hc ih =>
    have ha' : 0xE0 ≤ a.toNat ∧ a.toNat ≤ 0xEF := by simpa [UInt8.le_iff_toNat_le] using ha
    exact encode_of_cons (encodeChar_three ha' hb hc) ih h
  | case14 a _ _ _ ha b hb c hc d r hd ih =>
    have ha' : 0xF0 ≤ a.toNat ∧ a.toNat ≤ 0xF4 := by simpa [UInt8.le_iff_toNat_le] using ha
    exact encode_of_cons (encodeChar_four ha' hb hc hd) ih h
  | _ =>
    obtain ⟨x, _, _, hx, _⟩ := List.map_eq_cons_iff.mp h.symm
    cases hx

/-- Bytes are decoded as a text just if they are what the text is encoded as. -/
theorem decode?_eq_some_iff : decode? bytes = some cs ↔ bytes = encode cs := by
  rw [decode?, mapM_eq_some_iff, List.map_id]
  constructor
  · exact fun h => (encode_of_pieces h).symm
  · rintro rfl
    exact pieces_encode cs

/-! ## The encoding of the library -/

theorem encodeChar_eq (x : Char) : encodeChar x = String.utf8EncodeChar x := by
  have hv : x.toNat < 0xD800 ∨ 0xDFFF < x.toNat ∧ x.toNat < 0x110000 := x.valid
  unfold encodeChar String.utf8EncodeChar
  rw [show x.val.toNat = x.toNat from rfl]
  dsimp only
  split_ifs <;> try omega
  · rfl
  · simp only [List.cons.injEq, and_true]
    exact ⟨congrArg UInt8.ofNat (by omega), congrArg UInt8.ofNat (by omega)⟩
  · simp only [List.cons.injEq, and_true]
    exact ⟨congrArg UInt8.ofNat (by omega), congrArg UInt8.ofNat (by omega),
      congrArg UInt8.ofNat (by omega)⟩
  · simp only [List.cons.injEq, and_true]
    exact ⟨congrArg UInt8.ofNat (by omega), congrArg UInt8.ofNat (by omega),
      congrArg UInt8.ofNat (by omega), congrArg UInt8.ofNat (by omega)⟩

theorem encode_toList (s : String) : encode s.toList = s.toByteArray.data.toList := by
  rw [← String.utf8Encode_toList, List.utf8Encode, List.toList_data_toByteArray, encode,
    funext encodeChar_eq]

theorem decode?_eq_none_iff :
    decode? bytes = none ↔ ∀ s : String, bytes ≠ s.toUTF8.data.toList := by
  simp only [Option.eq_none_iff_forall_ne_some, ne_eq, decode?_eq_some_iff,
    String.toUTF8_eq_toByteArray, ← encode_toList]
  exact ⟨fun h s => h s.toList, fun h cs => by simpa using h (String.ofList cs)⟩

end Utf8

end Gazetteer.Text

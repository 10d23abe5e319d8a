import Gazetteer.Proofs.Text.Lines
import Gazetteer.Proofs.Text.Utf8
import Gazetteer.Syntax.Source
import Mathlib.Data.List.Basic

/-! # Cutting spans out of a source text

A position cuts a piece out of a text, line by line and counted in characters. For a span of bytes
that begins and ends between characters, its position cuts out what the bytes of the span spell.
-/

namespace Gazetteer

open Text Text.Utf8

variable {pre mid post first last : List Char} {front back lines : List (List Char)}

/-- The piece of a text that a position cuts out of its lines. -/
def Position.cut (p : Position) (text : String) : String :=
  let lines := Text.splitAt '\n' text.toList
  let first := lines.getD (p.startLine - 1) []
  let last := lines.getD (p.endLine - 1) []
  String.ofList
    (if p.startLine = p.endLine then (first.take p.endColumn).drop p.startColumn
    else
      let between := (lines.drop p.startLine).take (p.endLine - 1 - p.startLine)
      ['\n'].intercalate (first.drop p.startColumn :: (between ++ [last.take p.endColumn])))

/-- The offset lies between two characters, or at an end of the text. -/
def IsBoundary (cs : List Char) (offset : Nat) : Prop :=
  ∃ k, offset = (encode (cs.take k)).length

/-! ## Lines of bytes -/

theorem lineFeed_not_mem_encodeChar {c : Char} (h : c ≠ '\n') :
    Source.lineFeed ∉ encodeChar c := by
  intro hm
  have hb : Source.lineFeed.toNat = 10 := rfl
  have hc : c.toNat ≠ 10 := fun he => h (Char.toNat_inj.mp he)
  rcases toNat_of_mem_encodeChar hm with he | he
  · omega
  · omega

theorem splitAt_encode (cs : List Char) :
    splitAt Source.lineFeed (encode cs) = (splitAt '\n' cs).map encode := by
  induction cs with
  | nil => rfl
  | cons c cs ih =>
    obtain ⟨first, back, hf⟩ := List.exists_cons_of_ne_nil (splitAt_ne_nil '\n' cs)
    rw [hf, List.map_cons] at ih
    rw [encode_cons]
    by_cases hc : c = '\n'
    · have he : encodeChar '\n' = [Source.lineFeed] := by decide
      rw [hc, he, List.singleton_append, splitAt_cons_self, splitAt_cons_self, hf, ih]
      rfl
    · have hs : splitAt Source.lineFeed (encodeChar c) = [] ++ [encodeChar c] :=
        splitAt_of_not_mem (lineFeed_not_mem_encodeChar hc)
      rw [splitAt_append hs ih, splitAt_cons_of_ne hc hf]
      rfl

/-! ## Places -/

theorem point_ofChars (post : List Char) (h : splitAt '\n' pre = front ++ [last]) :
    (Source.ofChars (pre ++ post)).point (encode pre).length =
      ⟨front.length, (encode last).length⟩ := by
  have hb : splitAt Source.lineFeed (encode pre) = front.map encode ++ [encode last] := by
    rw [splitAt_encode, h, List.map_append, List.map_singleton]
  have hc : (encode pre).count Source.lineFeed = front.length := by
    have hl := length_splitAt Source.lineFeed (encode pre)
    rw [hb, List.length_append, List.length_map, List.length_singleton] at hl
    omega
  simp [Source.point, Source.ofChars, hc, takeWhile_reverse_of_splitAt hb]

theorem characterColumn_ofChars (post : List Char) (h : splitAt '\n' pre = front ++ [last]) :
    (Source.ofChars (pre ++ post)).characterColumn front.length (encode last).length =
      last.length := by
  obtain ⟨first, back, hp⟩ := List.exists_cons_of_ne_nil (splitAt_ne_nil '\n' post)
  have hl : (Source.ofChars (pre ++ post)).lines.getD front.length [] = encode (last ++ first) := by
    rw [Source.lines, Source.ofChars, splitAt_encode, splitAt_append h hp]
    simp
  rw [Source.characterColumn, hl, encode_append, List.take_left, decodeLossy_encode]

/-! ## Spans -/

theorem exists_split {cs : List Char} {start stop : Nat} (hs : IsBoundary cs start)
    (ht : IsBoundary cs stop) (h : start ≤ stop) :
    ∃ pre mid post, cs = pre ++ (mid ++ post) ∧ start = (encode pre).length ∧
      stop = (encode (pre ++ mid)).length := by
  obtain ⟨j, rfl⟩ := hs
  obtain ⟨k, rfl⟩ := ht
  rcases Nat.le_total j k with hjk | hkj
  · refine ⟨cs.take j, (cs.drop j).take (k - j), cs.drop k, ?_, rfl, ?_⟩
    · rw [← List.append_assoc, ← List.take_add, Nat.add_sub_cancel' hjk, List.take_append_drop]
    · rw [← List.take_add, Nat.add_sub_cancel' hjk]
  · -- An end that comes no later in characters comes no later in bytes, so the span is empty.
    refine ⟨cs.take j, [], cs.drop j, ?_, rfl, ?_⟩
    · rw [List.nil_append, List.take_append_drop]
    · have hp : cs.take j = cs.take k ++ (cs.drop k).take (j - k) := by
        rw [← List.take_add, Nat.add_sub_cancel' hkj]
      rw [hp, encode_append, List.length_append] at h
      rw [List.append_nil, hp, encode_append, List.length_append]
      omega

theorem text_ofChars :
    (Source.ofChars (pre ++ (mid ++ post))).text (encode pre).length
      (encode (pre ++ mid)).length = String.ofList mid := by
  simp [Source.text, Source.slice, Source.ofChars]

theorem inCharacters_position (hs : splitAt '\n' pre = front ++ [first])
    (ht : splitAt '\n' (pre ++ mid) = back ++ [last]) :
    let src := Source.ofChars (pre ++ (mid ++ post))
    src.inCharacters (src.position (encode pre).length (encode (pre ++ mid)).length) =
      ⟨front.length + 1, first.length, back.length + 1, last.length⟩ := by
  have hp := point_ofChars (mid ++ post) hs
  have hq := point_ofChars post ht
  have hc := characterColumn_ofChars (mid ++ post) hs
  have hd := characterColumn_ofChars post ht
  rw [List.append_assoc] at hq hd
  simp only [Source.inCharacters, Source.position, hp, hq, Nat.add_sub_cancel, hc, hd]

theorem cut_span (hs : splitAt '\n' pre = front ++ [first])
    (ht : splitAt '\n' (pre ++ mid) = back ++ [last]) :
    Position.cut ⟨front.length + 1, first.length, back.length + 1, last.length⟩
      (String.ofList (pre ++ (mid ++ post))) = String.ofList mid := by
  obtain ⟨head, rest, hm⟩ := List.exists_cons_of_ne_nil (splitAt_ne_nil '\n' mid)
  obtain ⟨next, after, hp⟩ := List.exists_cons_of_ne_nil (splitAt_ne_nil '\n' post)
  have hj := intercalate_splitAt '\n' mid
  have hl : splitAt '\n' (pre ++ (mid ++ post)) = back ++ (last ++ next) :: after := by
    rw [← List.append_assoc, splitAt_append ht hp]
  have hend : (back ++ (last ++ next) :: after).getD back.length [] = last ++ next := by simp
  have he := splitAt_append hs hm
  rw [ht] at he
  unfold Position.cut
  simp only [String.toList_ofList, Nat.add_sub_cancel, hl, hend, List.take_left]
  obtain rfl | ⟨between, tail, rfl⟩ := List.eq_nil_or_concat' rest
  · -- The span stays on one line.
    obtain ⟨rfl, hlast⟩ := List.append_inj' he rfl
    obtain rfl : last = first ++ head := by simpa using hlast
    obtain rfl : head = mid := by simpa [hm] using hj
    rw [if_pos rfl, hend, List.take_left, List.drop_left]
  · -- The span ends on a later line than it begins.
    obtain ⟨rfl, hlast⟩ : back = front ++ (first ++ head) :: between ∧ [last] = [tail] :=
      List.append_inj' (by simpa using he) rfl
    obtain rfl : last = tail := by simpa using hlast
    have hstart : (front ++ (first ++ head) :: between ++ (last ++ next) :: after).getD
        front.length [] = first ++ head := by simp
    have hcount : (front ++ (first ++ head) :: between).length - (front.length + 1) =
        between.length := by
      simp
      omega
    have hbetween : ((front ++ (first ++ head) :: between ++ (last ++ next) :: after).drop
        (front.length + 1)).take between.length = between := by
      simp
    rw [if_neg (by simp), hstart, List.drop_left, hcount, hbetween, ← hm, hj]

/-- The position of a span between characters cuts out the text of the span. -/
theorem cut_inCharacters_position {text : String} {start stop : Nat}
    (hs : IsBoundary text.toList start) (ht : IsBoundary text.toList stop) (h : start ≤ stop) :
    let src := Source.ofString text
    (src.inCharacters (src.position start stop)).cut text = src.text start stop := by
  obtain ⟨pre, mid, post, hcs, rfl, rfl⟩ := exists_split hs ht h
  obtain ⟨front, first, hf⟩ := (List.eq_nil_or_concat' (splitAt '\n' pre)).resolve_left
    (splitAt_ne_nil '\n' pre)
  obtain ⟨back, last, hb⟩ := (List.eq_nil_or_concat' (splitAt '\n' (pre ++ mid))).resolve_left
    (splitAt_ne_nil '\n' (pre ++ mid))
  have hx : text = String.ofList (pre ++ (mid ++ post)) := by rw [← hcs, String.ofList_toList]
  dsimp only
  rw [Source.ofString, hcs, inCharacters_position hf hb, text_ofChars, hx, cut_span hf hb]

end Gazetteer

import Gazetteer.Proofs.Text.Replace
import Gazetteer.Proofs.Text.Utf8
import Gazetteer.Text.Encoding

/-! # Which encoding reads a file

UTF-8 reads what some text is encoded as. Of the other byte sequences the Windows code page reads
those without the five bytes that it leaves without a character, and the last encoding the rest.
-/

namespace Gazetteer.Text

variable {bytes : List UInt8} {cs : List Char}

namespace CodePage

def undefinedBytes : List UInt8 := [0x81, 0x8D, 0x8F, 0x90, 0x9D]

theorem windowsChar?_eq_none_iff (b : UInt8) : windowsChar? b = none ↔ b ∈ undefinedBytes := by
  have h : ∀ n < 256, (windowsChar? (UInt8.ofNat n)).isNone =
      undefinedBytes.contains (UInt8.ofNat n) := by decide +kernel
  have hb := h b.toNat b.toNat_lt
  rw [UInt8.ofNat_toNat] at hb
  rw [← Option.isNone_iff_eq_none, hb, List.contains_iff_mem]

theorem windows1252?_eq_none_iff : windows1252? bytes = none ↔ ∃ b ∈ bytes, b ∈ undefinedBytes := by
  simp only [windows1252?, ← windowsChar?_eq_none_iff]
  induction bytes with
  | nil => simp
  | cons b bytes ih =>
    simp only [List.mem_cons, exists_eq_or_imp, ← ih, List.mapM_cons]
    cases windowsChar? b <;> cases bytes.mapM windowsChar? <;> simp

theorem length_of_windows1252? (h : windows1252? bytes = some cs) : cs.length = bytes.length := by
  simpa using congrArg List.length (mapM_eq_some_iff.mp h).symm

theorem length_latin1 (bytes : List UInt8) : (latin1 bytes).length = bytes.length :=
  List.length_map _

end CodePage

theorem decode?_toUTF8 (s : String) : decode? s.toUTF8.data.toList = some s.toList := by
  have h : Utf8.decode? (Utf8.encode s.toList) = some s.toList := Utf8.decode?_eq_some_iff.mpr rfl
  rw [String.toUTF8_eq_toByteArray, ← Utf8.encode_toList]
  simp [decode?, Encoding.inTurn, Encoding.decode?, h]

theorem decode?_of_not_utf8 (h : Utf8.decode? bytes = none) :
    decode? bytes = some ((CodePage.windows1252? bytes).getD (CodePage.latin1 bytes)) := by
  cases hw : CodePage.windows1252? bytes <;>
    simp [decode?, Encoding.inTurn, Encoding.decode?, h, hw]

theorem toList_ofBytes (h : decode? bytes = some cs) :
    (ofBytes bytes).toList = unifyNewlines cs := by
  simp [ofBytes, h]

end Gazetteer.Text

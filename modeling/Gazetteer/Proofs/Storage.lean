import Gazetteer.Disk
import Gazetteer.Proofs.Text.Encoding

/-! # Sizes and texts of files

The size of a file is exact unless the file is huge. A file that can be read has a text whatever is
in it, and the text has no carriage return. Files in UTF-8 have the text that they encode; in all
others a byte is a character.
-/

namespace Gazetteer

theorem Storage.roundToDouble_of_lt {n : Nat} (h : n.log2 < 53) : roundToDouble n = n := by
  have hs : n.log2 + 1 - 53 = 0 := by omega
  simp [roundToDouble, hs, Nat.mod_one]

theorem Storage.kilobytes_of_lt {bytes : Nat} (h : bytes.log2 < 53) :
    kilobytes bytes = (bytes + 1023) / 1024 := by
  rw [kilobytes, roundToDouble_of_lt h]

open Text Text.CodePage

theorem Storage.text_of_find {s : Storage} {path : String} {l : Location} {bytes : List UInt8}
    (ht : s.trouble .read path = none) (hf : s.find path = .ok ⟨l, .file bytes⟩) :
    s.text path = .ok (ofBytes bytes) := by
  unfold Storage.text
  rw [ht, hf]

/-- The text of a file is that of its bytes in the first encoding that can read them, up to line
ends: in UTF-8 if they are what some text is encoded as, else in the Windows code page if each of
them has a character there, else in Latin 1. No file is without a text. -/
theorem text_of_file {s : Storage} {path : String} {l : Location} {bytes : List UInt8}
    (ht : s.trouble .read path = none) (hf : s.find path = .ok ⟨l, .file bytes⟩) :
    ∃ cs t, decode? bytes = some cs ∧ s.text path = .ok t ∧
      t.toList = unifyNewlines cs ∧ '\r' ∉ t.toList ∧
      (∀ u : String, bytes = u.toUTF8.data.toList →
        t.toList = replaceAll ['\r'] ['\n'] (replaceAll ['\r', '\n'] ['\n'] u.toList) ∧
        ('\r' ∉ u.toList → t = u)) ∧
      ((∀ u : String, bytes ≠ u.toUTF8.data.toList) →
        cs.length = bytes.length ∧
        ((∀ b ∈ bytes, b ∉ undefinedBytes) → windows1252? bytes = some cs) ∧
        ((∃ b ∈ bytes, b ∈ undefinedBytes) → cs = latin1 bytes)) := by
  obtain ⟨cs, hcs⟩ := Option.isSome_iff_exists.mp (isSome_decode? bytes)
  have htext := toList_ofBytes hcs
  refine ⟨cs, ofBytes bytes, hcs, s.text_of_find ht hf, htext,
    htext ▸ return_not_mem_unifyNewlines cs, ?_, ?_⟩
  · rintro u rfl
    obtain rfl : cs = u.toList := Option.some_inj.mp (hcs.symm.trans (decode?_toUTF8 u))
    refine ⟨htext.trans (unifyNewlines_eq_replaceAll _), fun hu => String.toList_inj.mp ?_⟩
    rw [htext, unifyNewlines_of_not_mem hu]
  · intro hu
    have hd := decode?_of_not_utf8 (Utf8.decode?_eq_none_iff.mpr hu)
    obtain rfl := Option.some_inj.mp (hcs.symm.trans hd)
    cases hw : windows1252? bytes with
    | none =>
      obtain ⟨b, hb, hu⟩ := windows1252?_eq_none_iff.mp hw
      exact ⟨length_latin1 bytes, fun h => absurd hu (h b hb), fun _ => rfl⟩
    | some ds =>
      refine ⟨length_of_windows1252? hw, fun _ => rfl, fun h => ?_⟩
      rw [windows1252?_eq_none_iff.mpr h] at hw
      cases hw

/-- A byte without a character in the Windows code page, and two line ends. -/
def oddFile : Disk where
  entries := [(["a.py"], .file [0x93, 0x0D, 0x0A, 0x81, 0x0D])]
  locations_nodup := by decide
  isName_of_mem := by decide

theorem text_of_file_oddFile :
    let s := oddFile.storage []
    s.trouble .read "/a.py" = none ∧
    s.find "/a.py" = .ok ⟨["a.py"], .file [0x93, 0x0D, 0x0A, 0x81, 0x0D]⟩ ∧
    s.text "/a.py" = .ok "\u0093\n\u0081\n" := by
  have ht : (oddFile.storage []).trouble .read "/a.py" = none := by decide
  have hf : (oddFile.storage []).find "/a.py" =
      .ok ⟨["a.py"], .file [0x93, 0x0D, 0x0A, 0x81, 0x0D]⟩ := rfl
  obtain ⟨cs, t, -, hread, htext, -, -, hother⟩ := text_of_file ht hf
  obtain ⟨-, -, hlatin⟩ := hother (Utf8.decode?_eq_none_iff.mp (by decide))
  obtain rfl := hlatin ⟨0x81, by decide, by decide⟩
  refine ⟨ht, hf, hread.trans (congrArg Except.ok (String.toList_inj.mp ?_))⟩
  rw [htext]
  decide

end Gazetteer

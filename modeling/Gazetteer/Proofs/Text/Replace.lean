import Gazetteer.Text.Lines
import Gazetteer.Text.Replace

/-! # What is replaced

A text is replaced character by character up to the first occurrence, and from behind it on. Line
ends are unified by two replacements, first of the line ends that take two characters.
-/

namespace Gazetteer.Text

variable {old new r : List Char} {c : Char}

@[simp] theorem replaceAll_nil : replaceAll old new [] = [] := rfl

theorem replaceAll_cons (h : ¬old <+: c :: r) :
    replaceAll old new (c :: r) = c :: replaceAll old new r := by
  rw [replaceAll, replaceFrom, if_neg (by simpa using h), replaceAll]

theorem replaceFrom_length_append (old new s r : List Char) :
    replaceFrom old new s.length (s ++ r) = replaceAll old new r := by
  induction s with
  | nil => rfl
  | cons c s ih => exact ih

theorem replaceAll_append (h : old ≠ []) (r : List Char) :
    replaceAll old new (old ++ r) = new ++ replaceAll old new r := by
  obtain ⟨c, s, rfl⟩ := List.exists_cons_of_ne_nil h
  rw [replaceAll, List.cons_append, replaceFrom, if_pos (by simp), List.length_cons,
    Nat.add_sub_cancel, replaceFrom_length_append]

/-! ## Line ends -/

theorem unifyNewlines_eq_replaceAll (cs : List Char) :
    unifyNewlines cs = replaceAll ['\r'] ['\n'] (replaceAll ['\r', '\n'] ['\n'] cs) := by
  fun_induction unifyNewlines cs with
  | case1 => rfl
  | case2 r ih =>
    have h : replaceAll ['\r', '\n'] ['\n'] ('\r' :: '\n' :: r) =
        '\n' :: replaceAll ['\r', '\n'] ['\n'] r := replaceAll_append (by simp) r
    rw [h, replaceAll_cons (by simp), ih]
  | case3 r hr ih =>
    have hp : ¬['\r', '\n'] <+: '\r' :: r := by
      rintro ⟨t, ht⟩
      exact hr t (List.cons.inj ht).2.symm
    have h (s : List Char) : replaceAll ['\r'] ['\n'] ('\r' :: s) =
        '\n' :: replaceAll ['\r'] ['\n'] s := replaceAll_append (by simp) s
    rw [replaceAll_cons hp, h, ih]
  | case4 c r _ hc ih =>
    have hne : '\r' ≠ c := fun h => hc h.symm
    rw [replaceAll_cons (by simp [hne]), replaceAll_cons (by simp [hne]), ih]

theorem return_not_mem_unifyNewlines (cs : List Char) : '\r' ∉ unifyNewlines cs := by
  fun_induction unifyNewlines cs with
  | case1 => simp
  | case2 r ih => simpa using ih
  | case3 r _ ih => simpa using ih
  | case4 c r _ hc ih =>
    rw [List.mem_cons, not_or]
    exact ⟨fun h => hc h.symm, ih⟩

theorem unifyNewlines_of_not_mem {cs : List Char} (h : '\r' ∉ cs) : unifyNewlines cs = cs := by
  induction cs with
  | nil => rfl
  | cons c r ih =>
    rw [List.mem_cons, not_or] at h
    rw [unifyNewlines, ih h.2]
    · exact fun _ hc _ => h.1 hc.symm
    · exact fun hc => h.1 hc.symm

end Gazetteer.Text

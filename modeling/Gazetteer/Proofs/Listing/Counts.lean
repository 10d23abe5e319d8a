import Gazetteer.Listing
import Gazetteer.Proofs.Outline.Reading
import Mathlib.Data.List.Infix

/-! # Lines of counts

The numbers that a line of counts prints are read off it. No other line of a survey reads as a line
of counts: lines of entries end otherwise, and lines of symbols begin otherwise.
-/

namespace Gazetteer

structure Counts where
  functions : Nat
  bindings : Nat
  classes : Nat
  deriving DecidableEq

def SymbolTable.counts (t : SymbolTable) : Counts :=
  ⟨t.discovered, t.bindings.length, t.classes.length⟩

namespace Listing

open Outline

/-! ## Reading counts -/

/-- The number that a text begins with, if a word follows it, and the rest after the word. -/
def readNumber (word cs : List Char) : Option (Nat × List Char) :=
  if (cs.takeWhile Char.isDigit).isEmpty then none
  else ((cs.dropWhile Char.isDigit).dropPrefix? word).map
    (Nat.ofDigitChars 10 (cs.takeWhile Char.isDigit) 0, ·)

def readCounts (cs : List Char) : Option Counts := do
  let cs ← (unindent cs).2.dropPrefix? "└── [Analyzed: ".toList
  let (functions, cs) ← readNumber " functions, ".toList cs
  let (bindings, cs) ← readNumber " variables, ".toList cs
  let (classes, cs) ← readNumber " classes]\n".toList cs
  if cs.isEmpty then some ⟨functions, bindings, classes⟩ else none

theorem dropPrefix?_append (word r : List Char) : (word ++ r).dropPrefix? word = some r :=
  List.dropPrefix?_append_of_beq r BEq.rfl

theorem readNumber_digits (n : Nat) {word : List Char} (hw : ∀ c ∈ word.head?, c.isDigit = false)
    (hne : word ≠ []) (r : List Char) :
    readNumber word (Nat.toDigits 10 n ++ (word ++ r)) = some (n, r) := by
  obtain ⟨c, cs, rfl⟩ := List.exists_cons_of_ne_nil hne
  have hc : c.isDigit = false := hw c rfl
  have hd : ∀ d ∈ Nat.toDigits 10 n, d.isDigit = true := fun d => isDigit_of_mem_digits
  have ht : (Nat.toDigits 10 n ++ (c :: cs ++ r)).takeWhile Char.isDigit = Nat.toDigits 10 n := by
    simp [List.takeWhile_append_of_pos hd, hc]
  have hr : (Nat.toDigits 10 n ++ (c :: cs ++ r)).dropWhile Char.isDigit = c :: cs ++ r := by
    simp [List.dropWhile_append_of_pos hd, hc]
  have he : (Nat.toDigits 10 n).isEmpty = false := by simp [Nat.toDigits_ne_nil]
  rw [readNumber, ht, hr, he, Nat.ofDigitChars_ten_toDigits, dropPrefix?_append]
  rfl

variable {n : Nat} {indent : String}

theorem toList_countsLine (t : SymbolTable) (indent : String) :
    (countsLine t indent).toList = indent.toList ++ ("└── [Analyzed: ".toList ++
      (Nat.toDigits 10 t.discovered ++ (" functions, ".toList ++
        (Nat.toDigits 10 t.bindings.length ++ (" variables, ".toList ++
          (Nat.toDigits 10 t.classes.length ++ (" classes]\n".toList ++ []))))))) := by
  have ht : countsLine t indent = indent ++ ("└── [Analyzed: " ++ toString t.discovered ++
      " functions, " ++ toString t.bindings.length ++ " variables, ") ++
      (toString t.classes.length ++ " classes]\n") := rfl
  simp [ht]

theorem readCounts_countsLine (h : Indents n indent) (t : SymbolTable) :
    readCounts (countsLine t indent).toList = some t.counts := by
  have hs : ∀ r, unindent ("└── [Analyzed: ".toList ++ r) = (0, "└── [Analyzed: ".toList ++ r) :=
    fun r => unindent_cons (by decide) (by decide) _
  rw [readCounts, toList_countsLine, h.unindent_append, hs, dropPrefix?_append]
  simp only [Option.bind_eq_bind, Option.bind_some]
  rw [readNumber_digits _ (by simp) (by decide), Option.bind_some,
    readNumber_digits _ (by simp) (by decide), Option.bind_some,
    readNumber_digits _ (by simp) (by decide), Option.bind_some]
  rfl

/-! ## Other lines -/

variable {cs word r : List Char} {counts : Counts}

theorem suffix_of_dropPrefix? (h : cs.dropPrefix? word = some r) : word ++ r <:+ cs := by
  obtain ⟨p, rfl, hp⟩ := List.dropPrefix?_eq_some_iff.mp h
  rw [eq_of_beq hp]

theorem suffix_of_readNumber (h : readNumber word cs = some (n, r)) : word ++ r <:+ cs := by
  unfold readNumber at h
  split at h
  · cases h
  · obtain ⟨r', hr, he⟩ := Option.map_eq_some_iff.mp h
    obtain ⟨-, rfl⟩ := Prod.mk.inj he
    exact (suffix_of_dropPrefix? hr).trans (List.dropWhile_suffix _)

theorem ends_of_readCounts (h : readCounts cs = some counts) :
    "└── [Analyzed: ".toList <+: (unindent cs).2 ∧ " classes]\n".toList <:+ cs := by
  simp only [readCounts, Option.bind_eq_bind, Option.bind_eq_some_iff] at h
  obtain ⟨c₁, h₁, ⟨f, c₂⟩, h₂, ⟨b, c₃⟩, h₃, ⟨c, c₄⟩, h₄, h⟩ := h
  split at h
  · next he =>
    obtain rfl : c₄ = [] := List.isEmpty_iff.mp he
    constructor
    · obtain ⟨p, hp, hb⟩ := List.dropPrefix?_eq_some_iff.mp h₁
      exact ⟨c₁, by rw [hp, eq_of_beq hb]⟩
    · have tail : ∀ {word r : List Char}, r <:+ word ++ r := fun {word r} =>
        List.suffix_append word r
      calc " classes]\n".toList = " classes]\n".toList ++ [] := (List.append_nil _).symm
        _ <:+ c₃ := suffix_of_readNumber h₄
        _ <:+ c₂ := tail.trans (suffix_of_readNumber h₃)
        _ <:+ c₁ := tail.trans (suffix_of_readNumber h₂)
        _ <:+ (unindent cs).2 := tail.trans (suffix_of_dropPrefix? h₁)
        _ <:+ cs := unindent_suffix cs
  · cases h

theorem readCounts_eq_none_of_suffix (h : word <:+ cs) (hl : word.length ≤ 10)
    (hw : ¬ word <:+ " classes]\n".toList) : readCounts cs = none := by
  rw [Option.eq_none_iff_forall_ne_some]
  intro counts hc
  exact hw (List.suffix_of_suffix_length_le h (ends_of_readCounts hc).2 (hl.trans (by decide)))

theorem readCounts_eq_none_of_head (h : (unindent cs).2.head? ≠ some '└') :
    readCounts cs = none := by
  rw [Option.eq_none_iff_forall_ne_some]
  intro counts hc
  obtain ⟨r, hr⟩ := (ends_of_readCounts hc).1
  exact h (by rw [← hr]; rfl)

theorem readCounts_fileLine (indent : String) (last : Bool) (name : String) (size : Nat) :
    readCounts (fileLine indent last name size).text.toList = none := by
  have he : [')', '\n'] <:+ (fileLine indent last name size).text.toList := by
    rw [toList_fileLine, labelLine, Label.text]
    exact ⟨(indent ++ stem last ++ name ++ " (" ++ toString size ++ " KB").toList, by simp⟩
  exact readCounts_eq_none_of_suffix he (by decide) (by decide)

theorem readCounts_folderLine (indent : String) (last : Bool) (name : String) :
    readCounts (folderLine indent last name).text.toList = none := by
  have he : ['/', '\n'] <:+ (folderLine indent last name).text.toList := by
    rw [toList_folderLine, labelLine, Label.text]
    exact ⟨(indent ++ stem last ++ name).toList, by simp⟩
  exact readCounts_eq_none_of_suffix he (by decide) (by decide)

theorem readCounts_faultLine (h : Indents n indent) (f : Fault) :
    readCounts (faultLine indent f).text.toList = none := by
  apply readCounts_eq_none_of_head
  simp [faultLine, Line.text, h.unindent_append, unindent_cons]

theorem readCounts_missingLine (path : String) :
    readCounts (missingLine "" path).text.toList = none := by
  apply readCounts_eq_none_of_head
  simp [missingLine, Line.text, unindent_cons]

theorem begins_of_mem_entryLines {t : SymbolTable} {k : SymbolKind} {line : String}
    (h : line ∈ entryLines t k) :
    (∃ r, line.toList = '-' :: r) ∨ (∃ r, line.toList = ' ' :: ' ' :: '-' :: r) ∨
      line = "  Methods:" := by
  cases k with
  | functions =>
    obtain ⟨f, -, rfl⟩ := List.mem_map.mp h
    exact .inl (by simp [functionLine])
  | bindings =>
    obtain ⟨v, -, rfl⟩ := List.mem_map.mp h
    exact .inl (by simp [variableLine])
  | classes =>
    obtain ⟨c, -, hl⟩ := List.mem_flatMap.mp h
    rcases List.mem_cons.mp hl with rfl | hl
    · exact .inl (by simp [classLine])
    · split at hl
      · cases hl
      · rcases List.mem_cons.mp hl with rfl | hl
        · exact .inr (.inr rfl)
        · obtain ⟨m, -, rfl⟩ := List.mem_map.mp hl
          exact .inr (.inl (by simp [methodLine]))
  | imports =>
    obtain ⟨i, -, rfl⟩ := List.mem_map.mp h
    exact .inl (by simp [importLine])
  | exports =>
    obtain ⟨e, -, rfl⟩ := List.mem_map.mp h
    exact .inl (by simp [exportLine])

theorem head_unindent_of_mem_sectionLines {t : SymbolTable} {k : SymbolKind} {line : String}
    (h : line ∈ sectionLines t k) : (unindent (line.toList ++ ['\n'])).2.head? ≠ some '└' := by
  unfold sectionLines at h
  split at h
  · cases h
  · rcases List.mem_cons.mp h with rfl | h
    · cases k <;> decide
    · rcases begins_of_mem_entryLines h with ⟨r, hr⟩ | ⟨r, hr⟩ | rfl
      · rw [hr, List.cons_append, unindent_cons (by decide) (by decide)]
        simp
      · simp [hr, unindent]
      · decide

theorem readCounts_of_mem_lines {t : SymbolTable} {kinds : List SymbolKind} {line : String}
    (hi : Indents n indent) (h : line ∈ lines t kinds indent) :
    readCounts line.toList = none := by
  obtain ⟨line, hl, rfl⟩ := List.mem_map.mp h
  obtain ⟨k, -, hl⟩ := List.mem_flatMap.mp hl
  have hm : Indents (n + 1) (margin indent) := hi.next true
  apply readCounts_eq_none_of_head
  rw [String.toList_append, String.toList_append, List.append_assoc, hm.unindent_append]
  exact head_unindent_of_mem_sectionLines hl

end Listing

end Gazetteer

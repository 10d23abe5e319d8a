import Gazetteer.Proofs.Outline.Indentation
import Mathlib.Data.List.TakeWhile

/-! # Reading outlines

The text of an outline is read back. Each line tells the depth and the kind of an entry, its name
and its size; an entry holds those that follow it at greater depth. What is read is what was
written, as long as no name has a line feed.
-/

namespace Gazetteer.Outline

/-! ## Labels -/

/-- What a line says of an entry. -/
inductive Label where
  | file (name : String) (size : Nat)
  | folder (name : String)
  deriving DecidableEq

namespace Label

def name : Label → String
  | file name _ | folder name => name

def text : Label → String
  | file name size => name ++ " (" ++ toString size ++ " KB)"
  | folder name => name ++ "/"

end Label

/-- A slash at the end tells directories from files. The size is read from the end, since the name
may have brackets of its own. -/
def readLabel (cs : List Char) : Option Label :=
  match cs.reverse with
  | '/' :: r => some (.folder (String.ofList r.reverse))
  | ')' :: 'B' :: 'K' :: ' ' :: r =>
    match r.dropWhile Char.isDigit with
    | '(' :: ' ' :: name =>
      some (.file (String.ofList name.reverse)
        (Nat.ofDigitChars 10 (r.takeWhile Char.isDigit).reverse 0))
    | _ => none
  | _ => none

theorem isDigit_of_mem_digits {n : Nat} {c : Char} (h : c ∈ Nat.toDigits 10 n) :
    c.isDigit = true :=
  Nat.isDigit_of_mem_toDigits (by decide) (by decide) h

theorem readLabel_text (label : Label) : readLabel label.text.toList = some label := by
  cases label with
  | folder name => simp [Label.text, readLabel]
  | file name size =>
    have hd : ∀ c ∈ (Nat.toDigits 10 size).reverse, c.isDigit = true := fun c hc =>
      isDigit_of_mem_digits (List.mem_reverse.mp hc)
    have hr : (Label.file name size).text.toList.reverse = ')' :: 'B' :: 'K' :: ' ' ::
        ((Nat.toDigits 10 size).reverse ++ '(' :: ' ' :: name.toList.reverse) := by
      simp [Label.text]
    have hn : Char.isDigit '(' = false := by decide
    rw [readLabel, hr]
    simp [List.takeWhile_append_of_pos hd, List.dropWhile_append_of_pos hd, hn]

theorem lineFeed_not_mem_text {label : Label} (h : '\n' ∉ label.name.toList) :
    '\n' ∉ label.text.toList := by
  cases label with
  | folder name =>
    change '\n' ∉ name.toList at h
    simpa [Label.text] using h
  | file name size =>
    change '\n' ∉ name.toList at h
    have hd : '\n' ∉ Nat.toDigits 10 size := fun hm =>
      absurd (isDigit_of_mem_digits hm) (by decide)
    simpa [Label.text, hd] using h

def labelLine (indent : String) (last : Bool) (label : Label) : List Char :=
  indent.toList ++ ((stem last).toList ++ label.text.toList)

theorem toList_fileLine (indent : String) (last : Bool) (name : String) (size : Nat) :
    (fileLine indent last name size).text.toList =
      labelLine indent last (.file name size) ++ ['\n'] := by
  have ht : (fileLine indent last name size).text =
      indent ++ stem last ++ name ++ (" (" ++ toString size ++ " KB)\n") := rfl
  simp [ht, labelLine, Label.text]

theorem toList_folderLine (indent : String) (last : Bool) (name : String) :
    (folderLine indent last name).text.toList =
      labelLine indent last (.folder name) ++ ['\n'] := by
  simp [folderLine, Line.text, labelLine, Label.text]

/-! ## Entries -/

def readEntry (cs : List Char) : Option (Nat × Label) :=
  match unindent cs with
  | (n, '├' :: '─' :: '─' :: ' ' :: r) => (readLabel r).map (n, ·)
  | (n, '└' :: '─' :: '─' :: ' ' :: r) => (readLabel r).map (n, ·)
  | _ => none

def readEntries (cs : List Char) : List (Nat × Label) :=
  (Text.splitAt '\n' cs).filterMap readEntry

variable {n : Nat} {indent : String}

theorem readEntry_labelLine (h : Indents n indent) (last : Bool) (label : Label) :
    readEntry (labelLine indent last label) = some (n, label) := by
  rw [readEntry, labelLine, h.unindent_append, unindent_stem]
  cases last <;> simp [stem, readLabel_text]

theorem readEntries_labelLine (h : Indents n indent) (last : Bool) (label : Label)
    (hl : '\n' ∉ label.name.toList) (r : List Char) :
    readEntries (labelLine indent last label ++ '\n' :: r) = (n, label) :: readEntries r := by
  have hn : '\n' ∉ labelLine indent last label := by
    have hs : '\n' ∉ (stem last).toList := by cases last <;> decide
    simp [labelLine, h.lineFeed_not_mem, hs, lineFeed_not_mem_text hl]
  rw [readEntries, Text.splitAt_piece hn, List.filterMap_cons, readEntry_labelLine h]
  rfl

/-! ## Forests -/

inductive Shape where
  | file (name : String) (size : Nat)
  | folder (name : String) (inside : List Shape)

/-- Put an entry in front of those that follow it. A directory takes in those at greater depth. -/
def grow : Nat × Label → List (Nat × Shape) → List (Nat × Shape)
  | (n, .file name size), later => (n, .file name size) :: later
  | (n, .folder name), later =>
    (n, .folder name ((later.takeWhile (n < ·.1)).map (·.2))) :: later.dropWhile (n < ·.1)

/-- The entries that a text tells about. -/
def readForest (text : String) : List Shape :=
  ((readEntries text.toList).foldr grow []).map (·.2)

section Writing

variable {α : Type}

mutual

/-- What there is to see of an entry: a directory that is not entered looks like an empty one. -/
def shapesOf : Branch α → List Shape
  | .file name size _ => [.file name size]
  | .folder name inside => [.folder name (shapesOfAll inside)]
  | .loop name => [.folder name []]
  | .fault _ => []

def shapesOfAll : List (Branch α) → List Shape
  | [] => []
  | b :: bs => shapesOf b ++ shapesOfAll bs

end

mutual

def labelsOf (n : Nat) : Branch α → List (Nat × Label)
  | .file name size _ => [(n, .file name size)]
  | .folder name inside => (n, .folder name) :: labelsOfAll (n + 1) inside
  | .loop name => [(n, .folder name)]
  | .fault _ => []

def labelsOfAll (n : Nat) : List (Branch α) → List (Nat × Label)
  | [] => []
  | b :: bs => labelsOf n b ++ labelsOfAll n bs

end

/-- The entries that come later begin no deeper than at a given depth. -/
def Rises (n : Nat) (later : List (Nat × Shape)) : Prop := ∀ p ∈ later.head?, p.1 ≤ n

theorem Rises.mono {n m : Nat} {later : List (Nat × Shape)} (h : Rises n later) (hm : n ≤ m) :
    Rises m later :=
  fun p hp => (h p hp).trans hm

theorem rises_append (n : Nat) (shapes : List Shape) {later : List (Nat × Shape)}
    (h : Rises n later) : Rises n (shapes.map (n, ·) ++ later) := by
  cases shapes with
  | nil => exact h
  | cons shape shapes =>
    intro p hp
    obtain rfl : (n, shape) = p := by simpa using hp
    exact le_rfl

/-- A directory takes in what is one level below it and nothing that comes after. -/
theorem grow_folder {n : Nat} {later : List (Nat × Shape)} (h : Rises n later) (name : String)
    (inside : List Shape) :
    grow (n, .folder name) (inside.map (n + 1, ·) ++ later) =
      (n, .folder name inside) :: later := by
  have hin : ∀ p ∈ inside.map (n + 1, ·), decide (n < p.1) = true := by simp
  have htake : later.takeWhile (fun p => decide (n < p.1)) = [] := by
    cases later with
    | nil => rfl
    | cons p later => simpa using h p rfl
  have hdrop : later.dropWhile (fun p => decide (n < p.1)) = later := by
    cases later with
    | nil => rfl
    | cons p later => simpa using h p rfl
  rw [grow, List.takeWhile_append_of_pos hin, List.dropWhile_append_of_pos hin, htake, hdrop]
  simp [Function.comp_def]

mutual

theorem foldr_grow_labelsOf (n : Nat) (b : Branch α) {later : List (Nat × Shape)}
    (h : Rises n later) :
    (labelsOf n b).foldr grow later = (shapesOf b).map (n, ·) ++ later := by
  cases b with
  | file name size note => rfl
  | folder name inside =>
    rw [labelsOf, List.foldr_cons, foldr_grow_labelsOfAll (n + 1) inside (h.mono n.le_succ),
      grow_folder h]
    rfl
  | loop name => exact grow_folder h name []
  | fault f => rfl

/-- Entries grow from their labels, in front of those that come later. -/
theorem foldr_grow_labelsOfAll (n : Nat) (bs : List (Branch α)) {later : List (Nat × Shape)}
    (h : Rises n later) :
    (labelsOfAll n bs).foldr grow later = (shapesOfAll bs).map (n, ·) ++ later := by
  cases bs with
  | nil => rfl
  | cons b bs =>
    rw [labelsOfAll, List.foldr_append, foldr_grow_labelsOfAll n bs h,
      foldr_grow_labelsOf n b (rises_append n _ h), shapesOfAll, List.map_append, List.append_assoc]

end

/-! ## Reading back -/

/-- A branch that can be read back: every name stands on one line, and nothing is left out because
of a fault. -/
inductive Legible : Branch α → Prop where

  | file {name : String} {size : Nat} {note : α} (h : '\n' ∉ name.toList) :
      Legible (.file name size note)

  | folder {name : String} {inside : List (Branch α)} (h : '\n' ∉ name.toList)
      (hb : ∀ b ∈ inside, Legible b) : Legible (.folder name inside)

  | loop {name : String} (h : '\n' ∉ name.toList) : Legible (.loop name)

def chars (lines : List Line) : List Char := lines.flatMap fun line => line.text.toList

theorem toList_text (lines : List Line) : (text lines).toList = chars lines := by
  simp [text, chars, String.toList_join, List.flatMap_map]

def silent (_ : String) (_ : α) : List String := []

mutual

theorem readEntries_linesOf {n : Nat} {indent : String} (hi : Indents n indent) (last : Bool)
    {b : Branch α} (hb : Legible b) (r : List Char) :
    readEntries (chars (linesOf silent indent last b) ++ r) = labelsOf n b ++ readEntries r := by
  cases hb with
  | @file name size note h =>
    have hl : chars (linesOf silent indent last (.file name size note)) =
        labelLine indent last (.file name size) ++ ['\n'] := by
      simp [chars, linesOf, silent, toList_fileLine]
    rw [hl, List.append_assoc]
    exact readEntries_labelLine hi last (.file name size) h r
  | @folder name inside h hb =>
    have hl : chars (linesOf silent indent last (.folder name inside)) =
        labelLine indent last (.folder name) ++
          '\n' :: chars (linesOfAll silent (below indent last) inside) := by
      simp [chars, linesOf, toList_folderLine]
    rw [hl, List.append_assoc, List.cons_append, readEntries_labelLine hi last (.folder name) h,
      readEntries_linesOfAll (hi.next last) hb]
    rfl
  | @loop name h =>
    have hl : chars (linesOf silent indent last (.loop name : Branch α)) =
        labelLine indent last (.folder name) ++ ['\n'] := by
      simp [chars, linesOf, toList_folderLine]
    rw [hl, List.append_assoc]
    exact readEntries_labelLine hi last (.folder name) h r

/-- The labels are read off the lines, and what comes after them is read as it would be alone. -/
theorem readEntries_linesOfAll {n : Nat} {indent : String} (hi : Indents n indent)
    {bs : List (Branch α)} (hb : ∀ b ∈ bs, Legible b) (r : List Char) :
    readEntries (chars (linesOfAll silent indent bs) ++ r) =
      labelsOfAll n bs ++ readEntries r := by
  cases bs with
  | nil => rfl
  | cons b bs =>
    obtain ⟨hb, hbs⟩ := List.forall_mem_cons.mp hb
    have hc : chars (linesOfAll silent indent (b :: bs)) =
        chars (linesOf silent indent bs.isEmpty b) ++ chars (linesOfAll silent indent bs) :=
      List.flatMap_append ..
    rw [hc, List.append_assoc, readEntries_linesOf hi _ hb, readEntries_linesOfAll hi hbs,
      labelsOfAll, List.append_assoc]

end

theorem readForest_text {bs : List (Branch α)} (hb : ∀ b ∈ bs, Legible b) :
    readForest (text (linesOfAll silent "" bs)) = shapesOfAll bs := by
  have he := readEntries_linesOfAll .top hb []
  have hn : readEntries [] = [] := rfl
  have hr : Rises 0 [] := by simp [Rises]
  rw [List.append_nil, hn, List.append_nil] at he
  rw [readForest, toList_text, he, foldr_grow_labelsOfAll 0 bs hr]
  simp [Function.comp_def]

example : readForest "├── a/\n│   └── └── b (1 KB) (3 KB)\n└── c/\n" =
    [.folder "a" [.file "└── b (1 KB)" 3], .folder "c" []] := by
  rfl

end Writing

end Gazetteer.Outline

import Gazetteer.Proofs.Regex.Matches
import Gazetteer.Regex.Notation

/-! # Reading expressions

The notation of any expression can be read, and what is read from it matches what the expression
matches.
-/

namespace Gazetteer.Regex

/-! ## Pieces -/

def flat : Regex → List Regex
  | empty => []
  | cat a b => a.flat ++ b.flat
  | alt a b => [.alt (seq a.flat) (seq b.flat)]
  | r => [r]

/-- The expression as a sequence of pieces. -/
def normal (r : Regex) : Regex := seq r.flat

theorem spans_normal_iff (r : Regex) {p : Bool} {m z : List Char} :
    r.normal.Spans p m z ↔ r.Spans p m z := by
  unfold normal
  induction r generalizing p m z with
  | empty => exact .rfl
  | char c => exact spans_cat_empty
  | one cls => exact spans_cat_empty
  | run cls => exact spans_cat_empty
  | start => exact spans_cat_empty
  | finish => exact spans_cat_empty
  | cat a b iha ihb =>
    rw [flat, spans_seq_append]
    exact spans_cat_congr (fun _ _ _ => iha) fun _ _ _ => ihb
  | alt a b iha ihb =>
    calc (seq [.alt (seq a.flat) (seq b.flat)]).Spans p m z
      _ ↔ Spans (.alt (seq a.flat) (seq b.flat)) p m z := spans_cat_empty
      _ ↔ Spans (.alt a b) p m z := by rw [spans_alt_iff, spans_alt_iff, iha, ihb]

theorem search_normal (r : Regex) (s : String) : r.normal.search s = r.search s := by
  rw [Bool.eq_iff_iff]
  simp only [search_iff, MatchesAt, spans_normal_iff]

theorem matchStart_normal (r : Regex) (s : String) : r.normal.matchStart s = r.matchStart s := by
  rw [Bool.eq_iff_iff]
  simp only [matchStart_iff, MatchesAt, spans_normal_iff]

/-! ## Reading what is printed -/

theorem print_seq (rs : List Regex) :
    (seq rs).print.toList = rs.flatMap fun r => r.print.toList := by
  induction rs with
  | nil => rfl
  | cons r rs ih =>
    rw [seq_cons, print, String.toList_append, ih, List.flatMap_cons]

theorem print_cat (a b : Regex) : (cat a b).print.toList = a.print.toList ++ b.print.toList :=
  String.toList_append

theorem print_alt (a b : Regex) : (alt a b).print.toList =
    '(' :: (a.print.toList ++ '|' :: (b.print.toList ++ [')'])) := by
  simp [print]

theorem head_print (r : Regex) {cs : List Char} (h : cs.head? ≠ some '*') :
    (r.print.toList ++ cs).head? ≠ some '*' := by
  induction r generalizing cs with
  | empty => simpa [print] using h
  | char c =>
    by_cases hc : c ∈ specialChars
    · simp [print, printChar, hc]
    · have hs : c ≠ '*' := fun he => hc (he ▸ by decide)
      simpa [print, printChar, hc] using hs
  | one cls => cases cls <;> simp [print, CharClass.print]
  | run cls => cases cls <;> simp [print, CharClass.print]
  | start => simp [print]
  | finish => simp [print]
  | cat a b iha ihb =>
    rw [print_cat, List.append_assoc]
    exact iha (ihb h)
  | alt a b => simp [print_alt]

def Group.addAll (g : Group) (rs : List Regex) : Group :=
  { g with pieces := rs.reverse ++ g.pieces }

variable {outer : List Group} {g : Group} {cs : List Char}

theorem metaChars_subset : metaChars ⊆ specialChars := by decide

theorem isAlphanum_of_special {c : Char} (h : c ∈ specialChars) : c.isAlphanum = false := by
  have ha : specialChars.all (fun c => !c.isAlphanum) = true := by decide
  simpa using List.all_eq_true.mp ha c h

theorem readFrom_char (c : Char) :
    readFrom outer g ((char c).print.toList ++ cs) = readFrom outer (g.add (.char c)) cs := by
  by_cases hc : c ∈ specialChars
  · have hp : (char c).print.toList ++ cs = '\\' :: c :: cs := by
      simp [print, printChar, hc]
    rw [hp, readFrom, isAlphanum_of_special hc]
    rfl
  · have hm : c ∉ metaChars := fun h => hc (metaChars_subset h)
    have hp : (char c).print.toList ++ cs = c :: cs := by
      simp [print, printChar, hc]
    rw [hp, readFrom, if_neg (by simpa using hm)]
    all_goals
      intros
      subst_vars
      exact hm (by decide)

theorem readFrom_one (cls : CharClass) (h : cs.head? ≠ some '*') :
    readFrom outer g ((one cls).print.toList ++ cs) = readFrom outer (g.add (.one cls)) cs := by
  have hcs : ∀ t, cs ≠ '*' :: t := by
    rintro t rfl
    exact h rfl
  cases cls with
  | visible =>
    rw [show (one .visible).print.toList ++ cs = '.' :: cs by simp [print, CharClass.print]]
    rw [readFrom]
    exact fun t ht => hcs t ht
  | nonSlash =>
    rw [show (one .nonSlash).print.toList ++ cs = '[' :: '^' :: '/' :: ']' :: cs by
      simp [print, CharClass.print]]
    rw [readFrom]
    exact fun t ht => hcs t ht

theorem readFrom_run (cls : CharClass) :
    readFrom outer g ((run cls).print.toList ++ cs) = readFrom outer (g.add (.run cls)) cs := by
  cases cls with
  | visible =>
    rw [show (run .visible).print.toList ++ cs = '.' :: '*' :: cs by
      simp [print, CharClass.print]]
    rw [readFrom]
  | nonSlash =>
    rw [show (run .nonSlash).print.toList ++ cs = '[' :: '^' :: '/' :: ']' :: '*' :: cs by
      simp [print, CharClass.print]]
    rw [readFrom]

theorem addAll_append (g : Group) (rs ts : List Regex) :
    (g.addAll rs).addAll ts = g.addAll (rs ++ ts) := by
  simp [Group.addAll]

/-- The notation of an expression is read piece by piece, whatever group it stands in. -/
theorem readFrom_print (r : Regex) (h : cs.head? ≠ some '*') :
    readFrom outer g (r.print.toList ++ cs) = readFrom outer (g.addAll r.flat) cs := by
  induction r generalizing outer g cs with
  | empty => rfl
  | char c => exact readFrom_char c
  | one cls => exact readFrom_one cls h
  | run cls => exact readFrom_run cls
  | start => rfl
  | finish => rfl
  | cat a b iha ihb =>
    rw [print_cat, List.append_assoc, iha (head_print b h), ihb h, addAll_append, flat]
  | alt a b iha ihb =>
    have hp : (alt a b).print.toList ++ cs =
        '(' :: (a.print.toList ++ '|' :: (b.print.toList ++ ')' :: cs)) := by
      simp [print_alt]
    rw [hp, readFrom, iha (by simp), readFrom, ihb (by simp), readFrom]
    simp [Group.opened, Group.addAll, Group.turn, Group.close, Group.add, flat]

theorem read_print (r : Regex) : read r.print = some r.normal := by
  have h : readFrom [] .opened (r.print.toList ++ []) =
      readFrom [] (Group.opened.addAll r.flat) [] :=
    readFrom_print r (by simp)
  rw [List.append_nil] at h
  rw [read, h, readFrom]
  simp [Group.close, Group.addAll, Group.opened, normal]

end Gazetteer.Regex

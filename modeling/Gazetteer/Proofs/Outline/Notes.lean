import Gazetteer.Proofs.Outline.Marks
import Gazetteer.Proofs.Outline.Reading

/-! # Notes in an outline

The notes of an outline as a function of the trails to the files. New notes leave the entries as
they are, and only the lines below a file depend on its note.
-/

namespace Gazetteer.Outline

variable {α β : Type}

mutual

/-- An entry with new notes, each made from the trail to its file. -/
def noted (f : List String → β) : Branch α → Branch β
  | .file name size _ => .file name size (f [name])
  | .folder name inside => .folder name (notedAll (fun trail => f (name :: trail)) inside)
  | .loop name => .loop name
  | .fault cause => .fault cause

def notedAll (f : List String → β) : List (Branch α) → List (Branch β)
  | [] => []
  | b :: bs => noted f b :: notedAll f bs

end

theorem notedAll_eq_map (f : List String → β) (bs : List (Branch α)) :
    notedAll f bs = bs.map (noted f) := by
  induction bs with
  | nil => rfl
  | cons b bs ih => rw [notedAll, ih, List.map_cons]

@[simp] theorem isEmpty_notedAll (f : List String → β) (bs : List (Branch α)) :
    (notedAll f bs).isEmpty = bs.isEmpty := by
  rw [notedAll_eq_map, List.isEmpty_map]

mutual

theorem noted_congr {f g : List String → β} (b : Branch α)
    (h : ∀ t, (t, false) ∈ entriesOf b → f t = g t) :
    noted f b = noted g b := by
  cases b with
  | file name size note => rw [noted, noted, h [name] List.mem_cons_self]
  | folder name inside =>
    have hi : ∀ t, (t, false) ∈ entriesOfAll inside → f (name :: t) = g (name :: t) := fun t ht =>
      h (name :: t) (List.mem_cons_of_mem _ (List.mem_map.mpr ⟨_, ht, rfl⟩))
    rw [noted, noted, notedAll_congr inside hi]
  | loop name => rfl
  | fault cause => rfl

theorem notedAll_congr {f g : List String → β} (bs : List (Branch α))
    (h : ∀ t, (t, false) ∈ entriesOfAll bs → f t = g t) : notedAll f bs = notedAll g bs := by
  cases bs with
  | nil => rfl
  | cons b bs =>
    rw [notedAll, notedAll, noted_congr b, notedAll_congr bs]
    · exact fun t ht => h t (List.mem_append_right _ ht)
    · exact fun t ht => h t (List.mem_append_left _ ht)

end

mutual

theorem linesOf_noted_congr {describe : String → β → List String} {f g : List String → β}
    (indent : String) (last : Bool) (b : Branch α)
    (h : ∀ t, (t, false) ∈ entriesOf b →
      ∀ indent, describe indent (f t) = describe indent (g t)) :
    linesOf describe indent last (noted f b) = linesOf describe indent last (noted g b) := by
  cases b with
  | file name size note => rw [noted, noted, linesOf, linesOf, h [name] List.mem_cons_self]
  | folder name inside =>
    rw [noted, noted, linesOf, linesOf, linesOfAll_notedAll_congr _ inside fun t ht =>
      h (name :: t) (List.mem_cons_of_mem _ (List.mem_map.mpr ⟨_, ht, rfl⟩))]
  | loop name => rfl
  | fault cause => rfl

theorem linesOfAll_notedAll_congr {describe : String → β → List String} {f g : List String → β}
    (indent : String) (bs : List (Branch α))
    (h : ∀ t, (t, false) ∈ entriesOfAll bs →
      ∀ indent, describe indent (f t) = describe indent (g t)) :
    linesOfAll describe indent (notedAll f bs) = linesOfAll describe indent (notedAll g bs) := by
  cases bs with
  | nil => rfl
  | cons b bs =>
    rw [notedAll, notedAll, linesOfAll, linesOfAll, isEmpty_notedAll, isEmpty_notedAll,
      linesOf_noted_congr _ _ b, linesOfAll_notedAll_congr _ bs]
    · exact fun t ht => h t (List.mem_append_right _ ht)
    · exact fun t ht => h t (List.mem_append_left _ ht)

end

mutual

theorem entriesOf_noted (f : List String → β) (b : Branch α) :
    entriesOf (noted f b) = entriesOf b := by
  cases b with
  | file name size note => rfl
  | folder name inside => rw [noted, entriesOf, entriesOf, entriesOfAll_notedAll]
  | loop name => rfl
  | fault cause => rfl

theorem entriesOfAll_notedAll (f : List String → β) (bs : List (Branch α)) :
    entriesOfAll (notedAll f bs) = entriesOfAll bs := by
  cases bs with
  | nil => rfl
  | cons b bs =>
    rw [notedAll, entriesOfAll, entriesOfAll, entriesOf_noted, entriesOfAll_notedAll]

end

/-! ## Lines about entries -/

theorem filter_isEntry_notes (texts : List String) :
    (texts.map Line.note).filter Line.isEntry = [] := by
  rw [List.filter_map, List.map_eq_nil_iff]
  exact List.filter_eq_nil_iff.mpr (by simp [Line.isEntry])

mutual

theorem filter_isEntry_linesOf (describe : String → α → List String) (indent : String)
    (last : Bool) (b : Branch α) :
    (linesOf describe indent last b).filter Line.isEntry = linesOf silent indent last b := by
  cases b with
  | file name size note =>
    rw [linesOf, linesOf, List.filter_cons_of_pos rfl, filter_isEntry_notes]
    rfl
  | folder name inside =>
    rw [linesOf, linesOf, List.filter_cons_of_pos rfl, filter_isEntry_linesOfAll]
  | loop name => rfl
  | fault cause => rfl

theorem filter_isEntry_linesOfAll (describe : String → α → List String) (indent : String)
    (bs : List (Branch α)) :
    (linesOfAll describe indent bs).filter Line.isEntry = linesOfAll silent indent bs := by
  cases bs with
  | nil => rfl
  | cons b bs =>
    rw [linesOfAll, List.filter_append, filter_isEntry_linesOf, filter_isEntry_linesOfAll,
      linesOfAll]

end

mutual

theorem linesOf_silent_noted (f : List String → β) (indent : String) (last : Bool)
    (b : Branch α) : linesOf silent indent last (noted f b) = linesOf silent indent last b := by
  cases b with
  | file name size note => rfl
  | folder name inside => rw [noted, linesOf, linesOf, linesOfAll_silent_notedAll]
  | loop name => rfl
  | fault cause => rfl

theorem linesOfAll_silent_notedAll (f : List String → β) (indent : String)
    (bs : List (Branch α)) :
    linesOfAll silent indent (notedAll f bs) = linesOfAll silent indent bs := by
  cases bs with
  | nil => rfl
  | cons b bs =>
    rw [notedAll, linesOfAll, linesOfAll, isEmpty_notedAll, linesOf_silent_noted,
      linesOfAll_silent_notedAll]

end

/-! ## Notes left out -/

def Subject.asSymbols : Subject → Option (List String)
  | entry _ _ | notice _ => none
  | symbols trail => some trail

@[simp] theorem Subject.asSymbols_under (name : String) (subject : Subject) :
    (subject.under name).asSymbols = subject.asSymbols.map (name :: ·) := by
  cases subject <;> rfl

section Omission

variable {describe : String → Option β → List String}

theorem filter_under (q : List String → Bool) (name : String) (ms : List Mark) :
    (ms.map (Mark.under name)).filter (fun m => m.subject.asSymbols.all q) =
      (ms.filter fun m => m.subject.asSymbols.all fun t => q (name :: t)).map
        (Mark.under name) := by
  rw [List.filter_map]
  simp only [Function.comp_def, Mark.under, Subject.asSymbols_under, Option.all_map]

mutual

theorem marksOf_noted_omit (hd : ∀ indent, describe indent none = []) (f : List String → Option β)
    (q : List String → Bool) (indent : String) (last : Bool) (b : Branch α) :
    marksOf describe indent last (noted (fun t => if q t then f t else none) b) =
      (marksOf describe indent last (noted f b)).filter fun m => m.subject.asSymbols.all q := by
  cases b with
  | file name size note =>
    rw [noted, noted, marksOf, marksOf, List.filter_cons_of_pos rfl]
    congr 1
    cases hs : q [name] with
    | true =>
      rw [if_pos rfl, eq_comm, List.filter_eq_self]
      intro m hm
      obtain ⟨text, -, rfl⟩ := List.mem_map.mp hm
      exact hs
    | false =>
      rw [if_neg (by simp), hd, List.map_nil, eq_comm, List.filter_eq_nil_iff]
      intro m hm
      obtain ⟨text, -, rfl⟩ := List.mem_map.mp hm
      simp [Subject.asSymbols, hs]
  | folder name inside =>
    rw [noted, noted, marksOf, marksOf, List.filter_cons_of_pos rfl, filter_under]
    congr 2
    exact marksOfAll_notedAll_omit hd (fun t => f (name :: t)) (fun t => q (name :: t))
      (below indent last) inside
  | loop name => rfl
  | fault cause => rfl

theorem marksOfAll_notedAll_omit (hd : ∀ indent, describe indent none = [])
    (f : List String → Option β) (q : List String → Bool) (indent : String)
    (bs : List (Branch α)) :
    marksOfAll describe indent (notedAll (fun t => if q t then f t else none) bs) =
      (marksOfAll describe indent (notedAll f bs)).filter fun m => m.subject.asSymbols.all q := by
  cases bs with
  | nil => rfl
  | cons b bs =>
    rw [notedAll, notedAll, marksOfAll, marksOfAll, List.filter_append, isEmpty_notedAll,
      isEmpty_notedAll, marksOf_noted_omit hd f q, marksOfAll_notedAll_omit hd f q]

end

end Omission

end Gazetteer.Outline

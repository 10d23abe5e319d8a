import Gazetteer.Proofs.Outline.Notes

/-! # Blocks of an outline

The block of a directory is made of the lines that tell what it holds. If one directory holds
something else, its block has other lines; the lines around it are the same, and the block still
follows the line of the directory.
-/

namespace Gazetteer

/-- Two lists that differ in one stretch, where everything has a property that nothing around it
has. -/
structure DifferWithin {α : Type} (p : α → Prop) (before old new after xs ys : List α) :
    Prop where
  left_eq : xs = before ++ old ++ after
  right_eq : ys = before ++ new ++ after
  inside : ∀ x ∈ old ++ new, p x
  outside : ∀ x ∈ before ++ after, ¬ p x

theorem DifferWithin.nest {α : Type} {p q : α → Prop} {f : α → α}
    {before old new after xs ys : List α} (h : DifferWithin p before old new after xs ys)
    (hf : ∀ x, q (f x) ↔ p x) {left right : List α} (ho : ∀ x ∈ left ++ right, ¬ q x) :
    DifferWithin q (left ++ before.map f) (old.map f) (new.map f) (after.map f ++ right)
      (left ++ (xs.map f ++ right)) (left ++ (ys.map f ++ right)) where
  left_eq := by simp [h.left_eq]
  right_eq := by simp [h.right_eq]
  inside := by
    intro y hy
    rw [← List.map_append] at hy
    obtain ⟨x, hx, rfl⟩ := List.mem_map.mp hy
    exact (hf x).mpr (h.inside x hx)
  outside := by
    have hi : ∀ x ∈ before ++ after, ¬ q (f x) := fun x hx hq => h.outside x hx ((hf x).mp hq)
    intro y hy
    simp only [List.mem_append, List.mem_map] at hy
    rcases hy with (hy | ⟨x, hx, rfl⟩) | ⟨x, hx, rfl⟩ | hy
    · exact ho y (List.mem_append_left _ hy)
    · exact hi x (List.mem_append_left _ hx)
    · exact hi x (List.mem_append_right _ hx)
    · exact ho y (List.mem_append_right _ hy)

theorem DifferWithin.filterMap {α β : Type} {p : α → Prop} {q : β → Prop} {g : α → Option β}
    {before old new after xs ys : List α} (h : DifferWithin p before old new after xs ys)
    (hq : ∀ x ∈ xs ++ ys, ∀ y, g x = some y → (q y ↔ p x)) :
    DifferWithin q (before.filterMap g) (old.filterMap g) (new.filterMap g) (after.filterMap g)
      (xs.filterMap g) (ys.filterMap g) where
  left_eq := by simp [h.left_eq]
  right_eq := by simp [h.right_eq]
  inside := by
    intro y hy
    rw [← List.filterMap_append] at hy
    obtain ⟨x, hx, hg⟩ := List.mem_filterMap.mp hy
    refine (hq x ?_ y hg).mpr (h.inside x hx)
    rw [h.left_eq, h.right_eq]
    rcases List.mem_append.mp hx with hx | hx <;> simp [hx]
  outside := by
    intro y hy
    rw [← List.filterMap_append] at hy
    obtain ⟨x, hx, hg⟩ := List.mem_filterMap.mp hy
    refine fun hw => h.outside x hx ((hq x ?_ y hg).mp hw)
    rw [h.left_eq]
    rcases List.mem_append.mp hx with hx | hx <;> simp [hx]

def Branch.name? {α : Type} : Branch α → Option String
  | .file name _ _ | .folder name _ | .loop name => some name
  | .fault _ => none

namespace Outline

variable {α β : Type} {name : String} {place : List String} {bs bs' old new : List (Branch α)}

/-! ## Lines within a directory -/

namespace Subject

def trail : Subject → List String
  | entry trail _ | symbols trail | notice trail => trail

def Within (place : List String) : Subject → Prop
  | entry trail _ | symbols trail => place <+: trail ∧ trail ≠ place
  | notice trail => place <+: trail

@[simp] theorem trail_under (subject : Subject) :
    (subject.under name).trail = name :: subject.trail := by
  cases subject <;> rfl

@[simp] theorem within_under_iff {subject : Subject} :
    (subject.under name).Within (name :: place) ↔ subject.Within place := by
  cases subject <;> simp [under, Within, List.cons_prefix_cons]

theorem head_of_within {subject : Subject} (h : subject.Within (name :: place)) :
    subject.trail.head? = some name := by
  have hp : name :: place <+: subject.trail := by
    cases subject with
    | entry trail isDir => exact h.1
    | symbols trail => exact h.1
    | notice trail => exact h
  obtain ⟨rest, hr⟩ := hp
  rw [← hr]
  rfl

end Subject

def Mark.underAll (place : List String) (m : Mark) : Mark := place.foldr Mark.under m

@[simp] theorem within_underAll_iff {m : Mark} :
    (m.underAll place).subject.Within place ↔ m.subject.Within [] := by
  induction place with
  | nil => rfl
  | cons name place ih => exact Subject.within_under_iff.trans ih

section Lines

variable {describe : String → α → List String} {indent : String} {last : Bool} {b : Branch α}
  {m : Mark}

theorem head_of_mem_marksOf (h : m ∈ marksOf describe indent last b) :
    m.subject.trail.head? = b.name? := by
  cases b with
  | file name size note =>
    rcases List.mem_cons.mp h with rfl | h
    · rfl
    · obtain ⟨text, -, rfl⟩ := List.mem_map.mp h
      rfl
  | folder name inside =>
    rcases List.mem_cons.mp h with rfl | h
    · rfl
    · obtain ⟨m, -, rfl⟩ := List.mem_map.mp h
      simp [Mark.under, Branch.name?]
  | loop name => cases List.mem_singleton.mp h; rfl
  | fault cause => cases List.mem_singleton.mp h; rfl

theorem within_nil_of_mem_marksOf (h : m ∈ marksOf describe indent last b) :
    m.subject.Within [] := by
  have ht := head_of_mem_marksOf h
  have hne : b.name? ≠ none → m.subject.trail ≠ [] := fun hb he => hb (by rw [← ht, he]; rfl)
  cases b with
  | fault cause => cases List.mem_singleton.mp h; exact List.nil_prefix
  | file | folder | loop =>
    have hn := hne (by simp [Branch.name?])
    cases hs : m.subject with
    | notice trail => exact List.nil_prefix
    | entry trail isDir => exact ⟨List.nil_prefix, by simpa [hs, Subject.trail] using hn⟩
    | symbols trail => exact ⟨List.nil_prefix, by simpa [hs, Subject.trail] using hn⟩

theorem marksOfAll_append_cons (before after : List (Branch α)) :
    marksOfAll describe indent (before ++ b :: after) =
      before.flatMap (marksOf describe indent false) ++
        (marksOf describe indent after.isEmpty b ++ marksOfAll describe indent after) := by
  induction before with
  | nil => rfl
  | cons a before ih =>
    have hl : (before ++ b :: after).isEmpty = false := by simp
    rw [List.cons_append, marksOfAll, ih, hl, List.flatMap_cons, List.append_assoc]

theorem exists_of_mem_marksOfAll (h : m ∈ marksOfAll describe indent bs) :
    ∃ b ∈ bs, ∃ last, m ∈ marksOf describe indent last b := by
  induction bs with
  | nil => cases h
  | cons b bs ih =>
    rcases List.mem_append.mp h with h | h
    · exact ⟨b, List.mem_cons_self, _, h⟩
    · obtain ⟨b', hb, hm⟩ := ih h
      exact ⟨b', List.mem_cons_of_mem _ hb, hm⟩

theorem within_nil_of_mem_marksOfAll (h : m ∈ marksOfAll describe indent bs) :
    m.subject.Within [] := by
  obtain ⟨b, -, last, hm⟩ := exists_of_mem_marksOfAll h
  exact within_nil_of_mem_marksOf hm

end Lines

/-! ## A directory that holds something else -/

/-- Two lists of entries that are the same, except that the directory at the end of a trail holds
something else. -/
inductive Replaced (old new : List (Branch α)) :
    List String → List (Branch α) → List (Branch α) → Prop where

  | here : Replaced old new [] old new

  | inside {name : String} {place : List String} {bs bs' before after : List (Branch α)}
      (h : Replaced old new place bs bs') (hn : ∀ b ∈ before ++ after, b.name? ≠ some name) :
      Replaced old new (name :: place) (before ++ .folder name bs :: after)
        (before ++ .folder name bs' :: after)

/-- The lines in front of a block, and how far the block is indented: the line of the directory
comes last and is indented one step less. Nothing is in front of the whole outline. -/
inductive Heads (indent : String) : List String → List Mark → String → Prop where

  | top : Heads indent [] [] indent

  | entry {place : List String} {before : List Mark} {outer name : String} {last : Bool} :
      Heads indent place (before ++ [⟨.entry place true, folderLine outer last name⟩])
        (below outer last)

theorem Heads.under {indent inner : String} {last : Bool} {before : List Mark}
    (h : Heads (below indent last) place before inner) (ms : List Mark) :
    Heads indent (name :: place)
      (ms ++ [⟨.entry [name] true, folderLine indent last name⟩] ++ before.map (Mark.under name))
      inner := by
  cases h with
  | top => simpa using Heads.entry
  | entry =>
    rw [List.map_append, ← List.append_assoc]
    exact .entry

/-- The lines around a block do not depend on what the directory holds. -/
theorem Replaced.differ (h : Replaced old new place bs bs')
    (describe : String → α → List String) (indent : String) :
    ∃ before after inner, Heads indent place before inner ∧
      DifferWithin (·.subject.Within place) before
        ((marksOfAll describe inner old).map (Mark.underAll place))
        ((marksOfAll describe inner new).map (Mark.underAll place)) after
        (marksOfAll describe indent bs) (marksOfAll describe indent bs') := by
  induction h generalizing indent with
  | here =>
    have hm : ∀ ms : List Mark, ms.map (Mark.underAll []) = ms := fun ms => List.map_id ms
    refine ⟨[], [], indent, .top, ⟨by simp [hm], by simp [hm], ?_, by simp⟩⟩
    intro m hi
    rw [hm, hm] at hi
    rcases List.mem_append.mp hi with hi | hi
    · exact within_nil_of_mem_marksOfAll hi
    · exact within_nil_of_mem_marksOfAll hi
  | @inside name place bs bs' left right h hn ih =>
    obtain ⟨before, after, inner, hh, hd⟩ := ih (Outline.below indent right.isEmpty)
    let above : List Mark := left.flatMap (marksOf describe indent false)
    let head : Mark := ⟨.entry [name] true, folderLine indent right.isEmpty name⟩
    have hs : ∀ inside : List (Branch α),
        marksOfAll describe indent (left ++ .folder name inside :: right) =
          (above ++ [head]) ++ ((marksOfAll describe (Outline.below indent right.isEmpty)
            inside).map (Mark.under name) ++ marksOfAll describe indent right) := by
      intro inside
      rw [marksOfAll_append_cons, marksOf]
      simp [above, head]
    have ho : ∀ m ∈ (above ++ [head]) ++ marksOfAll describe indent right,
        ¬ m.subject.Within (name :: place) := by
      have hb : ∀ b ∈ left ++ right, ∀ last, ∀ m ∈ marksOf describe indent last b,
          ¬ m.subject.Within (name :: place) := fun b hb last m hm hw =>
        hn b hb ((head_of_mem_marksOf hm).symm.trans (Subject.head_of_within hw))
      intro m hm
      simp only [above, head, List.mem_append, List.mem_flatMap, List.mem_singleton] at hm
      rcases hm with (⟨b, hl, hm⟩ | rfl) | hm
      · exact hb b (List.mem_append_left _ hl) _ m hm
      · rintro ⟨hp, hne⟩
        exact hne (by simpa [List.cons_prefix_cons] using hp)
      · obtain ⟨b, hr, last, hm⟩ := exists_of_mem_marksOfAll hm
        exact hb b (List.mem_append_right _ hr) last m hm
    have hu : ∀ ms : List Mark, (ms.map (Mark.underAll place)).map (Mark.under name) =
        ms.map (Mark.underAll (name :: place)) := fun ms => List.map_map
    have hw := hd.nest (f := Mark.under name) (q := (·.subject.Within (name :: place)))
      (fun m => Subject.within_under_iff) ho
    rw [← hs, ← hs, hu, hu] at hw
    exact ⟨_, _, inner, hh.under above, hw⟩

/-! ## Notes and tables around a block -/

@[simp] theorem name?_noted (f : List String → β) (b : Branch α) : (noted f b).name? = b.name? := by
  cases b <;> rfl

theorem Replaced.notedAll (h : Replaced old new place bs bs') (f : List String → β) :
    Replaced (notedAll (fun t => f (place ++ t)) old) (notedAll (fun t => f (place ++ t)) new) place
      (Outline.notedAll f bs) (Outline.notedAll f bs') := by
  induction h generalizing f with
  | here => exact .here
  | @inside name place bs bs' before after h hn ih =>
    rw [notedAll_eq_map f, notedAll_eq_map f, List.map_append, List.map_append, List.map_cons,
      List.map_cons]
    refine .inside (ih fun t => f (name :: t)) ?_
    intro b hb
    rw [← List.map_append] at hb
    obtain ⟨a, ha, rfl⟩ := List.mem_map.mp hb
    rw [name?_noted]
    exact hn a ha

end Outline

end Gazetteer

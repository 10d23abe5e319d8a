import Gazetteer.Proofs.Disk.LinkFree

/-! # Trees on a disk

A directory tree without links can be reached through links. What lies in it is found by the path
of its top and the names from there, whatever stands above it.
-/

namespace Gazetteer.Disk

open Gazetteer.Path

variable {d d' : Disk} {l l' : Location} {trail : List String} {root root' : String}

def SameBelow (d d' : Disk) (l l' : Location) : Prop :=
  ∀ t, d'.occupant? (l' ++ t) = d.occupant? (l ++ t)

/-- A path leads to a directory without links in it, in which all can be listed, measured and
read. -/
structure Holds (d : Disk) (denied : List (Operation × String)) (root : String) (l : Location) :
    Prop where
  located : d.locate root = .ok l
  directory : d.occupant? l = some .directory
  noLink : ∀ t target, d.occupant? (l ++ t) ≠ some (.link target)
  short : ∀ t, IsTrail t → (d.occupant? (l ++ t)).isSome →
    byteLength (descend root t) ≤ pathLimit
  allowed : ∀ t op, IsTrail t → (d.occupant? (l ++ t)).isSome → (op, descend root t) ∉ denied

theorem step_copy (jump jump' : Location → List String → Except Cause Location)
    (hs : SameBelow d d' l l') (hn : ∀ t target, d.occupant? (l ++ t) ≠ some (.link target))
    (ht : IsTrail trail) :
    (d.step jump l trail = .ok (l ++ trail) ∧ d'.step jump' l' trail = .ok (l' ++ trail)) ∨
      ∃ cause, d.step jump l trail = .error cause ∧ d'.step jump' l' trail = .error cause := by
  induction trail generalizing l l' with
  | nil => exact .inl (by simp [step_nil])
  | cons name trail ih =>
    obtain ⟨hname, ht⟩ := List.forall_mem_cons.mp ht
    obtain ⟨hne, hdot, hup⟩ := ordinary_of_isName hname
    have hhere : d'.occupant? l' = d.occupant? l := by simpa using hs []
    have hnext : d'.occupant? (l' ++ [name]) = d.occupant? (l ++ [name]) := hs [name]
    have hs' : SameBelow d d' (l ++ [name]) (l' ++ [name]) := fun t => by
      simpa using hs (name :: t)
    have hn' : ∀ t target, d.occupant? (l ++ [name] ++ t) ≠ some (.link target) := fun t => by
      simpa using hn (name :: t)
    simp only [step_component, hhere, hnext, hne, hdot, hup, decide_false, Bool.or_self,
      Bool.false_eq_true, if_false]
    split_ifs
    · exact .inr ⟨_, rfl, rfl⟩
    · exact .inr ⟨_, rfl, rfl⟩
    · cases ho : d.occupant? (l ++ [name]) with
      | none => exact .inr ⟨_, rfl, rfl⟩
      | some o =>
        cases o with
        | link target => exact absurd ho (hn [name] target)
        | file bytes => simpa [ho] using ih hs' hn' ht
        | directory => simpa [ho] using ih hs' hn' ht

theorem siteAt_copy (hs : SameBelow d d' l l') (ho : (d.occupant? l).isSome)
    (hn : ∀ target, d.occupant? l ≠ some (.link target)) :
    ∃ content, d.siteAt l = .ok ⟨l, content⟩ ∧ d'.siteAt l' = .ok ⟨l', content⟩ := by
  have hhere : d'.occupant? l' = d.occupant? l := by simpa using hs []
  have hnames : d'.names l' = d.names l := names_congr fun name => by rw [hs [name]]
  unfold siteAt
  rw [hhere, hnames]
  cases hl : d.occupant? l with
  | none => rw [hl] at ho; cases ho
  | some o =>
    cases o with
    | link target => exact absurd hl (hn target)
    | file bytes => exact ⟨_, rfl, rfl⟩
    | directory => exact ⟨_, rfl, rfl⟩

namespace Holds

variable {denied denied' : List (Operation × String)}

theorem find_root (h : d.Holds denied root l) : d.find root = .ok ⟨l, .directory (d.names l)⟩ := by
  rw [find, h.located]
  simp [bind, Except.bind, siteAt, h.directory]

theorem find_of_vacant (h : d.Holds denied root l) (ht : IsTrail trail)
    (ho : d.occupant? (l ++ trail) = none) :
    ∃ cause, d.find (descend root trail) = .error cause := by
  obtain ⟨k, hk⟩ := exists_locate_descend h.located ht
  obtain ⟨jump, hj⟩ := follow_eq_step d k
  rw [find, hk, hj]
  split_ifs
  · exact ⟨_, rfl⟩
  · rcases step_copy jump jump (fun _ => rfl) h.noLink ht with ⟨hm, -⟩ | ⟨cause, hm, -⟩
    · rw [hm]
      exact ⟨.noEntry, by simp [bind, Except.bind, siteAt, ho]⟩
    · exact ⟨cause, by rw [hm]; rfl⟩

/-- The same content is found in two copies of a tree, or nothing in either. -/
theorem find_copy (h : d.Holds denied root l) (h' : d'.Holds denied' root' l')
    (hs : SameBelow d d' l l') (ht : IsTrail trail) :
    ((d.occupant? (l ++ trail)).isSome ∧ ∃ content,
        d.find (descend root trail) = .ok ⟨l ++ trail, content⟩ ∧
          d'.find (descend root' trail) = .ok ⟨l' ++ trail, content⟩) ∨
      ∃ cause cause', d.find (descend root trail) = .error cause ∧
        d'.find (descend root' trail) = .error cause' := by
  by_cases ho : (d.occupant? (l ++ trail)).isSome
  · obtain ⟨k, hk⟩ := exists_locate_descend h.located ht
    obtain ⟨k', hk'⟩ := exists_locate_descend h'.located ht
    obtain ⟨jump, hj⟩ := follow_eq_step d k
    obtain ⟨jump', hj'⟩ := follow_eq_step d' k'
    have hshort := h.short trail ht ho
    have hshort' := h'.short trail ht (by rwa [hs trail])
    rw [if_neg (by omega), hj] at hk
    rw [if_neg (by omega), hj'] at hk'
    rw [find, find, hk, hk']
    rcases step_copy jump jump' hs h.noLink ht with ⟨hm, hm'⟩ | ⟨cause, hm, hm'⟩
    · refine .inl ⟨ho, ?_⟩
      rw [hm, hm']
      exact siteAt_copy (fun t => by simpa using hs (trail ++ t)) ho (h.noLink trail)
    · exact .inr ⟨cause, cause, by rw [hm]; rfl, by rw [hm']; rfl⟩
  · have hv : d.occupant? (l ++ trail) = none := by simpa using ho
    obtain ⟨cause, he⟩ := h.find_of_vacant ht hv
    obtain ⟨cause', he'⟩ := h'.find_of_vacant ht ((hs trail).trans hv)
    exact .inr ⟨cause, cause', he, he'⟩

end Holds

end Gazetteer.Disk

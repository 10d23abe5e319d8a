import Gazetteer.Proofs.Disk.Descent
import Mathlib.Data.List.Sort
import Mathlib.Data.String.Basic
import Mathlib.Tactic.SplitIfs

/-! # Disks without links

Where there are no links, a path that goes down from a directory leads to the location which spells
the same names, and whether it leads there depends on nothing but what stands on the way.
-/

namespace Gazetteer

def Occupant.isDirectory : Occupant → Bool
  | directory => true
  | file _ | link _ => false

namespace Disk

open Gazetteer.Path

variable {d d' : Disk} {jump jump' : Location → List String → Except Cause Location}
  {here l m : Location} {cs ds trail : List String} {dir path name : String}

def LinkFree (d : Disk) : Prop := ∀ l target, d.occupant? l ≠ some (.link target)

theorem linkFree_of_entries (h : ∀ e ∈ d.entries, ∀ target, e.2 ≠ .link target) : d.LinkFree := by
  intro l target ho
  unfold occupant? at ho
  split at ho
  · cases ho
  · obtain ⟨before, after, hs, -⟩ := List.lookup_eq_some_iff.mp ho
    exact h (l, .link target) (by simp [hs]) target rfl

def kind? (d : Disk) (l : Location) : Option Bool := (d.occupant? l).map Occupant.isDirectory

theorem occupant?_eq_directory_iff : d.occupant? l = some .directory ↔ d.kind? l = some true := by
  unfold kind?
  cases d.occupant? l with
  | none => simp
  | some o => cases o <;> simp [Occupant.isDirectory]

theorem step_cons (h : d.LinkFree) (c : String) (cs : List String) :
    d.step jump here (c :: cs) =
      if d.kind? here ≠ some true then .error .notDirectory
      else if c = "" || c = "." then d.step jump here cs
      else if c = ".." then d.step jump here.dropLast cs
      else if nameLimit < byteLength c then .error .nameTooLong
      else if d.kind? (here ++ [c]) = none then .error .noEntry
      else d.step jump (here ++ [c]) cs := by
  rw [step_component]
  simp only [ne_eq, occupant?_eq_directory_iff]
  cases ho : d.occupant? (here ++ [c]) with
  | none => simp [kind?, ho]
  | some o =>
    cases o with
    | link target => exact absurd ho (h _ target)
    | file bytes => simp [kind?, ho]
    | directory => simp [kind?, ho]

theorem step_name (h : d.LinkFree) (hn : isName name = true) (cs : List String) :
    d.step jump here (name :: cs) =
      if d.kind? here ≠ some true then .error .notDirectory
      else if nameLimit < byteLength name then .error .nameTooLong
      else if d.kind? (here ++ [name]) = none then .error .noEntry
      else d.step jump (here ++ [name]) cs := by
  rw [step_cons h]
  simp [ordinary_of_isName hn]

theorem location_of_step (h : d.LinkFree) (hn : IsTrail cs)
    (hs : d.step jump here cs = .ok m) : m = here ++ cs := by
  induction cs generalizing here with
  | nil => cases hs; simp
  | cons name cs ih =>
    obtain ⟨hname, hcs⟩ := List.forall_mem_cons.mp hn
    rw [step_name h hname] at hs
    split_ifs at hs
    rw [ih hcs hs, List.append_assoc, List.singleton_append]

/-- Where names lead depends on what kinds of things stand on the way. -/
theorem step_congr (h : d.LinkFree) (h' : d'.LinkFree) (hn : IsTrail cs)
    (hk : ∀ v, v <+: cs → d'.kind? (here ++ v) = d.kind? (here ++ v)) :
    d'.step jump' here cs = d.step jump here cs := by
  induction cs generalizing here with
  | nil => rfl
  | cons name cs ih =>
    obtain ⟨hname, hcs⟩ := List.forall_mem_cons.mp hn
    have hhere : d'.kind? here = d.kind? here := by simpa using hk [] List.nil_prefix
    have hnext : d'.kind? (here ++ [name]) = d.kind? (here ++ [name]) := hk [name] ⟨cs, rfl⟩
    have hdeep : d'.step jump' (here ++ [name]) cs = d.step jump (here ++ [name]) cs := by
      refine ih hcs fun v hv => ?_
      simpa using hk (name :: v) (List.cons_prefix_cons.mpr ⟨rfl, hv⟩)
    rw [step_name h hname, step_name h' hname, hhere, hnext, hdeep]

/-! ## Paths -/

theorem follow_linkLimit (d : Disk) : d.follow linkLimit = d.step (d.follow 39) := rfl

theorem locate_descend (h : d.LinkFree) (hl : d.locate dir = .ok l) (ht : IsTrail trail) :
    d.locate (descend dir trail) =
      if pathLimit < byteLength (descend dir trail) then .error .nameTooLong
      else d.follow linkLimit l trail := by
  obtain ⟨k, hk⟩ := exists_locate_descend hl ht
  obtain ⟨jump, hj⟩ := follow_eq_step d k
  -- Without links, how many may be followed makes no difference.
  have hs : d.step jump l trail = d.step (d.follow 39) l trail := step_congr h h ht fun _ _ => rfl
  rw [hk, hj, follow_linkLimit, hs]

theorem location_of_descend (h : d.LinkFree) (hl : d.locate dir = .ok l) (ht : IsTrail trail)
    (hm : d.locate (descend dir trail) = .ok m) : m = l ++ trail := by
  rw [locate_descend h hl ht] at hm
  split_ifs at hm
  exact location_of_step h ht hm

/-! ## Names -/

theorem mem_names_iff : name ∈ d.names l ↔ (d.occupant? (l ++ [name])).isSome := by
  have hne : l ++ [name] ≠ [] := by simp
  simp [names, nameIn?_eq_some_iff, occupant?, hne]

theorem names_congr (h : ∀ name, (d'.occupant? (m ++ [name])).isSome =
    (d.occupant? (l ++ [name])).isSome) : d'.names m = d.names l := by
  have hs : ∀ (d : Disk) (l : Location), (d.names l).Pairwise (· ≤ ·) := fun _ _ =>
    List.pairwise_mergeSort' _ _
  refine List.Perm.eq_of_pairwise' (hs d' m) (hs d l) ?_
  rw [List.perm_ext_iff_of_nodup (d'.names_nodup m) (d.names_nodup l)]
  intro name
  rw [mem_names_iff, mem_names_iff, h]

theorem find_file_iff {bytes : List UInt8} : d.find path = .ok ⟨l, .file bytes⟩ ↔
    d.locate path = .ok l ∧ d.occupant? l = some (.file bytes) := by
  unfold find
  cases d.locate path with
  | error cause => exact ⟨nofun, nofun⟩
  | ok m =>
    have hb : (Except.ok m >>= d.siteAt) = d.siteAt m := rfl
    rw [hb, siteAt]
    constructor
    · intro h
      split at h
      · cases h
      · next ho => cases h; exact ⟨rfl, ho⟩
      · cases h
      · cases h
    · rintro ⟨he, ho⟩
      cases he
      rw [ho]

/-! ## One file that differs -/

/-- Two disks are the same but for what is in one file, or but for the file. -/
structure SameBut (d d' : Disk) (g : Location) : Prop where
  home : d'.home = d.home
  elsewhere : ∀ m, m ≠ g → d'.occupant? m = d.occupant? m
  before : ∀ o, d.occupant? g = some o → ∃ bytes, o = .file bytes
  after : ∀ o, d'.occupant? g = some o → ∃ bytes, o = .file bytes

namespace SameBut

variable {g : Location}

theorem linkFree (h : SameBut d d' g) (hf : d.LinkFree) : d'.LinkFree := by
  intro m target ho
  by_cases hm : m = g
  · obtain ⟨bytes, hb⟩ := h.after _ (hm ▸ ho)
    cases hb
  · exact hf m target (h.elsewhere m hm ▸ ho)

theorem kind?_eq (h : SameBut d d' g) (hm : m ≠ g) : d'.kind? m = d.kind? m := by
  rw [kind?, kind?, h.elsewhere m hm]

theorem kind?_ne_directory (h : SameBut d d' g) : d.kind? g ≠ some true := by
  rw [ne_eq, ← occupant?_eq_directory_iff]
  intro ho
  obtain ⟨bytes, hb⟩ := h.before _ ho
  cases hb

theorem eq_of_step (h : SameBut d d' g) (hf : d.LinkFree) (hs : d.step jump g cs = .ok m) :
    m = g := by
  cases cs with
  | nil => cases hs; rfl
  | cons c cs =>
    rw [step_cons hf, if_pos h.kind?_ne_directory] at hs
    cases hs

theorem step_of_step (h : SameBut d d' g) (hf : d.LinkFree) (hs : d.step jump here cs = .ok m)
    (hm : m ≠ g) : d'.step jump' here cs = .ok m := by
  induction cs generalizing here with
  | nil => exact hs
  | cons c cs ih =>
    have hne : ∀ {here cs}, d.step jump here cs = .ok m → here ≠ g := by
      rintro here cs hs rfl
      exact hm (h.eq_of_step hf hs)
    have hhere : d'.kind? here = d.kind? here := h.kind?_eq (hne hs)
    rw [step_cons hf] at hs
    rw [step_cons (h.linkFree hf), hhere]
    split_ifs at hs with hd he hu hl hk
    · rw [if_neg hd, if_pos he]
      exact ih hs
    · rw [if_neg hd, if_neg he, if_pos hu]
      exact ih hs
    · rw [if_neg hd, if_neg he, if_neg hu, if_neg hl, h.kind?_eq (hne hs), if_neg hk]
      exact ih hs

theorem locate_of_locate (h : SameBut d d' g) (hf : d.LinkFree) (hl : d.locate path = .ok l)
    (hg : l ≠ g) : d'.locate path = .ok l := by
  obtain ⟨hp, hb, hs⟩ := follow_of_locate hl
  have ho : d'.origin path = d.origin path := by rw [origin_eq, origin_eq, h.home]
  rw [follow_linkLimit] at hs
  rw [locate_eq, if_neg hp, if_neg (by omega), ho, follow_linkLimit]
  exact h.step_of_step hf hs hg

theorem siteAt_cases (h : SameBut d d' g) (hm : m ≠ g) :
    d'.siteAt m = d.siteAt m ∨
      d.siteAt m = .ok ⟨m, .directory (d.names m)⟩ ∧
        d'.siteAt m = .ok ⟨m, .directory (d'.names m)⟩ := by
  unfold siteAt
  rw [h.elsewhere m hm]
  rcases d.occupant? m with - | ⟨bytes | - | target⟩
  · exact .inl rfl
  · exact .inl rfl
  · exact .inr ⟨rfl, rfl⟩
  · exact .inl rfl

theorem names_eq (h : SameBut d d' g) (hm : ∀ name, m ++ [name] ≠ g) : d'.names m = d.names m :=
  names_congr fun name => by rw [h.elsewhere _ (hm name)]

section Descent

variable (h : SameBut d d' g) (hf : d.LinkFree) (hl : d.locate dir = .ok l) (hg : l ≠ g)
  (ht : IsTrail trail)

include h hf hl hg ht

theorem locate_descend_eq (hv : ∀ v, v <+: trail → l ++ v ≠ g) :
    d'.locate (descend dir trail) = d.locate (descend dir trail) := by
  rw [locate_descend hf hl ht, locate_descend (h.linkFree hf) (h.locate_of_locate hf hl hg) ht,
    follow_linkLimit, follow_linkLimit,
    step_congr hf (h.linkFree hf) ht fun v hp => h.kind?_eq (hv v hp)]

/-- A path that goes down beside the file leads to the same, apart from the names in a directory. -/
theorem find_cases (hv : ∀ v, v <+: trail → l ++ v ≠ g) :
    d'.find (descend dir trail) = d.find (descend dir trail) ∨
      d.find (descend dir trail) = .ok ⟨l ++ trail, .directory (d.names (l ++ trail))⟩ ∧
        d'.find (descend dir trail) = .ok ⟨l ++ trail, .directory (d'.names (l ++ trail))⟩ := by
  unfold find
  rw [h.locate_descend_eq hf hl hg ht hv]
  cases hm : d.locate (descend dir trail) with
  | error cause => exact .inl rfl
  | ok m =>
    obtain rfl := location_of_descend hf hl ht hm
    exact h.siteAt_cases (hv trail (List.prefix_refl _))

theorem find_eq (hv : ∀ v, v <+: trail → l ++ v ≠ g) (hp : ∀ name, l ++ trail ++ [name] ≠ g) :
    d'.find (descend dir trail) = d.find (descend dir trail) := by
  rcases h.find_cases hf hl hg ht hv with he | ⟨he, he'⟩
  · exact he
  · rw [he, he', h.names_eq hp]

theorem locate_descend_of_files {bytes bytes' : List UInt8}
    (hb : d.occupant? g = some (.file bytes)) (hb' : d'.occupant? g = some (.file bytes')) :
    d'.locate (descend dir trail) = d.locate (descend dir trail) := by
  have hk : ∀ m, d'.kind? m = d.kind? m := by
    intro m
    by_cases hm : m = g
    · rw [hm, kind?, kind?, hb, hb']
      rfl
    · exact h.kind?_eq hm
  rw [locate_descend hf hl ht, locate_descend (h.linkFree hf) (h.locate_of_locate hf hl hg) ht,
    follow_linkLimit, follow_linkLimit, step_congr hf (h.linkFree hf) ht fun v _ => hk _]

end Descent

end SameBut

/-- To put a file in the place of a file, or where nothing is, changes nothing else. -/
theorem sameBut_set {g : Location} {bytes : List UInt8} (hg : g ≠ []) (hn : g.all isName)
    (hb : ∀ o, d.occupant? g = some o → ∃ bytes, o = .file bytes) :
    SameBut d (d.set g (.file bytes)) g where
  home := by simp [set, hn]
  elsewhere m hm := by
    have hne : (m == g) = false := by simpa using hm
    simp [occupant?, set, hn, List.lookup_append, lookup_filter_of_ne hm, List.lookup_cons, hne]
  before := hb
  after o ho := by
    have hs : (d.entries.filter (·.1 != g)).lookup g = none := by
      rw [List.lookup_eq_none_iff]
      intro e he
      have hne : e.1 ≠ g := by simpa using (List.mem_filter.mp he).2
      exact bne_iff_ne.mpr hne.symm
    simp [occupant?, set, hn, hg, List.lookup_append, hs] at ho
    exact ⟨bytes, ho.symm⟩

end Disk

end Gazetteer

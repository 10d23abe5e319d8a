import Gazetteer.Proofs.Outline.Blocks
import Gazetteer.Proofs.Survey.Record

/-! # Storages that agree

What is visible depends on directories, sizes, names and rules along trails of names that are not
hidden. If two storages answer alike, what is visible is the same; if they differ in the
names or rules of one directory alone, it is the same except for what that directory holds.
-/

namespace Gazetteer

def Storage.directory? (s : Storage) (path : String) : Option Location :=
  match s.find path with
  | .ok ⟨l, .directory _⟩ => some l
  | _ => none

theorem Storage.directory?_eq_some_iff {s : Storage} {path : String} {l : Location} :
    s.directory? path = some l ↔ ∃ names, s.find path = .ok ⟨l, .directory names⟩ := by
  unfold Storage.directory?
  constructor
  · intro h
    split at h
    · next m names hf => cases h; exact ⟨names, hf⟩
    · cases h
  · rintro ⟨names, hf⟩
    rw [hf]

namespace Survey

open Ignore Outline Gazetteer.Path

variable {s s' : Storage} {scope : Scope} {root dir name : String} {inherited : Rules}
  {chain : List Location} {place : List String}

/-- Names that a survey follows. -/
def IsOpen (trail : List String) : Prop :=
  ∀ name ∈ trail, isName name = true ∧ isHidden name = false

theorem IsOpen.isTrail {trail : List String} (h : IsOpen trail) : IsTrail trail :=
  fun name hm => (h name hm).1

theorem isOpen_cons {trail : List String} :
    IsOpen (name :: trail) ↔ (isName name = true ∧ isHidden name = false) ∧ IsOpen trail :=
  List.forall_mem_cons

theorem Visible.isOpen {trail : List String} (h : Visible s root inherited dir trail) :
    IsOpen trail := by
  intro name hm
  obtain ⟨t, u, rfl⟩ := List.append_of_mem hm
  exact ⟨h.isName_of_mem hm, (h.listed t name ⟨u, by simp⟩).1⟩

/-- Two storages answer alike below a directory, except for the names and the rules of directories
at the end of some trails. -/
structure Alike (s s' : Storage) (dir : String) (differ : List String → Prop) : Prop where
  home_eq : s'.home = s.home
  directory?_eq : ∀ t, IsOpen t → s'.directory? (descend dir t) = s.directory? (descend dir t)
  size_eq : ∀ t, IsOpen t → s'.size (descend dir t) = s.size (descend dir t)
  names_eq : ∀ t, IsOpen t → ¬ differ t → s'.names (descend dir t) = s.names (descend dir t)
  rules_eq : ∀ t, IsOpen t → ¬ differ t →
    s'.ignoreRules (join (descend dir t) Storage.ignoreFile) =
      s.ignoreRules (join (descend dir t) Storage.ignoreFile)

theorem Alike.under {differ : List String → Prop} (h : Alike s s' dir differ)
    (hn : isName name = true) (hh : isHidden name = false) :
    Alike s s' (join dir name) fun t => differ (name :: t) where
  home_eq := h.home_eq
  directory?_eq t ht := h.directory?_eq (name :: t) (isOpen_cons.mpr ⟨⟨hn, hh⟩, ht⟩)
  size_eq t ht := h.size_eq (name :: t) (isOpen_cons.mpr ⟨⟨hn, hh⟩, ht⟩)
  names_eq t ht := h.names_eq (name :: t) (isOpen_cons.mpr ⟨⟨hn, hh⟩, ht⟩)
  rules_eq t ht := h.rules_eq (name :: t) (isOpen_cons.mpr ⟨⟨hn, hh⟩, ht⟩)

theorem Alike.congr {differ differ' : List String → Prop} (h : Alike s s' dir differ)
    (hd : ∀ t, differ t ↔ differ' t) : Alike s s' dir differ' :=
  (funext fun t => propext (hd t) : differ = differ') ▸ h

/-! ## The same branches -/

theorem branchAt_of_directory {l : Location} (h : s.directory? (join dir name) = some l) :
    branchAt s root inherited chain dir name =
      if (rulesIn s root inherited dir).ignores s.home (join dir name) true then none
      else if chain.contains l then some (.loop name)
      else some (.folder name
        (visible s root (rulesBelow s inherited dir) (l :: chain) (join dir name))) := by
  obtain ⟨names, hf⟩ := Storage.directory?_eq_some_iff.mp h
  unfold branchAt
  rw [hf]

theorem branchAt_of_not_directory (h : s.directory? (join dir name) = none) :
    branchAt s root inherited chain dir name =
      visibleFile s (rulesIn s root inherited dir) (join dir name) name := by
  unfold branchAt
  split
  · next l names hf =>
    rw [Storage.directory?_eq_some_iff.mpr ⟨names, hf⟩] at h
    cases h
  · rfl

theorem name?_of_branchAt {b : Branch Unit}
    (h : branchAt s root inherited chain dir name = some b) : b.name? = some name := by
  rcases branchAt_cases h with ⟨size, rfl⟩ | rfl | ⟨l, names, -, -, rfl⟩ <;> rfl

section Congruence

variable {differ : List String → Prop}

theorem Alike.rulesIn_eq (h : Alike s s' dir differ) (hd : ¬ differ []) :
    rulesIn s' root inherited dir = rulesIn s root inherited dir := by
  have hr := h.rules_eq [] (by simp [IsOpen]) hd
  rw [descend_nil] at hr
  rw [rulesIn, rulesIn, hr]

theorem Alike.rulesBelow_eq (h : Alike s s' dir differ) (hd : ¬ differ []) :
    rulesBelow s' inherited dir = rulesBelow s inherited dir := by
  have hr := h.rules_eq [] (by simp [IsOpen]) hd
  rw [descend_nil] at hr
  rw [rulesBelow, rulesBelow, hr]

theorem Alike.branchAt_eq (h : Alike s s' dir differ) (hd : ¬ differ [])
    (hn : isName name = true) (hh : isHidden name = false)
    (hv : ∀ l, s.directory? (join dir name) = some l → chain.contains l = false →
      visible s' root (rulesBelow s inherited dir) (l :: chain) (join dir name) =
        visible s root (rulesBelow s inherited dir) (l :: chain) (join dir name)) :
    branchAt s' root inherited chain dir name = branchAt s root inherited chain dir name := by
  have ho : IsOpen [name] := by simp [IsOpen, hn, hh]
  have hl : s'.directory? (join dir name) = s.directory? (join dir name) :=
    h.directory?_eq [name] ho
  have hs : s'.size (join dir name) = s.size (join dir name) := h.size_eq [name] ho
  cases hf : s.directory? (join dir name) with
  | none =>
    rw [branchAt_of_not_directory hf, branchAt_of_not_directory (hl.trans hf), visibleFile,
      visibleFile, h.rulesIn_eq hd, h.home_eq, hs]
  | some l =>
    rw [branchAt_of_directory hf, branchAt_of_directory (hl.trans hf), h.rulesIn_eq hd,
      h.rulesBelow_eq hd, h.home_eq]
    cases hc : chain.contains l with
    | true => rfl
    | false => rw [hv l hf hc]

theorem open_of_listed {names : List String} (hn : s.names dir = .ok names)
    (hm : name ∈ names.filter (!isHidden ·)) : isName name = true ∧ isHidden name = false := by
  obtain ⟨l, hf⟩ := find_of_names hn
  obtain ⟨hm, hh⟩ := List.mem_filter.mp hm
  exact ⟨s.isName_of_mem hf hm, by simpa using hh⟩

theorem names_alike (h : Alike s s' dir differ) (hd : ¬ differ []) : s'.names dir = s.names dir :=
  h.names_eq [] (by simp [IsOpen]) hd

/-- Storages that answer alike everywhere show the same. -/
theorem visible_congr (h : Alike s s' dir fun _ => False) :
    visible s' root inherited chain dir = visible s root inherited chain dir := by
  induction inherited, chain, dir using visible.induct s root with
  | case1 inherited chain dir f hn =>
    rw [visible_of_error hn, visible_of_error ((names_alike h id).trans hn)]
  | case2 inherited chain dir names hn ih =>
    rw [visible_of_names hn, visible_of_names ((names_alike h id).trans hn)]
    apply List.filterMap_congr
    intro name hm
    obtain ⟨hi, hh⟩ := open_of_listed hn hm
    refine h.branchAt_eq id hi hh fun l hl hc => ?_
    obtain ⟨ns, hl⟩ := Storage.directory?_eq_some_iff.mp hl
    exact ih name l ns hl (Bool.eq_false_iff.mp hc) (h.under hi hh)

end Congruence

/-! ## One directory that differs -/

/-- The way of a survey into a directory. -/
inductive Enters (s : Storage) (root : String) :
    Rules → List Location → String → List String → Prop where

  | here {inherited : Rules} {chain : List Location} {dir : String} :
      Enters s root inherited chain dir []

  | deeper {inherited : Rules} {chain : List Location} {dir name : String} {l : Location}
      {trail : List String} (h : Shown s root inherited dir name)
      (hf : s.directory? (join dir name) = some l) (hl : l ∉ chain)
      (ht : Enters s root (rulesBelow s inherited dir) (l :: chain) (join dir name) trail) :
      Enters s root inherited chain dir (name :: trail)

theorem Enters.listed (h : Enters s root inherited chain dir (name :: place)) :
    ∃ names, s.names dir = .ok names ∧ name ∈ names.filter (!isHidden ·) := by
  cases h with
  | deeper hs =>
    obtain ⟨names, hn, hm⟩ := hs.listed
    exact ⟨names, hn, List.mem_filter.mpr ⟨hm, by simp [hs.unhidden]⟩⟩

/-- What is visible below a directory is the same in two storages and another one is not entered
from there, or it is the same except for what the other one holds. -/
def EqOrReplaced (s s' : Storage) (root : String) (inherited : Rules) (chain : List Location)
    (dir : String) (place : List String) : Prop :=
  (visible s' root inherited chain dir = visible s root inherited chain dir ∧
      ¬ Enters s root inherited chain dir place) ∨
    ∃ inherited' chain',
      Replaced (visible s root inherited' chain' (descend dir place))
        (visible s' root inherited' chain' (descend dir place)) place
        (visible s root inherited chain dir) (visible s' root inherited chain dir)

section OneDirectory

variable (h : Alike s s' dir (· = name :: place))

include h

theorem Alike.branchAt_eq_of_ne {n : String} (hne : n ≠ name) (hn : isName n = true)
    (hh : isHidden n = false) : branchAt s' root inherited chain dir n =
      branchAt s root inherited chain dir n := by
  refine h.branchAt_eq (by simp) hn hh fun l _ _ => visible_congr ?_
  have hc : (fun t => n :: t = name :: place) = fun _ => False := by
    funext t
    simp [hne]
  exact hc ▸ h.under hn hh

theorem Alike.branchAt_eq_or_replaced (root : String) (inherited : Rules) (chain : List Location)
    (hn : isName name = true) (hh : isHidden name = false)
    (ih : ∀ l, EqOrReplaced s s' root (rulesBelow s inherited dir) (l :: chain) (join dir name)
      place) :
    (branchAt s' root inherited chain dir name = branchAt s root inherited chain dir name ∧
        ¬ Enters s root inherited chain dir (name :: place)) ∨
      ∃ bs bs' inherited' chain',
        branchAt s root inherited chain dir name = some (.folder name bs) ∧
        branchAt s' root inherited chain dir name = some (.folder name bs') ∧
        Replaced (visible s root inherited' chain' (descend dir (name :: place)))
          (visible s' root inherited' chain' (descend dir (name :: place))) place bs bs' := by
  have hd : ¬ [] = name :: place := by simp
  have hl : s'.directory? (join dir name) = s.directory? (join dir name) :=
    h.directory?_eq [name] (by simp [IsOpen, hn, hh])
  cases hf : s.directory? (join dir name) with
  | none =>
    refine .inl ⟨h.branchAt_eq hd hn hh fun l hl _ => ?_, ?_⟩
    · rw [hf] at hl
      cases hl
    · intro he
      cases he with
      | deeper _ hd => rw [hf] at hd; cases hd
  | some l =>
    rw [branchAt_of_directory hf, branchAt_of_directory (hl.trans hf), h.rulesIn_eq hd,
      h.rulesBelow_eq hd, h.home_eq]
    cases hi : (rulesIn s root inherited dir).ignores s.home (join dir name) true with
    | true =>
      refine .inl ⟨rfl, fun he => ?_⟩
      cases he with
      | deeper hw =>
        obtain ⟨names, hd⟩ := Storage.directory?_eq_some_iff.mp hf
        have hk := hw.kept
        rw [isDirectory_of_find hd, hi] at hk
        cases hk
    | false =>
      cases hc : chain.contains l with
      | true =>
        refine .inl ⟨rfl, fun he => ?_⟩
        cases he with
        | deeper _ hd hm =>
          rw [hf] at hd
          cases hd
          exact hm (List.contains_iff_mem.mp hc)
      | false =>
        rcases ih l with ⟨he, hx⟩ | ⟨inherited', chain', hr⟩
        · refine .inl ⟨by rw [he], fun hw => ?_⟩
          cases hw with
          | deeper _ hd _ ht =>
            rw [hf] at hd
            cases hd
            exact hx ht
        · exact .inr ⟨_, _, inherited', chain', rfl, rfl, hr⟩

theorem Alike.visible_eq_of_not_listed {names : List String} (hn : s.names dir = .ok names)
    (hm : name ∉ names.filter (!isHidden ·)) :
    visible s' root inherited chain dir = visible s root inherited chain dir := by
  rw [visible_of_names hn, visible_of_names ((names_alike h (by simp)).trans hn)]
  refine List.filterMap_congr fun n hl => ?_
  obtain ⟨hi, hh⟩ := open_of_listed hn hl
  exact h.branchAt_eq_of_ne (fun he => hm (he ▸ hl)) hi hh

theorem Alike.visible_around {names : List String} (root : String) (inherited : Rules)
    (chain : List Location) (hn : s.names dir = .ok names)
    (hm : name ∈ names.filter (!isHidden ·)) :
    ∃ left right : List (Branch Unit), (∀ b ∈ left ++ right, b.name? ≠ some name) ∧
      visible s root inherited chain dir =
        left ++ ((branchAt s root inherited chain dir name).toList ++ right) ∧
      visible s' root inherited chain dir =
        left ++ ((branchAt s' root inherited chain dir name).toList ++ right) := by
  obtain ⟨l, hf⟩ := find_of_names hn
  have hnd : (names.filter (!isHidden ·)).Nodup := (s.names_nodup hf).filter _
  have hopen : ∀ n ∈ names.filter (!isHidden ·), isName n = true ∧ isHidden n = false :=
    fun _ => open_of_listed hn
  rw [visible_of_names hn, visible_of_names ((names_alike h (by simp)).trans hn)]
  obtain ⟨before, after, hs⟩ := List.append_of_mem hm
  rw [hs] at hnd hopen ⊢
  rw [List.nodup_middle, List.nodup_cons] at hnd
  have hne : ∀ n ∈ before ++ after, n ≠ name := fun n hl he => hnd.1 (he ▸ hl)
  have hsplit : ∀ f : String → Option (Branch Unit), (before ++ name :: after).filterMap f =
      before.filterMap f ++ ((f name).toList ++ after.filterMap f) := by
    intro f
    rw [List.filterMap_append, List.filterMap_cons]
    cases f name <;> rfl
  have hside : ∀ ns : List String, ns ⊆ before ++ after →
      ns.filterMap (branchAt s' root inherited chain dir) =
        ns.filterMap (branchAt s root inherited chain dir) := by
    intro ns hns
    refine List.filterMap_congr fun n hl => ?_
    obtain ⟨hi, hh⟩ := hopen n (by
      have hl := hns hl
      simp only [List.mem_append, List.mem_cons] at hl ⊢
      exact hl.imp_right .inr)
    exact h.branchAt_eq_of_ne (hne n (hns hl)) hi hh
  refine ⟨before.filterMap (branchAt s root inherited chain dir),
    after.filterMap (branchAt s root inherited chain dir), fun b hb => ?_, hsplit _, ?_⟩
  · rw [← List.filterMap_append] at hb
    obtain ⟨n, hl, hb⟩ := List.mem_filterMap.mp hb
    rw [name?_of_branchAt hb]
    exact fun he => hne n hl (Option.some.inj he)
  · rw [hsplit, hside before (List.subset_append_left ..),
      hside after (List.subset_append_right ..)]

end OneDirectory

/-- If two storages differ in one directory alone, either it is not entered and the same is visible,
or what is visible is the same except for what that directory holds. -/
theorem visible_eq_or_replaced (h : Alike s s' dir (· = place)) :
    EqOrReplaced s s' root inherited chain dir place := by
  -- The rules and the chain grow on the way, so they are any in the induction along it.
  induction place generalizing inherited chain dir with
  | nil => exact .inr ⟨inherited, chain, .here⟩
  | cons name place ih =>
    cases hn : s.names dir with
    | error f =>
      refine .inl ⟨?_, fun he => ?_⟩
      · rw [visible_of_error hn, visible_of_error ((names_alike h (by simp)).trans hn)]
      · obtain ⟨names, hl, -⟩ := he.listed
        rw [hn] at hl
        cases hl
    | ok names =>
      by_cases hm : name ∈ names.filter (!isHidden ·)
      · -- Only the branch of the next directory on the way can differ.
        obtain ⟨left, right, hlr, hv, hv'⟩ := h.visible_around root inherited chain hn hm
        obtain ⟨hi, hh⟩ := open_of_listed hn hm
        rw [EqOrReplaced, hv, hv']
        rcases h.branchAt_eq_or_replaced root inherited chain hi hh fun l =>
          ih ((h.under hi hh).congr fun t => by simp) with
            ⟨he, hx⟩ | ⟨bs, bs', inherited', chain', hbs, hbs', hr⟩
        · rw [he]
          exact .inl ⟨rfl, hx⟩
        · rw [hbs, hbs']
          exact .inr ⟨inherited', chain', .inside hr hlr⟩
      · refine .inl ⟨h.visible_eq_of_not_listed hn hm, fun he => ?_⟩
        obtain ⟨ns, hl, hmem⟩ := he.listed
        rw [hn] at hl
        cases hl
        exact hm hmem

end Survey

end Gazetteer

import Gazetteer.Proofs.Path.Top
import Mathlib.Logic.Relation

/-! # Reducing step by step

The components of an absolute path are reduced by steps in any order: an empty component or a dot is
left out, two dots go together with the name before them, and two dots in front go alone. Reducing
them in one pass takes such steps, and no step changes what the pass comes to.
-/

namespace Gazetteer.Path

open Relation

def GoesDown (c : String) : Prop := c ≠ "" ∧ c ≠ "." ∧ c ≠ ".."

/-- One step of reducing the components of an absolute path. -/
inductive Reduces : List String → List String → Prop
  | empty (front back : List String) : Reduces (front ++ "" :: back) (front ++ back)
  | dot (front back : List String) : Reduces (front ++ "." :: back) (front ++ back)
  | cancel (front back : List String) {c : String} :
    GoesDown c → Reduces (front ++ c :: ".." :: back) (front ++ back)
  | top (back : List String) : Reduces (".." :: back) back

variable {reduced cs ds : List String} {c : String}

/-! ## What a pass comes to -/

theorem pushComponent_pushComponent_parent (hc : GoesDown c) :
    pushComponent true (pushComponent true reduced c) ".." = reduced := by
  rw [pushComponent_cons hc]
  simp [pushComponent, hc.2.2]

theorem Reduces.reduceComponents_eq (h : Reduces cs ds) :
    reduceComponents true cs = reduceComponents true ds := by
  cases h with
  | empty => simp [reduceComponents, pushComponent]
  | dot => simp [reduceComponents, pushComponent]
  | cancel front back hc =>
    simp only [reduceComponents, List.foldl_append, List.foldl_cons,
      pushComponent_pushComponent_parent hc]
  | top => simp [reduceComponents, pushComponent]

theorem reduceComponents_eq_of_reflTransGen (h : ReflTransGen Reduces cs ds) :
    reduceComponents true cs = reduceComponents true ds := by
  induction h with
  | refl => rfl
  | tail _ hs ih => exact ih.trans hs.reduceComponents_eq

/-! ## The steps of a pass -/

theorem reflTransGen_pushComponent (hr : ∀ d ∈ reduced, GoesDown d) (c : String)
    (back : List String) :
    ReflTransGen Reduces (reduced.reverse ++ c :: back)
        ((pushComponent true reduced c).reverse ++ back) ∧
      ∀ d ∈ pushComponent true reduced c, GoesDown d := by
  by_cases he : c = ""
  · subst he
    exact ⟨.single (.empty ..), hr⟩
  by_cases hd : c = "."
  · subst hd
    exact ⟨.single (.dot ..), hr⟩
  by_cases hp : c = ".."
  · subst hp
    cases reduced with
    | nil => exact ⟨.single (.top _), hr⟩
    | cons d reduced =>
      -- What is before the two dots is a name, since the reduced list holds nothing else.
      have hg : GoesDown d := hr d List.mem_cons_self
      have hq : pushComponent true (d :: reduced) ".." = reduced := by
        simp [pushComponent, hg.2.2]
      rw [hq, List.reverse_cons, List.append_assoc, List.singleton_append]
      exact ⟨.single (.cancel _ _ hg), fun e hm => hr e (List.mem_cons_of_mem _ hm)⟩
  · rw [pushComponent_cons ⟨he, hd, hp⟩, List.reverse_cons, List.append_assoc,
      List.singleton_append]
    exact ⟨.refl, List.forall_mem_cons.mpr ⟨⟨he, hd, hp⟩, hr⟩⟩

theorem reflTransGen_foldl (hr : ∀ d ∈ reduced, GoesDown d) (cs : List String) :
    ReflTransGen Reduces (reduced.reverse ++ cs)
      (cs.foldl (pushComponent true) reduced).reverse := by
  induction cs generalizing reduced with
  | nil => rw [List.append_nil]; exact .refl
  | cons c cs ih =>
    obtain ⟨hs, hp⟩ := reflTransGen_pushComponent hr c cs
    exact hs.trans (ih hp)

theorem reflTransGen_reduceComponents (cs : List String) :
    ReflTransGen Reduces cs (reduceComponents true cs) :=
  @reflTransGen_foldl [] nofun cs

/-- Steps can leave nothing of some components exactly if the pass leaves nothing of them. -/
theorem reflTransGen_nil_iff :
    ReflTransGen Reduces cs [] ↔ reduceComponents true cs = [] := by
  constructor
  · exact fun h => reduceComponents_eq_of_reflTransGen h
  · intro h
    exact h ▸ reflTransGen_reduceComponents cs

theorem spellsTop_iff_reduces {p : String} :
    SpellsTop p ↔ isAbsolute p = true ∧ ReflTransGen Reduces (components p) [] := by
  rw [SpellsTop, reflTransGen_nil_iff]

end Gazetteer.Path

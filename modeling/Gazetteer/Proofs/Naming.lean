import Gazetteer.Proofs.Clues

/-! # Names from quoted keys

A name that is written as a string is noted without its quotes. Every quote character is left out,
the ones inside too: a text between quotes of one kind is noted without the quotes of the other.
-/

namespace Gazetteer

variable {quote : Char} {inner text : String} {src : Source} {p q : Place} {key : Node}

/-! ## Quotes -/

/-- A text between two quotes of one kind, none of which stands inside. -/
structure IsQuoted (quote : Char) (inner text : String) : Prop where
  quote_eq : quote = '"' ∨ quote = '\''
  quote_not_mem : quote ∉ inner.toList
  toList_eq : text.toList = quote :: (inner.toList ++ [quote])

def otherQuote (quote : Char) : Char := if quote = '"' then '\'' else '"'

def without (c : Char) (s : String) : String := String.ofList (s.toList.filter (· != c))

theorem without_eq_self_iff {c : Char} {s : String} : without c s = s ↔ c ∉ s.toList := by
  rw [without, ← String.toList_inj, String.toList_ofList, List.filter_eq_self]
  constructor
  · intro h hc
    simpa using h c hc
  · intro h d hd
    exact bne_iff_ne.mpr fun he => h (he ▸ hd)

theorem stripQuotes_of_isQuoted (h : IsQuoted quote inner text) :
    stripQuotes text = without (otherQuote quote) inner := by
  rw [stripQuotes, without, h.toList_eq]
  have hinner : inner.toList.filter (fun c => c != '"' && c != '\'') =
      inner.toList.filter (· != otherQuote quote) := by
    refine List.filter_congr fun c hc => ?_
    have hne : c ≠ quote := fun he => h.quote_not_mem (he ▸ hc)
    rcases h.quote_eq with rfl | rfl <;> simp [otherQuote, hne]
  rw [← hinner]
  rcases h.quote_eq with rfl | rfl <;> simp

theorem ne_empty_of_isQuoted (h : IsQuoted quote inner text) : text ≠ "" := by
  rintro rfl
  simpa using h.toList_eq

/-! ## Keys -/

namespace Node

variable {n m : Node} {role : String}

theorem childText?_of_child? (src : Source) (h : n.child? role = some m) :
    n.childText? src role = some (m.text src) := by
  rw [childText?, h, Option.map_some]

theorem childName?_of_child? (h : n.child? role = some m) (hm : m.text src ≠ "") :
    n.childName? src role = some (m.text src) := by
  rw [childName?, childText?_of_child? src h, Option.filter_some, if_pos (bne_iff_ne.mpr hm)]

end Node

namespace Clue

def IsUnder (key : Node) (p : Place) : Prop :=
  ∃ pair object, p.parent? = some pair ∧ pair.node.kind = "pair" ∧
    pair.node.child? "key" = some key ∧ pair.parent? = some object ∧ object.node.kind = "object"

theorem objectKeyName_of_isUnder (src : Source) (h : IsUnder key p) :
    objectKeyName src p = some (stripQuotes (key.text src)) := by
  obtain ⟨pair, object, hp, hpair, hkey, ho, hobject⟩ := h
  have hq : parentOf ["pair"] p = some pair := parentOf_eq_some_iff.mpr ⟨hp, by simp [hpair]⟩
  have hr : parentOf ["object"] pair = some object :=
    parentOf_eq_some_iff.mpr ⟨ho, by simp [hobject]⟩
  simp [objectKeyName, hq, hr, Node.childText?_of_child? src hkey]

end Clue

theorem inferName_of_isUnder (h : Clue.IsUnder key p) (hne : stripQuotes (key.text src) ≠ "") :
    inferName src p = stripQuotes (key.text src) :=
  inferName_of_nameAt (c := .objectKey) (Clue.objectKeyName_of_isUnder src h) hne

end Gazetteer

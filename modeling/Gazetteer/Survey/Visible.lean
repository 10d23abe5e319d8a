import Gazetteer.Outline
import Gazetteer.Storage

/-! # Visible entries

The entries below a directory that a survey shows. Names with a leading dot are hidden, and so is
what a rule ignores: a built-in rule, or one from the ignore file of a directory above. A directory
that is one of those above it is named without being entered, which is why the search ends.
-/

namespace Gazetteer.Survey

open Ignore

def isHidden (name : String) : Bool := name.toList.head? == some '.'

def offChain (s : Storage) (chain : List Location) : List Location :=
  s.directories.filter fun l => !chain.contains l

theorem offChain_cons_lt {s : Storage} {chain : List Location} {l : Location}
    (hm : l ∈ s.directories) (hc : chain.contains l = false) :
    (offChain s (l :: chain)).length < (offChain s chain).length := by
  have hf : offChain s (l :: chain) = (offChain s chain).filter fun m => m != l := by
    simp only [offChain, List.filter_filter]
    congr 1; funext m
    simp only [List.contains_cons, Bool.not_or, bne]
  rw [hf, List.length_filter_lt_length_iff_exists]
  exact ⟨l, List.mem_filter.mpr ⟨hm, by simpa using hc⟩, by simp⟩

/-- The rules that hold for the entries of a directory. -/
def rulesIn (s : Storage) (root : String) (inherited : Rules) (dir : String) : Rules :=
  Rules.builtIn root ++ inherited ++ s.ignoreRules (Path.join dir Storage.ignoreFile)

def rulesBelow (s : Storage) (inherited : Rules) (dir : String) : Rules :=
  inherited ++ s.ignoreRules (Path.join dir Storage.ignoreFile)

/-- An entry that is no directory, unless it is ignored or its size cannot be told. -/
def visibleFile (s : Storage) (rules : Rules) (path name : String) : Option (Branch Unit) :=
  if rules.ignores s.home path false then none
  else match s.size path with
    | .ok size => some (.file name size ())
    | .error _ => none

/-- What is shown below a directory. The chain holds the locations of the directory and of those
above it. -/
def visible (s : Storage) (root : String) (inherited : Rules) (chain : List Location)
    (dir : String) : List (Branch Unit) :=
  match s.names dir with
  | .error f => [.fault f]
  | .ok names =>
    let rules := rulesIn s root inherited dir
    (names.filter (!isHidden ·)).filterMap fun name =>
      let path := Path.join dir name
      match _h : s.find path with
      | .ok ⟨location, .directory _⟩ =>
        if rules.ignores s.home path true then none
        else if _hc : chain.contains location then some (.loop name)
        else some (.folder name
          (visible s root (rulesBelow s inherited dir) (location :: chain) path))
      | .ok ⟨_, .file _⟩ | .error _ => visibleFile s rules path name
termination_by (offChain s chain).length
decreasing_by exact offChain_cons_lt (s.location_mem _h) (by simpa using _hc)

def visibleBelow (s : Storage) (root : String) (inherited : Rules) (dir : String) :
    Option (List (Branch Unit)) :=
  match s.find dir with
  | .ok site => some (visible s root inherited [site.location] dir)
  | .error _ => none

end Gazetteer.Survey

import Gazetteer.Storage

/-! # Disks

A disk in memory: files, directories and links by location. Paths are resolved component by
component; a link is replaced by the path that it holds, but not without end.
-/

namespace Gazetteer

inductive Occupant where
  | file (bytes : List UInt8)
  | directory
  | link (target : String)
  deriving DecidableEq

namespace Disk

def linkLimit : Nat := 40

def nameLimit : Nat := 255

def pathLimit : Nat := 4095

def byteLength (s : String) : Nat := (Text.Utf8.encode s.toList).length

end Disk

/-- Places between which paths lead: from the top directory, up, and down to a name. -/
structure Terrain (π : Type) where
  top : π
  occupant? : π → Option Occupant
  up : π → π
  down : π → String → π

namespace Terrain

open Disk

variable {π : Type}

/-- Follow the components of a path from a directory; a link jumps to another path. -/
def step (t : Terrain π) (jump : π → List String → Except Cause π) :
    π → List String → Except Cause π
  | here, [] => .ok here
  | here, c :: cs =>
    if t.occupant? here ≠ some .directory then .error .notDirectory
    else if c = "" || c = "." then t.step jump here cs
    else if c = ".." then t.step jump (t.up here) cs
    else if nameLimit < byteLength c then .error .nameTooLong
    else match t.occupant? (t.down here c) with
      | none => .error .noEntry
      | some (.link target) =>
        jump (if Path.isAbsolute target then t.top else here) (Path.components target ++ cs)
      | some _ => t.step jump (t.down here c) cs

/-- Follow the components of a path through at most so many links. -/
def follow (t : Terrain π) : Nat → π → List String → Except Cause π
  | 0 => t.step fun _ _ => .error .tooManyLinks
  | n + 1 => t.step (t.follow n)

def origin (t : Terrain π) (home : π) (path : String) : π :=
  if Path.isAbsolute path then t.top else home

def locate (t : Terrain π) (home : π) (path : String) : Except Cause π :=
  if path = "" then .error .noEntry
  else if pathLimit < byteLength path then .error .nameTooLong
  else t.follow linkLimit (t.origin home path) (Path.components path)

end Terrain

/-- What stands below the top directory, one occupant at each location. -/
structure Disk where
  /-- Where relative paths begin. -/
  home : Location := []
  entries : List (Location × Occupant)
  locations_nodup : (entries.map (·.1)).Nodup
  isName_of_mem : ∀ e ∈ entries, ∀ name ∈ e.1, Path.isName name = true
  deriving DecidableEq

namespace Disk

def empty : Disk := ⟨[], [], .nil, nofun⟩

def occupant? (d : Disk) (l : Location) : Option Occupant :=
  if l = [] then some .directory else d.entries.lookup l

def terrain (d : Disk) : Terrain Location where
  top := []
  occupant? := d.occupant?
  up := List.dropLast
  down l name := l ++ [name]

def step (d : Disk) (jump : Location → List String → Except Cause Location) :
    Location → List String → Except Cause Location := d.terrain.step jump

def follow (d : Disk) : Nat → Location → List String → Except Cause Location := d.terrain.follow

def origin (d : Disk) (path : String) : Location := d.terrain.origin d.home path

def locate (d : Disk) (path : String) : Except Cause Location := d.terrain.locate d.home path

theorem step_nil (d : Disk) (jump : Location → List String → Except Cause Location)
    (here : Location) : d.step jump here [] = .ok here := rfl

theorem step_component (d : Disk) (jump : Location → List String → Except Cause Location)
    (here : Location) (c : String) (cs : List String) :
    d.step jump here (c :: cs) =
      if d.occupant? here ≠ some .directory then .error .notDirectory
      else if c = "" || c = "." then d.step jump here cs
      else if c = ".." then d.step jump here.dropLast cs
      else if nameLimit < byteLength c then .error .nameTooLong
      else match d.occupant? (here ++ [c]) with
        | none => .error .noEntry
        | some (.link target) =>
          jump (if Path.isAbsolute target then [] else here) (Path.components target ++ cs)
        | some _ => d.step jump (here ++ [c]) cs := rfl

theorem origin_eq (d : Disk) (path : String) :
    d.origin path = if Path.isAbsolute path then [] else d.home := rfl

theorem locate_eq (d : Disk) (path : String) :
    d.locate path =
      if path = "" then .error .noEntry
      else if pathLimit < byteLength path then .error .nameTooLong
      else d.follow linkLimit (d.origin path) (Path.components path) := rfl

def nameIn? : Location → Location → Option String
  | [], [name] => some name
  | a :: l, b :: m => if a = b then nameIn? l m else none
  | _, _ => none

theorem nameIn?_eq_some_iff {l m : Location} {name : String} :
    nameIn? l m = some name ↔ m = l ++ [name] := by
  induction l generalizing m with
  | nil =>
    match m with
    | [] => simp [nameIn?]
    | [a] => simp [nameIn?]
    | a :: b :: m => simp [nameIn?]
  | cons a l ih =>
    cases m with
    | nil => simp [nameIn?]
    | cons b m =>
      by_cases hab : a = b
      · simp [nameIn?, hab, ih]
      · simp [nameIn?, hab, Ne.symm hab]

def names (d : Disk) (l : Location) : List String :=
  (d.entries.filterMap fun e => nameIn? l e.1).mergeSort fun a b => decide (a ≤ b)

theorem names_nodup (d : Disk) (l : Location) : (d.names l).Nodup := by
  apply (List.mergeSort_perm _ _).symm.nodup
  apply List.Pairwise.filterMap _ _ (List.pairwise_map.mp d.locations_nodup)
  rintro e f hne a ha b hb rfl
  exact hne ((nameIn?_eq_some_iff.mp ha).trans (nameIn?_eq_some_iff.mp hb).symm)

theorem isName_of_mem_names (d : Disk) {l : Location} {name : String} (h : name ∈ d.names l) :
    Path.isName name = true := by
  obtain ⟨e, he, hn⟩ := List.mem_filterMap.mp (List.mem_mergeSort.mp h)
  exact d.isName_of_mem e he name (by simp [nameIn?_eq_some_iff.mp hn])

def siteAt (d : Disk) (l : Location) : Except Cause Site :=
  match d.occupant? l with
  | some .directory => .ok ⟨l, .directory (d.names l)⟩
  | some (.file bytes) => .ok ⟨l, .file bytes⟩
  | some (.link _) => .error .tooManyLinks
  | none => .error .noEntry

def find (d : Disk) (path : String) : Except Cause Site := d.locate path >>= d.siteAt

def locations (d : Disk) : List Location := [] :: d.entries.map (·.1)

theorem mem_locations_of_occupant? {d : Disk} {l : Location} {o : Occupant}
    (h : d.occupant? l = some o) : l ∈ d.locations := by
  unfold occupant? at h
  split at h
  · subst l; exact .head _
  · obtain ⟨before, after, hs, -⟩ := List.lookup_eq_some_iff.mp h
    simp [locations, hs]

theorem occupant?_of_siteAt {d : Disk} {l m : Location} {names : List String}
    (h : d.siteAt l = .ok ⟨m, .directory names⟩) : d.occupant? m = some .directory := by
  unfold siteAt at h
  split at h
  · next hd => cases h; exact hd
  all_goals cases h

theorem names_of_siteAt {d : Disk} {l m : Location} {names : List String}
    (h : d.siteAt l = .ok ⟨m, .directory names⟩) : names = d.names m := by
  unfold siteAt at h
  split at h
  · cases h; rfl
  all_goals cases h

theorem mem_locations_of_find {d : Disk} {path : String} {l : Location} {names : List String}
    (h : d.find path = .ok ⟨l, .directory names⟩) : l ∈ d.locations := by
  unfold find at h
  cases hp : d.locate path with
  | error _ => rw [hp] at h; cases h
  | ok m => rw [hp] at h; exact mem_locations_of_occupant? (occupant?_of_siteAt h)

theorem names_of_find {d : Disk} {path : String} {l : Location} {names : List String}
    (h : d.find path = .ok ⟨l, .directory names⟩) : names = d.names l := by
  unfold find at h
  cases hp : d.locate path with
  | error _ => rw [hp] at h; cases h
  | ok m => rw [hp] at h; exact names_of_siteAt h

/-- The disk as surveys see it, with operations denied on some paths. -/
def storage (d : Disk) (denied : List (Operation × String)) : Storage where
  home := "/" ++ "/".intercalate d.home
  find := d.find
  directories := d.locations
  location_mem := mem_locations_of_find
  names_nodup h := names_of_find h ▸ d.names_nodup _
  isName_of_mem h _ hn := d.isName_of_mem_names (names_of_find h ▸ hn)
  trouble op path := if denied.contains (op, path) then some .denied else none

/-! ## Changes -/

theorem lookup_filter_of_ne {α β : Type} [BEq α] [LawfulBEq α] {m g : α} (hm : m ≠ g)
    (es : List (α × β)) : (es.filter (·.1 != g)).lookup m = es.lookup m := by
  induction es with
  | nil => rfl
  | cons e es ih =>
    rw [List.filter_cons, List.lookup_cons]
    cases hk : e.1 != g with
    | true => rw [if_pos rfl, List.lookup_cons, ih]
    | false =>
      have hmk : (m == e.1) = false := beq_eq_false_iff_ne.mpr (bne_eq_false_iff_eq.mp hk ▸ hm)
      rw [if_neg Bool.false_ne_true, ih, hmk]

/-- Put something in a place whose directory is there. What no entry can be called is not put
anywhere. -/
def set (d : Disk) (l : Location) (o : Occupant) : Disk :=
  if h : l.all Path.isName then
    { home := d.home
      entries := d.entries.filter (·.1 != l) ++ [(l, o)]
      locations_nodup := by
        rw [List.map_append, List.nodup_append]
        refine ⟨d.locations_nodup.sublist (List.filter_sublist.map _), by simp, ?_⟩
        intro m hm n hn
        obtain ⟨e, he, rfl⟩ := List.mem_map.mp hm
        obtain rfl : n = l := by simpa using hn
        simpa using (List.mem_filter.mp he).2
      isName_of_mem := by
        intro e he
        rcases List.mem_append.mp he with he | he
        · exact d.isName_of_mem e (List.mem_filter.mp he).1
        · obtain rfl : e = (l, o) := by simpa using he
          exact List.all_eq_true.mp h }
  else d

def enter (d : Disk) (here : Location) (name : String) : Disk × Location :=
  match d.follow linkLimit here [name] with
  | .ok l => (d, l)
  | .error _ => (d.set (here ++ [name]) .directory, here ++ [name])

/-- Put something in a place below a directory, with the directories in between. -/
def put (d : Disk) (o : Occupant) : Location → List String → Disk
  | _, [] => d
  | here, [name] => d.set (here ++ [name]) o
  | here, name :: names =>
    let (d', l) := d.enter here name
    d'.put o l names

def remove (d : Disk) (l : Location) : Disk where
  home := d.home
  entries := d.entries.filter fun e => !l.isPrefixOf e.1
  locations_nodup := d.locations_nodup.sublist (List.filter_sublist.map _)
  isName_of_mem e he := d.isName_of_mem e (List.mem_filter.mp he).1

end Disk

end Gazetteer

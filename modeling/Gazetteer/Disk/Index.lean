import Gazetteer.Disk

/-! # Indexes

A disk looks each location up among all its entries. In an index they stand by name below one
another, and a place on the way keeps the places above it, so that to follow a component is to look
up one name. Paths lead to the same sites.
-/

namespace Gazetteer

/-- Values by location. -/
structure Trie (α : Type) where
  value? : Option α
  children : List (String × Trie α)

namespace Trie

variable {α : Type}

def empty : Trie α := ⟨none, []⟩

def child (t : Trie α) (name : String) : Trie α := (t.children.lookup name).getD empty

def put (a : α) : Location → Trie α → Trie α
  | [], t => ⟨some a, t.children⟩
  | name :: l, t =>
    ⟨t.value?, (name, put a l (t.child name)) :: t.children.filter (·.1 != name)⟩

def ofEntries (es : List (Location × α)) : Trie α := es.foldr (fun e t => t.put e.2 e.1) empty

def get? (t : Trie α) (l : Location) : Option α := (l.foldl child t).value?

variable {a : α} {t : Trie α} {name : String} {l : Location}

theorem child_put_cons (m : String) :
    (put a (name :: l) t).child m = if m = name then put a l (t.child name) else t.child m := by
  by_cases h : m = name
  · simp [put, child, h]
  · have hm : (m == name) = false := by simp [h]
    simp [put, child, h, List.lookup_cons, hm, Disk.lookup_filter_of_ne h]

theorem get?_put (m : Location) : (put a l t).get? m = if m = l then some a else t.get? m := by
  induction l generalizing t m with
  | nil => cases m <;> rfl
  | cons name l ih =>
    cases m with
    | nil => rfl
    | cons x m =>
      rw [get?, List.foldl_cons, child_put_cons]
      by_cases h : x = name
      · have hi := @ih (t.child name) m
        simp only [get?] at hi
        simp [h, hi, get?]
      · simp [h, get?]

theorem get?_ofEntries (es : List (Location × α)) : (ofEntries es).get? l = es.lookup l := by
  induction es with
  | nil =>
    induction l with
    | nil => rfl
    | cons name l ih => exact ih
  | cons e es ih =>
    rw [ofEntries, List.foldr_cons, get?_put, List.lookup_cons]
    by_cases h : l = e.1
    · simp [h]
    · have hl : (l == e.1) = false := by simp [h]
      rw [if_neg h, hl]
      exact ih

end Trie

/-- A place in a trie, with the places above it. -/
structure Spot (α : Type) where
  here : Trie α
  above : List (Trie α)

namespace Spot

variable {α : Type}

def up : Spot α → Spot α
  | ⟨t, []⟩ => ⟨t, []⟩
  | ⟨_, t :: above⟩ => ⟨t, above⟩

def down (s : Spot α) (name : String) : Spot α := ⟨s.here.child name, s.here :: s.above⟩

def ofLocation (t : Trie α) (l : Location) : Spot α := l.foldl down ⟨t, []⟩

theorem ofLocation_concat (t : Trie α) (l : Location) (name : String) :
    ofLocation t (l ++ [name]) = (ofLocation t l).down name := by
  rw [ofLocation, List.foldl_append]
  rfl

theorem ofLocation_dropLast (t : Trie α) (l : Location) :
    ofLocation t l.dropLast = (ofLocation t l).up := by
  rcases List.eq_nil_or_concat l with rfl | ⟨m, name, rfl⟩
  · rfl
  · rw [List.concat_eq_append, List.dropLast_concat, ofLocation_concat]
    rfl

theorem here_ofLocation (t : Trie α) (l : Location) :
    (ofLocation t l).here = l.foldl Trie.child t := by
  suffices h : ∀ s : Spot α, (l.foldl down s).here = l.foldl Trie.child s.here from h ⟨t, []⟩
  induction l with
  | nil => exact fun _ => rfl
  | cons name l ih => exact fun s => ih (s.down name)

end Spot

namespace Terrain

variable {π ρ : Type}

/-- The second terrain looks the same from the images of the places of the first. -/
structure Pictures (t : Terrain π) (u : Terrain ρ) (f : π → ρ) : Prop where
  top : f t.top = u.top
  occupant? (p : π) : u.occupant? (f p) = t.occupant? p
  up (p : π) : f (t.up p) = u.up (f p)
  down (p : π) (name : String) : f (t.down p name) = u.down (f p) name

variable {t : Terrain π} {u : Terrain ρ} {f : π → ρ}

theorem Pictures.step (h : t.Pictures u f) {jump : π → List String → Except Cause π}
    {jump' : ρ → List String → Except Cause ρ}
    (hj : ∀ p cs, jump' (f p) cs = (jump p cs).map f) (p : π) (cs : List String) :
    u.step jump' (f p) cs = (t.step jump p cs).map f := by
  induction cs generalizing p with
  | nil => rfl
  | cons c cs ih =>
    simp only [Terrain.step, h.occupant?, ← h.up, ← h.down, ih]
    split
    · rfl
    split
    · rfl
    split
    · rfl
    split
    · rfl
    cases t.occupant? (t.down p c) with
    | none => rfl
    | some o =>
      cases o with
      | link target =>
        simp only [← hj]
        split
        · rw [h.top]
        · rfl
      | _ => rfl

theorem Pictures.follow (h : t.Pictures u f) (n : Nat) (p : π) (cs : List String) :
    u.follow n (f p) cs = (t.follow n p cs).map f := by
  induction n generalizing p cs with
  | zero => exact h.step (fun _ _ => rfl) p cs
  | succ n ih => exact h.step ih p cs

theorem Pictures.locate (h : t.Pictures u f) (home : π) (path : String) :
    u.locate (f home) path = (t.locate home path).map f := by
  have ho : u.origin (f home) path = f (t.origin home path) := by
    unfold origin
    split
    · exact h.top.symm
    · rfl
  unfold Terrain.locate
  split
  · rfl
  · split
    · rfl
    · rw [ho, h.follow]

end Terrain

namespace Storage

def withFind (s : Storage) (find : String → Except Cause Site) (h : find = s.find) : Storage where
  home := s.home
  find
  directories := s.directories
  location_mem := h ▸ s.location_mem
  names_nodup := h ▸ s.names_nodup
  isName_of_mem := h ▸ s.isName_of_mem
  trouble := s.trouble

theorem withFind_eq (s : Storage) {find : String → Except Cause Site} (h : find = s.find) :
    s.withFind find h = s := by
  subst h
  rfl

end Storage

abbrev Landmark : Type := Occupant × Thunk (Except Cause Site)

namespace Trie

def terrain (t : Trie Landmark) : Terrain (Spot Landmark) where
  top := ⟨t, []⟩
  occupant? s := s.here.value?.map (·.1)
  up := Spot.up
  down := Spot.down

def siteAt (s : Spot Landmark) : Except Cause Site :=
  match s.here.value? with
  | some (_, site) => site.get
  | none => .error .noEntry

def find (t : Trie Landmark) (home : Location) : String → Except Cause Site :=
  let home := Spot.ofLocation t home
  fun path => t.terrain.locate home path >>= siteAt

end Trie

namespace Disk

theorem lookup_map_snd {α β : Type} (g : Location → α → β) (es : List (Location × α))
    (l : Location) :
    (es.map fun e => (e.1, g e.1 e.2)).lookup l = (es.lookup l).map (g l) := by
  induction es with
  | nil => rfl
  | cons e es ih =>
    rw [List.map_cons, List.lookup_cons, List.lookup_cons, ih]
    cases h : l == e.1 with
    | false => rfl
    | true => rw [eq_of_beq h]; rfl

def index (d : Disk) : Trie Landmark :=
  .ofEntries ((([], .directory) :: d.entries).map fun e => (e.1, e.2, .mk fun _ => d.siteAt e.1))

theorem get?_index (d : Disk) (l : Location) :
    d.index.get? l = (d.occupant? l).map fun o => (o, .mk fun _ => d.siteAt l) := by
  rw [index, Trie.get?_ofEntries,
    lookup_map_snd fun m o => ((o, .mk fun _ => d.siteAt m) : Landmark)]
  congr 1
  rw [occupant?, List.lookup_cons]
  by_cases h : l = []
  · simp [h]
  · have hl : (l == []) = false := by simp [h]
    rw [if_neg h, hl]

theorem siteAt_index (d : Disk) (l : Location) :
    Trie.siteAt (Spot.ofLocation d.index l) = d.siteAt l := by
  rw [Trie.siteAt, Spot.here_ofLocation, ← Trie.get?, get?_index]
  cases h : d.occupant? l with
  | none => simp [siteAt, h]
  | some o => rfl

theorem pictures_index (d : Disk) :
    d.terrain.Pictures d.index.terrain (Spot.ofLocation d.index) where
  top := rfl
  occupant? l := by
    show (Spot.ofLocation d.index l).here.value?.map (·.1) = d.occupant? l
    rw [Spot.here_ofLocation, ← Trie.get?, get?_index, Option.map_map]
    exact Option.map_id_apply
  up := Spot.ofLocation_dropLast d.index
  down := Spot.ofLocation_concat d.index

theorem find_index (d : Disk) : d.index.find d.home = d.find := by
  ext path
  show d.index.terrain.locate (Spot.ofLocation d.index d.home) path >>= Trie.siteAt = d.find path
  rw [d.pictures_index.locate, find, locate]
  cases d.terrain.locate d.home path with
  | error cause => rfl
  | ok l => exact d.siteAt_index l

/-- The disk as surveys see it, through an index that is made once. -/
def indexed (d : Disk) (denied : List (Operation × String)) : Storage :=
  (d.storage denied).withFind (d.index.find d.home) d.find_index

theorem indexed_eq_storage (d : Disk) (denied : List (Operation × String)) :
    d.indexed denied = d.storage denied := Storage.withFind_eq _ d.find_index

end Disk

end Gazetteer

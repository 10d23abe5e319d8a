import Gazetteer.Language
import Gazetteer.Path

/-! # The cabinet of languages

A cabinet holds the languages that have been loaded, in the order of loading, and remembers those
that could not be. A language is looked for when a file asks for it and never again afterwards.
-/

namespace Gazetteer

structure Offer where
  /-- The languages on offer, and for each whether it can be loaded. If none are named, all are. -/
  modules : List (Language × Bool)
  /-- The syntax tree of a text in a language. -/
  parse : Language → List Char → Node

namespace Offer

def loads (o : Offer) (l : Language) : Bool :=
  o.modules.isEmpty || o.modules.lookup l == some true

def survey (o : Offer) (l : Language) (path text : String) : SymbolTable :=
  l.tabulate path (Source.ofString text) (o.parse l text.toList)

end Offer

structure Cabinet where
  offer : Offer
  /-- What came of the attempts to load a language. -/
  attempts : List (Language × Bool)
  loaded : List Language
  unavailable : List Language
  /-- The files that no table can be made of although they can be read, in whatever language. -/
  faulty : List String := []

namespace Cabinet

def new (offer : Offer) : Cabinet := { offer, attempts := [], loaded := [], unavailable := [] }

/-- Load a language unless that has been tried before. -/
def load (c : Cabinet) (l : Language) : Bool × Cabinet :=
  match c.attempts.lookup l with
  | some result => (result, c)
  | none =>
    let result := c.offer.loads l
    (result, { c with attempts := (l, result) :: c.attempts })

def take (c : Cabinet) (l : Language) : Option Language × Cabinet :=
  if c.loaded.contains l then (some l, c)
  else if c.unavailable.contains l then (none, c)
  else match c.load l with
    | (true, c') => (some l, { c' with loaded := c'.loaded ++ [l] })
    | (false, c') => (none, { c' with unavailable := l :: c'.unavailable })

/-- Take out the language of a suffix. -/
def takeFor (c : Cabinet) (suffix : String) : Option Language × Cabinet :=
  match Language.ofSuffix? suffix with
  | none => (none, c)
  | some l => c.take l

/-- The suffixes of the loaded languages, in the order of loading. -/
def kinds (c : Cabinet) : List String := c.loaded.flatMap Language.kinds

def takeAll (c : Cabinet) (suffixes : List String) : Cabinet :=
  suffixes.foldl (fun c suffix => (c.takeFor suffix).2) c

@[simp] theorem takeAll_nil (c : Cabinet) : c.takeAll [] = c := rfl

@[simp] theorem takeAll_cons (c : Cabinet) (suffix : String) (suffixes : List String) :
    c.takeAll (suffix :: suffixes) = (c.takeFor suffix).2.takeAll suffixes := by
  unfold takeAll
  rw [List.foldl_cons]

/-- The cabinet after a try at every known suffix. -/
def fill (c : Cabinet) : Cabinet := c.takeAll Language.allKinds

end Cabinet

/-- The symbol table of a file, if a language can be loaded for its suffix and a table can be
made. -/
def Cabinet.extract (c : Cabinet) (path text : String) : Option SymbolTable × Cabinet :=
  match c.takeFor (Path.suffix path) with
  | (some l, c') =>
    (if c.faulty.contains path then none else some (c'.offer.survey l path text), c')
  | (none, c') => (none, c')

end Gazetteer

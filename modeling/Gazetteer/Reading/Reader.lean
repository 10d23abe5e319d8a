import Gazetteer.Syntax.Node

/-! # Readers

A reader consumes characters from the front of a text and yields syntax nodes, or fails and leaves
the text as it was. What a reader yields is a forest: the nodes that become children of the node
being read.
-/

namespace Gazetteer.Reading

/-- The text that is left, and what has to be known about the text before it. -/
structure Input where
  rest : List Char
  offset : Nat
  /-- A bound on the characters of the rest. -/
  left : Nat
  nesting : Nat

def Input.ofChars (cs : List Char) : Input := ⟨cs, 0, cs.length, 0⟩

abbrev Reader (α : Type) := StateT Input Option α

abbrev Forest := List Node

def next : Reader Char := fun i =>
  match i.rest with
  | [] => none
  | c :: r =>
    some (c, { i with rest := r, offset := i.offset + Text.Utf8.width c, left := i.left - 1 })

def rest : Reader (List Char) := fun i => some (i.rest, i)

def offset : Reader Nat := fun i => some (i.offset, i)

def require (b : Bool) : Reader Unit := if b then pure () else failure

def sat (p : Char → Bool) : Reader Char := do
  let c ← next
  require (p c)
  return c

def skipWhileIn (p : Char → Bool) : List Char → Nat → Nat → List Char × Nat × Nat
  | [], offset, left => ([], offset, left)
  | c :: r, offset, left =>
    if p c then skipWhileIn p r (offset + Text.Utf8.width c) (left - 1) else (c :: r, offset, left)

def skipWhile (p : Char → Bool) : Reader Unit := fun i =>
  let (rest, offset, left) := skipWhileIn p i.rest i.offset i.left
  some ((), { i with rest, offset, left })

def skipSome (p : Char → Bool) : Reader Unit := do
  let _ ← sat p
  skipWhile p

def exactly : List Char → Reader Unit
  | [] => pure ()
  | c :: cs => do
    let _ ← sat (· == c)
    exactly cs

def exact (s : String) : Reader Unit := exactly s.toList

def ahead {α : Type} (r : Reader α) : Reader Bool := fun i => some ((r i).isSome, i)

/-- Succeed without consuming exactly if the reader would fail. -/
def lacking {α : Type} (r : Reader α) : Reader Unit := do require (!(← ahead r))

def atEnd : Reader Bool := fun i => some (i.rest.isEmpty, i)

def leaf (kind : String) (named : Bool) (r : Reader Unit) : Reader Forest := do
  let start ← offset
  r
  return [{ kind, named, field := none, start, stop := ← offset, children := [] }]

/-- Comments and the like stand in any node without being part of what they stand in. -/
def isExtra (n : Node) : Bool :=
  ["comment", "html_comment", "line_continuation"].contains n.kind

/-- A place without text, which delimits the node it is read for. -/
def isMark (n : Node) : Bool := n.kind == ""

def mark : Reader Forest := do
  let here ← offset
  return [{ kind := "", named := false, field := none, start := here, stop := here,
            children := [] }]

/-- Put a forest under a new node; comments at its two ends stay outside, marks vanish. -/
def enclose (kind : String) (content : Forest) : Forest :=
  let (lead, inner) := content.span isExtra
  let (trail, core) := inner.reverse.span isExtra
  match inner.head?, core.head? with
  | some first, some last =>
    lead ++ [{ kind, named := true, field := none, start := first.start, stop := last.stop,
               children := core.reverse.filter (!isMark ·) }] ++ trail.reverse
  | _, _ => lead

def node (kind : String) (r : Reader Forest) : Reader Forest := do return enclose kind (← r)

def assign (field : String) (content : Forest) : Forest :=
  content.map fun n => if isExtra n then n else { n with field := some field }

def role (field : String) (r : Reader Forest) : Reader Forest := do return assign field (← r)

def renamed (kind : String) (r : Reader Forest) : Reader Forest := do
  return (← r).map fun n => if isExtra n then n else { n with kind }

instance : Append (Reader Forest) where
  append r s := do
    let a ← r
    let b ← s
    return a ++ b

def nothing : Reader Forest := pure []

def opt (r : Reader Forest) : Reader Forest := r <|> nothing

def manyUpTo : Nat → Reader Forest → Reader Forest
  | 0, _ => nothing
  | n + 1, r => (do
      let a ← r
      let b ← manyUpTo n r
      return a ++ b) <|> nothing

def many (r : Reader Forest) : Reader Forest := fun i => manyUpTo (i.left + 1) r i

def many1 (r : Reader Forest) : Reader Forest := r ++ many r

def extendUpTo : Nat → (Forest → Reader Forest) → Forest → Reader Forest
  | 0, _, base => pure base
  | n + 1, step, base => (do
      let more ← step base
      extendUpTo n step more) <|> pure base

/-- Rebuild a forest by the step as often as the step succeeds. -/
def extend (step : Forest → Reader Forest) (base : Forest) : Reader Forest := fun i =>
  extendUpTo (i.left + 1) step base i

def sepBy1 (sep item : Reader Forest) : Reader Forest := item ++ many (sep ++ item)

def oneOf : List (Reader Forest) → Reader Forest
  | [] => failure
  | r :: rs => r <|> oneOf rs

def nested {α : Type} (r : Reader α) : Reader α := fun i =>
  (r { i with nesting := i.nesting + 1 }).map fun (a, j) => (a, { j with nesting := i.nesting })

def run (r : Reader Forest) (cs : List Char) : Option Forest :=
  match r (Input.ofChars cs) with
  | some (forest, i) => if i.rest.isEmpty then some forest else none
  | none => none

end Gazetteer.Reading

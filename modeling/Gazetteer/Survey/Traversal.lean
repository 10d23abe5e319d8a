import Gazetteer.Survey.Findings

/-! # Traversals

A survey that is made in one go. A directory is listed and its entries are written down one after
the other; the text of a file is read and a directory is traversed as soon as its entry has been
written. There is room for so many directories one inside the other, and a traversal that needs more
breaks off.
-/

namespace Gazetteer.Survey

open Ignore

/-- What is kept from one directory to the next. -/
structure Log where
  /-- The locations of the directories that have been entered and not been left. -/
  ancestors : List Location := []
  tally : Tally := .empty
  cabinet : Cabinet

namespace Log

def enter (log : Log) (l : Location) : Log := { log with ancestors := log.ancestors.insert l }

def leave (log : Log) (l : Location) : Log := { log with ancestors := log.ancestors.erase l }

def isInside (log : Log) (s : Storage) (path : String) : Bool :=
  match s.find path with
  | .ok site => log.ancestors.contains site.location
  | .error _ => false

end Log

/-- An entry of a directory that is written down. -/
structure Listed where
  name : String
  path : String
  isDirectory : Bool
  size : Nat

/-- An entry is listed unless it is ignored, or is no directory and its size cannot be told. -/
def listed? (s : Storage) (rules : Rules) (dir name : String) : Option Listed :=
  let path := Path.join dir name
  let isDirectory := s.isDirectory path
  if rules.ignores s.home path isDirectory then none
  else if isDirectory then some { name, path, isDirectory, size := 0 }
  else match s.size path with
    | .ok size => some { name, path, isDirectory, size }
    | .error _ => none

def listing (s : Storage) (rules : Rules) (dir : String) : Except Fault (List Listed) :=
  (s.names dir).map fun names => (names.filter (!isHidden ·)).filterMap (listed? s rules dir)

/-- Read a file, record its table and write about it. Nothing is written if it cannot be read or
has no table. -/
def writeTable (s : Storage) (kinds : List SymbolKind) (path indent : String) (log : Log) :
    String × Log :=
  match s.text path with
  | .error _ => ("", log)
  | .ok text =>
    match log.cabinet.extract path text with
    | (none, cabinet) => ("", { log with cabinet })
    | (some t, cabinet) =>
      (Listing.countsLine t indent ++ Listing.text t kinds indent,
        { log with tally := log.tally.record t, cabinet })

def Station.next (s : Storage) (station : Station) (path indent : String) : Station where
  dir := path
  inherited := rulesBelow s station.inherited station.dir
  indent := indent
  depth := station.depth + 1

/-- Write down an entry and what is behind it; `traverse` goes through a directory. -/
def writeEntry (s : Storage) (scope : Scope) (active : Bool) (station : Station)
    (traverse : Bool → Station → Log → Option String × Log) (last : Bool) (e : Listed) (log : Log) :
    Option String × Log :=
  let under := Outline.below station.indent last
  if e.isDirectory then
    let line := (Outline.folderLine station.indent last e.name).text
    if log.isInside s e.path then (some line, log)
    else
      let (inside, log) := traverse (scope.descendsAt active station.depth)
        (station.next s e.path under) log
      (inside.map (line ++ ·), log)
  else
    let line := (Outline.fileLine station.indent last e.name e.size).text
    if scope.readsAt active station.depth &&
        isEligible Language.allKinds scope.patterns e.path then
      let (about, log) := writeTable s scope.kinds e.path under log
      (some (line ++ about), log)
    else (some line, log)

/-- Write one entry after the other; nothing is left of what was written if one of them fails. -/
def writeAll (write : (last : Bool) → Listed → Log → Option String × Log) :
    List Listed → Log → Option String × Log
  | [], log => (some "", log)
  | e :: es, log =>
    match write es.isEmpty e log with
    | (none, log) => (none, log)
    | (some head, log) =>
      let (rest, log) := writeAll write es log
      (rest.map (head ++ ·), log)

/-- Write what is below a station, with room for so many directories. However it ends, the
directory is left. -/
def traverse (s : Storage) (scope : Scope) :
    (room : Nat) → (active : Bool) → Station → Log → Option String × Log
  | 0, _, _, log => (none, log)
  | room + 1, active, station, log =>
    match s.find station.dir with
    | .error _ => (some (Outline.missingLine station.indent station.dir).text, log)
    | .ok site =>
      let log := log.enter site.location
      let (written, log) :=
        match listing s (rulesIn s scope.root station.inherited station.dir) station.dir with
        | .error f => (some (Outline.faultLine station.indent f).text, log)
        | .ok entries =>
          writeAll (writeEntry s scope active station (traverse s scope room)) entries log
      (written, log.leave site.location)

end Gazetteer.Survey

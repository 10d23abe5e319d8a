import Gazetteer.Proofs.Listing.Lines
import Gazetteer.Proofs.Survey.Record
import Gazetteer.Survey.Traversal

/-! # Traversals and surveys

A traversal lists, writes, reads and records by turns. If there is room for all directories one
inside the other, it comes to the text, the tables and the cabinet of a survey, for which the three
are made one after the other; with less room it breaks off. Either way it leaves every directory
that it has entered.
-/

namespace Gazetteer.Survey

open Ignore Outline Gazetteer.Path

mutual

/-- How many directories lie one inside the other. -/
def levelsOf {α : Type} : Branch α → Nat
  | .folder _ inside => levelsOfAll inside + 1
  | .file _ _ _ | .loop _ | .fault _ => 0

def levelsOfAll {α : Type} : List (Branch α) → Nat
  | [] => 0
  | b :: bs => max (levelsOf b) (levelsOfAll bs)

end

variable {s : Storage} {scope : Scope} {root dir name : String} {inherited : Rules}
  {chain : List Location} {active last : Bool} {station : Station} {log : Log} {room : Nat}

/-! ## What is listed -/

inductive Grows (s : Storage) (root : String) (inherited : Rules) (chain : List Location)
    (dir : String) : Listed → Branch Unit → Prop where

  | file {name : String} {size : Nat} :
      Grows s root inherited chain dir ⟨name, join dir name, false, size⟩ (.file name size ())

  | loop {name : String} {l : Location} {names : List String}
      (hf : s.find (join dir name) = .ok ⟨l, .directory names⟩) (hl : l ∈ chain) :
      Grows s root inherited chain dir ⟨name, join dir name, true, 0⟩ (.loop name)

  | folder {name : String} {l : Location} {names : List String}
      (hf : s.find (join dir name) = .ok ⟨l, .directory names⟩) (hl : l ∉ chain) :
      Grows s root inherited chain dir ⟨name, join dir name, true, 0⟩
        (.folder name (visible s root (rulesBelow s inherited dir) (l :: chain) (join dir name)))

theorem rel_listed? (name : String) :
    Option.Rel (Grows s root inherited chain dir)
      (listed? s (rulesIn s root inherited dir) dir name)
      (branchAt s root inherited chain dir name) := by
  unfold branchAt
  split
  · next l names hf =>
    simp only [listed?, isDirectory_of_find hf, if_true]
    by_cases hi : (rulesIn s root inherited dir).ignores s.home (join dir name) true = true
    · rw [if_pos hi, if_pos hi]
      exact .none
    · rw [if_neg hi, if_neg hi]
      by_cases hl : l ∈ chain
      · rw [if_pos (List.contains_iff_mem.mpr hl)]
        exact .some (.loop hf hl)
      · rw [if_neg (mt List.contains_iff_mem.mp hl)]
        exact .some (.folder hf hl)
  · next hf =>
    simp only [listed?, not_directory_of_find hf, Bool.false_eq_true, if_false, visibleFile]
    split
    · exact .none
    · cases s.size (join dir name) with
      | ok size => exact .some .file
      | error f => exact .none

theorem listing_of_names (root : String) (inherited : Rules) (chain : List Location)
    {names : List String} (h : s.names dir = .ok names) :
    ∃ es, listing s (rulesIn s root inherited dir) dir = .ok es ∧
      List.Forall₂ (Grows s root inherited chain dir) es (visible s root inherited chain dir) := by
  refine ⟨_, by rw [listing, h]; rfl, ?_⟩
  rw [visible_of_names h]
  have hn : List.Forall₂ Eq (names.filter (!isHidden ·)) (names.filter (!isHidden ·)) :=
    List.forall₂_eq_eq_eq ▸ rfl
  refine List.rel_filterMap ?_ hn
  rintro name _ rfl
  exact rel_listed? name

theorem listing_of_error {f : Fault} (h : s.names dir = .error f) (rules : Rules) :
    listing s rules dir = .error f := by
  rw [listing, h]
  rfl

/-! ## The same in passes -/

/-- What comes of a branch if its tables are made first and written about afterwards. -/
def passOver (s : Storage) (scope : Scope) (active : Bool) (station : Station) (last : Bool)
    (b : Branch Unit) (log : Log) : Option String × Log :=
  let (noted, cabinet) := annotate s scope active station.depth station.dir b log.cabinet
  (some (text (linesOf (describe scope.kinds) station.indent last noted)),
    { log with tally := log.tally.recordAll ((notesOf noted).filterMap id), cabinet })

def passOverAll (s : Storage) (scope : Scope) (active : Bool) (station : Station)
    (bs : List (Branch Unit)) (log : Log) : Option String × Log :=
  let (noted, cabinet) := annotateAll s scope active station.depth station.dir bs log.cabinet
  (some (text (linesOfAll (describe scope.kinds) station.indent noted)),
    { log with tally := log.tally.recordAll ((notesOfAll noted).filterMap id), cabinet })

/-- What comes of `levels` directories one inside the other with room for fewer than `room`: the
whole, or nothing although everything that was entered has been left. -/
structure Fares (levels room : Nat) (whole result : Option String × Log) : Prop where
  fits : levels < room → result = whole
  breaks : room ≤ levels → result.1 = none ∧ result.2.ancestors = whole.2.ancestors

theorem text_cons (line : Line) (lines : List Line) :
    text (line :: lines) = line.text ++ text lines := by
  simp [text]

theorem text_append (ls ms : List Line) : text (ls ++ ms) = text ls ++ text ms := by
  simp [text]

theorem text_notes (texts : List String) : text (texts.map .note) = String.join texts := by
  rw [text, List.map_map]
  exact congrArg String.join (List.map_id _)

theorem writeTable_eq {path indent : String} {kinds : List SymbolKind}
    (h : (scope.readsAt active station.depth &&
      isEligible Language.allKinds scope.patterns path) = true) :
    writeTable s kinds path indent log =
      (text ((describe kinds indent (tableOf s scope active station.depth path log.cabinet).1).map
          .note),
        { log with
          tally := log.tally.recordAll
            (tableOf s scope active station.depth path log.cabinet).1.toList
          cabinet := (tableOf s scope active station.depth path log.cabinet).2 }) := by
  rw [writeTable, tableOf, if_pos h, text_notes]
  cases s.text path with
  | error f => rfl
  | ok text =>
    dsimp only
    rcases log.cabinet.extract path text with ⟨_ | t, cabinet⟩
    · rfl
    · simp [describe, Listing.text_eq_join_lines, Tally.recordAll]

theorem recordAll_append (tally : Tally) (ts us : List SymbolTable) :
    tally.recordAll (ts ++ us) = (tally.recordAll ts).recordAll us :=
  List.foldl_append ..

theorem passOverAll_cons {b : Branch Unit} {bs : List (Branch Unit)} {head rest : String}
    {between after : Log}
    (h : passOver s scope active station bs.isEmpty b log = (some head, between))
    (hs : passOverAll s scope active station bs between = (some rest, after)) :
    passOverAll s scope active station (b :: bs) log = (some (head ++ rest), after) := by
  cases h
  cases hs
  simp only [passOverAll, annotateAll, linesOfAll, notesOfAll, text_append, List.filterMap_append,
    recordAll_append, annotateAll_eq_notedAll, isEmpty_notedAll]

/-! ## Step by step -/

/-- With so much room, the directories below a station fare as they do in passes. -/
def InStep (s : Storage) (scope : Scope) (room : Nat) : Prop :=
  ∀ (active : Bool) (station : Station) (log : Log) (chain : List Location) (site : Site),
    s.find station.dir = .ok site → site.location ∉ chain →
    (∀ m, m ∈ log.ancestors ↔ m ∈ chain) →
    let bs := visible s scope.root station.inherited (site.location :: chain) station.dir
    Fares (levelsOfAll bs) room (passOverAll s scope active station bs log)
      (traverse s scope room active station log)

theorem isInside_of_find {path : String} {l : Location} {content : Content}
    (hf : s.find path = .ok ⟨l, content⟩) : log.isInside s path = log.ancestors.contains l := by
  simp [Log.isInside, hf]

theorem fares_writeEntry (active last : Bool) (hr : InStep s scope room)
    (hw : ∀ m, m ∈ log.ancestors ↔ m ∈ chain)
    {e : Listed} {b : Branch Unit}
    (hg : Grows s scope.root station.inherited chain station.dir e b) :
    Fares (levelsOf b) (room + 1) (passOver s scope active station last b log)
      (writeEntry s scope active station (traverse s scope room) last e log) := by
  cases hg with
  | @file name size =>
    refine ⟨fun _ => ?_, fun h => by simp [levelsOf] at h⟩
    by_cases h : (scope.readsAt active station.depth &&
        isEligible Language.allKinds scope.patterns (join station.dir name)) = true
    · have ht : ∀ t : Option SymbolTable, [t].filterMap id = t.toList := by rintro (_ | _) <;> rfl
      simp only [writeEntry, Bool.false_eq_true, if_false, h, if_true, writeTable_eq h, passOver,
        annotate, linesOf, notesOf, text_cons, ht]
    · simp [writeEntry, h, passOver, annotate, tableOf, linesOf, notesOf, text, describe,
        Tally.recordAll]
  | @loop name l names hf hl =>
    refine ⟨fun _ => ?_, fun h => by simp [levelsOf] at h⟩
    have hi : l ∈ log.ancestors := (hw l).mpr hl
    simp [writeEntry, isInside_of_find hf, hi, passOver, annotate, linesOf, notesOf, text,
      Tally.recordAll]
  | @folder name l names hf hl =>
    have hi : log.ancestors.contains l = false := by simpa [hw] using hl
    have h := hr (scope.descendsAt active station.depth)
      (station.next s (join station.dir name) (below station.indent last)) log chain _ hf hl hw
    constructor
    · intro hd
      simp only [writeEntry, if_true, isInside_of_find hf, hi, Bool.false_eq_true, if_false,
        h.fits (Nat.lt_of_succ_lt_succ hd)]
      simp [passOver, passOverAll, annotate, linesOf, notesOf, text_cons, Station.next]
    · intro hd
      obtain ⟨hn, ha⟩ := h.breaks (Nat.le_of_succ_le_succ hd)
      simp only [writeEntry, if_true, isInside_of_find hf, hi, Bool.false_eq_true, if_false, hn]
      exact ⟨rfl, ha⟩

theorem fares_writeAll (active : Bool) (hr : InStep s scope room)
    (hw : ∀ m, m ∈ log.ancestors ↔ m ∈ chain)
    {es : List Listed} {bs : List (Branch Unit)}
    (hg : List.Forall₂ (Grows s scope.root station.inherited chain station.dir) es bs) :
    Fares (levelsOfAll bs) (room + 1) (passOverAll s scope active station bs log)
      (writeAll (writeEntry s scope active station (traverse s scope room)) es log) := by
  induction hg generalizing log with
  | nil => exact ⟨fun _ => rfl, fun h => by simp [levelsOfAll] at h⟩
  | @cons e b es bs hb hs ih =>
    have hl : es.isEmpty = bs.isEmpty := by
      cases hs <;> rfl
    have he := fares_writeEntry active bs.isEmpty hr hw hb
    rw [levelsOfAll, writeAll, hl]
    by_cases hd : levelsOf b < room + 1
    · obtain ⟨head, hh⟩ : ∃ head, passOver s scope active station bs.isEmpty b log =
        (some head, (passOver s scope active station bs.isEmpty b log).2) := ⟨_, rfl⟩
      have hi := @ih (passOver s scope active station bs.isEmpty b log).2 hw
      rw [he.fits hd, hh]
      constructor
      · intro hm
        dsimp only
        rw [hi.fits (by omega)]
        exact (passOverAll_cons hh rfl).symm
      · intro hm
        obtain ⟨hn, ha⟩ := hi.breaks (by omega)
        dsimp only
        rw [hn]
        exact ⟨rfl, ha⟩
    · obtain ⟨hn, ha⟩ := he.breaks (Nat.not_lt.mp hd)
      refine ⟨fun hm => by omega, fun _ => ?_⟩
      rcases hr : writeEntry s scope active station (traverse s scope room) bs.isEmpty e log with
        ⟨_ | _, after⟩
      · rw [hr] at ha
        exact ⟨rfl, ha⟩
      · rw [hr] at hn
        cases hn

theorem leave_enter (log : Log) {l : Location} (hl : l ∉ log.ancestors) :
    (log.enter l).leave l = log := by
  simp [Log.leave, Log.enter, List.insert_of_not_mem hl]

theorem inStep (s : Storage) (scope : Scope) (room : Nat) : InStep s scope room := by
  induction room with
  | zero => exact fun active station log chain site _ _ _ => ⟨nofun, fun _ => ⟨rfl, rfl⟩⟩
  | succ room ih =>
    intro active station log chain site hf hl hw
    have hn : site.location ∉ log.ancestors := mt (hw _).mp hl
    simp only [traverse, hf]
    cases hns : s.names station.dir with
    | error f =>
      rw [listing_of_error hns, visible_of_error hns]
      refine ⟨fun _ => ?_, fun h => by simp [levelsOfAll, levelsOf] at h⟩
      simp [leave_enter log hn, passOverAll, annotateAll, annotate, linesOfAll, linesOf, notesOfAll,
        notesOf, text, Tally.recordAll]
    | ok names =>
      obtain ⟨es, hes, hg⟩ :=
        listing_of_names scope.root station.inherited (site.location :: chain) hns
      have he : ∀ m, m ∈ (log.enter site.location).ancestors ↔ m ∈ site.location :: chain := by
        simp [Log.enter, hw]
      have h := fares_writeAll active ih he hg
      generalize visible s scope.root station.inherited (site.location :: chain)
        station.dir = bs at h
      rw [hes]
      dsimp only
      constructor
      · intro hd
        have hp : passOverAll s scope active station bs (log.enter site.location) =
          ((passOverAll s scope active station bs log).1,
            (passOverAll s scope active station bs log).2.enter site.location) := rfl
        have hr := leave_enter (passOverAll s scope active station bs log).2 hn
        rw [h.fits hd, hp]
        dsimp only
        rw [hr]
      · intro hd
        obtain ⟨hno, ha⟩ := h.breaks hd
        have hb := congrArg Log.ancestors (leave_enter log hn)
        exact ⟨hno, (congrArg (List.erase · site.location) ha).trans hb⟩

/-! ## Whatever the room -/

/-- How many directories lie one inside the other below a station, itself left out. -/
def levelsBelow (s : Storage) (root : String) (station : Station) : Nat :=
  ((visibleBelow s root station.inherited station.dir).map levelsOfAll).getD 0

/-- A traversal comes to the text, the tables and the cabinet of a survey if there is room for the
directories below the station, and to nothing otherwise. It ends outside of all directories. -/
theorem traverse_eq_survey (s : Storage) (scope : Scope) (room : Nat) (station : Station)
    (c : Cabinet) :
    let found := survey s scope station c
    let result := traverse s scope room scope.analyze station { cabinet := c }
    (levelsBelow s scope.root station < room →
      result = (some found.1.text, ⟨[], found.1.tally, found.2⟩)) ∧
    (room ≤ levelsBelow s scope.root station → result.1 = none) ∧
    result.2.ancestors = [] := by
  unfold levelsBelow survey visibleBelow
  cases hf : s.find station.dir with
  | error cause =>
    cases room with
    | zero => exact ⟨nofun, fun _ => rfl, rfl⟩
    | succ room =>
      rw [traverse, hf]
      refine ⟨fun _ => ?_, nofun, rfl⟩
      simp [Findings.text, text, Tally.empty]
  | ok site =>
    have h := inStep s scope room scope.analyze station { cabinet := c } [] site hf
      List.not_mem_nil fun _ => Iff.rfl
    refine ⟨h.fits, fun hr => (h.breaks hr).1, ?_⟩
    by_cases hd : levelsOfAll (visible s scope.root station.inherited [site.location] station.dir) <
        room
    · exact congrArg (·.2.ancestors) (h.fits hd)
    · exact (h.breaks (Nat.not_lt.mp hd)).2

end Gazetteer.Survey

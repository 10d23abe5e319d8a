import Gazetteer.Listing
import Gazetteer.Proofs.Text.OneLine
import Mathlib.Algebra.GroupWithZero.Nat

/-! # Lines of listings

A listing of a table is made of the listings of its kinds, one after the other. If no name in the
table goes over several lines, the listing of a kind has a title and then the lines about its
symbols, in the order of the table, or it has no lines because there is nothing to list.
-/

namespace Gazetteer

open Text

/-! ## Tables on one line -/

structure Item.OneLine (i : Item) : Prop where
  name : Text.OneLine i.name
  asName : ∀ s ∈ i.asName, Text.OneLine s

structure SymbolTable.OneLine (t : SymbolTable) : Prop where
  functions : ∀ f ∈ t.functions, Text.OneLine f.name ∧ ∀ s ∈ f.owner, Text.OneLine s
  bindings : ∀ v ∈ t.bindings, Text.OneLine v.keyword ∧ Text.OneLine v.name
  classes : ∀ c ∈ t.classes, Text.OneLine c.name ∧ ∀ m ∈ c.methods, Text.OneLine m.name
  imports : ∀ i ∈ t.imports, Text.OneLine i.source ∧ ∀ item ∈ i.items, item.OneLine
  exports : ∀ e ∈ t.exports, (∀ s ∈ e.source, Text.OneLine s) ∧ ∀ item ∈ e.items, item.OneLine

namespace Listing

variable {t : SymbolTable} {k : SymbolKind} {indent line pad : String}

theorem oneLine_placeText (p : Position) : Text.OneLine (placeText p) := by
  have hp : placeText p =
      "[" ++ toString p.startLine ++ ":" ++ toString p.startColumn ++ "]" := rfl
  have hopen : Text.OneLine "[" := by decide
  rw [hp]
  exact (((hopen.append (oneLine_number _)).append (by decide)).append
    (oneLine_number _)).append (by decide)

theorem oneLine_optionalText {before after : String} {value : Option String}
    (hb : Text.OneLine before) (hv : ∀ s ∈ value, Text.OneLine s) (ha : Text.OneLine after) :
    Text.OneLine (optionalText before value after) := by
  unfold optionalText
  split
  · decide
  · decide
  · next s _ => exact (hb.append (hv s rfl)).append ha

theorem oneLine_itemsTail {items : List Item} (h : ∀ i ∈ items, i.OneLine) :
    Text.OneLine (itemsTail items) := by
  have hi : ∀ text ∈ items.map itemText, Text.OneLine text := by
    intro text ht
    obtain ⟨i, hm, rfl⟩ := List.mem_map.mp ht
    exact (h i hm).name.append (oneLine_optionalText (by decide) (h i hm).asName (by decide))
  have hc : Text.OneLine ": " := by decide
  unfold itemsTail
  split
  · decide
  · exact hc.append (OneLine.intercalate (by decide) hi)

theorem oneLine_of_mem_entryLines (h : t.OneLine) (hl : line ∈ entryLines t k) :
    Text.OneLine line := by
  have hd : Text.OneLine "- " := by decide
  have hs : Text.OneLine " " := by decide
  cases k with
  | functions =>
    obtain ⟨f, hf, rfl⟩ := List.mem_map.mp hl
    obtain ⟨hn, ho⟩ := h.functions f (List.mem_filter.mp hf).1
    exact (((hd.append hn).append (oneLine_optionalText (by decide) ho (by decide))).append
      hs).append (oneLine_placeText _)
  | bindings =>
    obtain ⟨v, hv, rfl⟩ := List.mem_map.mp hl
    obtain ⟨hk, hn⟩ := h.bindings v hv
    exact ((((hd.append hk).append hs).append hn).append hs).append (oneLine_placeText _)
  | classes =>
    obtain ⟨c, hc, hl⟩ := List.mem_flatMap.mp hl
    obtain ⟨hn, hm⟩ := h.classes c hc
    rcases List.mem_cons.mp hl with rfl | hl
    · exact ((hd.append hn).append hs).append (oneLine_placeText _)
    · split at hl
      · cases hl
      · rcases List.mem_cons.mp hl with rfl | hl
        · decide
        · obtain ⟨m, hq, rfl⟩ := List.mem_map.mp hl
          have hi : Text.OneLine ("  - " ++ if m.isStatic then "static " else "") := by
            cases m.isStatic <;> decide
          exact ((hi.append (hm m hq)).append hs).append (oneLine_placeText _)
  | imports =>
    obtain ⟨i, hi, rfl⟩ := List.mem_map.mp hl
    obtain ⟨hm, ht⟩ := h.imports i hi
    have hf : Text.OneLine "- from '" := by decide
    exact ((hf.append hm).append (by decide)).append (oneLine_itemsTail ht)
  | exports =>
    obtain ⟨e, he, rfl⟩ := List.mem_map.mp hl
    obtain ⟨hm, ht⟩ := h.exports e he
    have hx : Text.OneLine (if e.isDefault then "default export" else "export") := by
      cases e.isDefault <;> decide
    exact ((hd.append hx).append (oneLine_optionalText (by decide) hm (by decide))).append
      (oneLine_itemsTail ht)

theorem oneLine_of_mem_sectionLines (h : t.OneLine) (hl : line ∈ sectionLines t k) :
    Text.OneLine line := by
  unfold sectionLines at hl
  split at hl
  · cases hl
  · rcases List.mem_cons.mp hl with rfl | hl
    · cases k <;> decide
    · exact oneLine_of_mem_entryLines h hl

/-! ## How many lines -/

def symbolCount (t : SymbolTable) : SymbolKind → Nat
  | .functions => (t.functions.filter (·.name != anonymous)).length
  | .bindings => t.bindings.length
  | .classes => t.classes.length
  | .imports => t.imports.length
  | .exports => t.exports.length

/-- How many lines tell about the symbols of a kind. There is one for each symbol; for a class with
methods there is another one that announces them, and one for each method. -/
def lineCount (t : SymbolTable) : SymbolKind → Nat
  | .classes => (t.classes.map fun c => if c.methods = [] then 1 else 2 + c.methods.length).sum
  | k => symbolCount t k

theorem length_classLines (c : ClassEntry) :
    (classLines c).length = if c.methods = [] then 1 else 2 + c.methods.length := by
  cases hm : c.methods with
  | nil => simp [classLines, hm]
  | cons m methods => simp [classLines, hm]; omega

theorem length_entryLines (t : SymbolTable) (k : SymbolKind) :
    (entryLines t k).length = lineCount t k := by
  cases k with
  | functions => exact List.length_map ..
  | bindings => exact List.length_map ..
  | classes =>
    rw [entryLines, List.length_flatMap, lineCount]
    simp only [length_classLines]
  | imports => exact List.length_map ..
  | exports => exact List.length_map ..

theorem entryLines_eq_nil_iff : entryLines t k = [] ↔ symbolCount t k = 0 := by
  cases k with
  | functions => simp [entryLines, symbolCount, listedFunctions]
  | bindings => simp [entryLines, symbolCount]
  | classes =>
    simp only [entryLines, symbolCount, List.flatMap_eq_nil_iff, List.length_eq_zero_iff]
    constructor
    · intro h
      exact List.eq_nil_iff_forall_not_mem.mpr fun c hc => List.cons_ne_nil _ _ (h c hc)
    · intro h c hc
      rw [h] at hc
      exact absurd hc List.not_mem_nil
  | imports => simp [entryLines, symbolCount]
  | exports => simp [entryLines, symbolCount]

/-! ## Listings -/

theorem classBlock_append_newline (pad : String) (c : ClassEntry) :
    classBlock pad c ++ "\n" =
      String.join ((classLines c).map fun line => pad ++ line ++ "\n") := by
  unfold classBlock classLines
  by_cases hm : c.methods = []
  · simp [hm]
  · have hi := Text.intercalate_append_sep "\n"
      (mt List.map_eq_nil_iff.mp hm : (c.methods.map fun m => pad ++ methodLine m) ≠ [])
    have hw : "  Methods:\n" = "  Methods:" ++ "\n" := by decide
    simp only [List.isEmpty_iff, hm, if_false, String.append_assoc, hw, hi, List.map_cons,
      List.map_map, String.join_cons, Function.comp_def]

theorem blocks_eq_nil_iff : blocks t pad k = [] ↔ entryLines t k = [] := by
  cases k with
  | classes =>
    cases h : t.classes <;> simp [blocks, entryLines, classLines, h]
  | _ => simp [blocks, entryLines]

theorem join_blocks (t : SymbolTable) (pad : String) (k : SymbolKind) :
    String.join ((blocks t pad k).map (· ++ "\n")) =
      String.join ((entryLines t k).map fun line => pad ++ line ++ "\n") := by
  cases k with
  | classes =>
    rw [blocks, entryLines, List.map_map, List.map_flatMap, Text.join_flatMap]
    congr 2
    exact funext fun c => classBlock_append_newline pad c
  | _ => rw [blocks, entryLines, List.map_map, List.map_map]; rfl

theorem sectionText_eq (t : SymbolTable) (pad : String) (k : SymbolKind) :
    sectionText t pad k =
      String.join ((sectionLines t k).map fun line => pad ++ line ++ "\n") := by
  unfold sectionText sectionLines
  by_cases he : entryLines t k = []
  · simp [he, blocks_eq_nil_iff.mpr he]
  · have hb : blocks t pad k ≠ [] := mt blocks_eq_nil_iff.mp he
    have hj := (Text.intercalate_append_sep _ hb).trans (join_blocks t pad k)
    rw [if_neg (by simpa using hb), if_neg (by simpa using he), List.map_cons, String.join_cons,
      ← hj]
    exact String.append_assoc

/-- A listing is made of its lines. -/
theorem text_eq_join_lines (t : SymbolTable) (kinds : List SymbolKind) (indent : String) :
    text t kinds indent = String.join (lines t kinds indent) := by
  rw [text, lines, List.map_flatMap, Text.join_flatMap]
  exact congrArg String.join (List.map_congr_left fun k _ => sectionText_eq t _ k)

theorem selectedBy_name (k : SymbolKind) : SymbolKind.selectedBy k.name = [k] := by
  cases k <;> decide

theorem text_append (ks ls : List SymbolKind) :
    text t (ks ++ ls) indent = text t ks indent ++ text t ls indent := by
  simp [text]

theorem lined_text_single (h : t.OneLine) (k : SymbolKind) (indent : String) :
    Lined (margin indent) (text t [k] indent) (sectionLines t k) where
  text_eq := by rw [text_eq_join_lines, lines, List.flatMap_singleton]
  oneLine := fun _ => oneLine_of_mem_sectionLines h

theorem text_single_eq_empty_iff : text t [k] indent = "" ↔ symbolCount t k = 0 := by
  rw [← entryLines_eq_nil_iff, text_eq_join_lines, lines, List.flatMap_singleton, sectionLines]
  by_cases he : entryLines t k = []
  · simp [he]
  · simp [he]

/-- All kinds are listed one after the other. The listing of a kind is empty if there is nothing to
list. Otherwise, if the texts of the table are on one line each, it is made of a title and the lines
about the symbols, in the order of the table, and in no other way of lines behind the margin. -/
theorem listing_lines (t : SymbolTable) (indent : String) :
    let listing (word : String) := text t (SymbolKind.selectedBy word) indent
    listing "all" = listing "functions" ++ listing "variables" ++ listing "classes" ++
      listing "imports" ++ listing "exports" ∧
    (∀ k : SymbolKind, listing k.name = "" ↔ symbolCount t k = 0) ∧
    (t.OneLine → ∀ k : SymbolKind, symbolCount t k ≠ 0 →
      (entryLines t k).length = lineCount t k ∧
      (∀ ls, Lined (indent ++ "    ") (listing k.name) ls ↔ ls = k.title :: entryLines t k) ∧
      (Text.OneLine indent → splitAt '\n' (listing k.name).toList =
        (k.title :: entryLines t k).map (fun l => (indent ++ "    " ++ l).toList) ++ [[]])) := by
  intro listing
  have hk : ∀ k : SymbolKind, listing k.name = text t [k] indent := fun k => by
    rw [← selectedBy_name]
  refine ⟨?_, fun k => ?_, fun h k hc => ?_⟩
  · have ha : SymbolKind.selectedBy "all" = SymbolKind.selectedBy "functions" ++
        SymbolKind.selectedBy "variables" ++ SymbolKind.selectedBy "classes" ++
        SymbolKind.selectedBy "imports" ++ SymbolKind.selectedBy "exports" := by decide
    simp only [listing, ha, text_append]
  · rw [hk]
    exact text_single_eq_empty_iff
  · have hs : sectionLines t k = k.title :: entryLines t k :=
      if_neg (by simpa [entryLines_eq_nil_iff] using hc)
    have hl : Lined (margin indent) (listing k.name) (k.title :: entryLines t k) := by
      rw [hk, ← hs]
      exact lined_text_single h k indent
    refine ⟨length_entryLines t k, fun ls => ⟨fun hls => hls.unique hl, ?_⟩, fun hi => ?_⟩
    · rintro rfl
      exact hl
    · exact hl.splitAt_eq (hi.append (by decide))

def boxTable : SymbolTable :=
  .make "/p/box.js" "javascript" [⟨anonymous, ⟨7, 0, 7, 8⟩, "() => {}", none⟩] []
    [⟨"Box", ⟨1, 0, 3, 1⟩, "class Box { open() {} }", [⟨"open", ⟨2, 2, 2, 11⟩, true, "open() {}"⟩]⟩]
    [] [] 2

theorem listing_lines_boxTable :
    boxTable.OneLine ∧ Text.OneLine "│   " ∧
      symbolCount boxTable .functions = 0 ∧
      text boxTable (SymbolKind.selectedBy "functions") "│   " = "" ∧
      symbolCount boxTable .classes ≠ 0 ∧
      (entryLines boxTable .classes).length = 3 ∧
      splitAt '\n' (text boxTable (SymbolKind.selectedBy "classes") "│   ").toList =
        ["│       Classes:", "│       - Box [1:0]", "│         Methods:",
          "│         - static open [2:2]", ""].map String.toList := by
  have ht : boxTable.OneLine := {
    functions := by decide
    bindings := by decide
    classes := by decide
    imports := nofun
    exports := nofun }
  have hi : Text.OneLine "│   " := by decide
  have hf : symbolCount boxTable .functions = 0 := by decide
  have hc : symbolCount boxTable .classes ≠ 0 := by decide
  obtain ⟨-, he, hl⟩ := listing_lines boxTable "│   "
  obtain ⟨hn, -, hs⟩ := hl ht .classes hc
  exact ⟨ht, hi, hf, (he .functions).mpr hf, hc, hn.trans (by decide), (hs hi).trans (by decide)⟩

end Listing

end Gazetteer

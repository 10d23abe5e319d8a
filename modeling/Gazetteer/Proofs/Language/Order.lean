import Gazetteer.Proofs.JavaScript.Order
import Gazetteer.Proofs.Language.Positions
import Gazetteer.Proofs.Python.Order

/-! # Order and bounds of a symbol table

Each list of a table is in source order if the spans of the tree are nested, and every position lies
within the text. Counting characters in place of bytes changes neither.
-/

namespace Gazetteer

/-- Each list of the table, the methods of a class among them, is in the order of a relation between
the positions of its entries. -/
structure SymbolTable.Ordered (t : SymbolTable) (r : Position → Position → Prop) : Prop where
  functions : t.functions.Pairwise fun e e' => r e.position e'.position
  bindings : t.bindings.Pairwise fun e e' => r e.position e'.position
  classes : t.classes.Pairwise fun e e' => r e.position e'.position
  methods : ∀ e ∈ t.classes, e.methods.Pairwise fun m m' => r m.position m'.position
  imports : t.imports.Pairwise fun e e' => r e.position e'.position
  exports : t.exports.Pairwise fun e e' => r e.position e'.position

theorem SymbolTable.Ordered.mapPositions {t : SymbolTable} {r : Position → Position → Prop}
    {f : Position → Position} (h : t.Ordered r) (hf : ∀ p q, r p q → r (f p) (f q)) :
    (t.mapPositions f).Ordered r where
  functions := List.pairwise_map.mpr (h.functions.imp fun hr => hf _ _ hr)
  bindings := List.pairwise_map.mpr (h.bindings.imp fun hr => hf _ _ hr)
  classes := List.pairwise_map.mpr (h.classes.imp fun hr => hf _ _ hr)
  methods := by
    intro _ he
    obtain ⟨e, hm, rfl⟩ := List.mem_map.mp he
    exact List.pairwise_map.mpr ((h.methods e hm).imp fun hr => hf _ _ hr)
  imports := List.pairwise_map.mpr (h.imports.imp fun hr => hf _ _ hr)
  exports := List.pairwise_map.mpr (h.exports.imp fun hr => hf _ _ hr)

namespace Language

variable {l : Language} {path : String} {src : Source} {root : Node}

theorem precedes_functions (h : root.WellNested) (l : Language) (src : Source) :
    (l.functions src root).Pairwise fun e e' => e.position.Precedes e'.position := by
  refine List.pairwise_map.mpr (List.Pairwise.filter _ ?_)
  cases l with
  | javascript => exact JavaScript.precedes_candidates h src
  | python => exact Python.precedes_candidates h src

theorem ordered_collect (h : root.WellNested) :
    (l.collect path src root).Ordered Position.Precedes where
  functions := precedes_functions h l src
  bindings := by
    cases l with
    | javascript => exact JavaScript.precedes_bindings h src
    | python => exact Python.precedes_bindings h src
  classes := by
    cases l with
    | javascript => exact JavaScript.precedes_classes h src
    | python => exact Python.precedes_classes h src
  methods := by
    cases l with
    | javascript => exact fun _ => JavaScript.precedes_methods h
    | python => exact fun _ => Python.precedes_methods h
  imports := by
    cases l with
    | javascript => exact JavaScript.precedes_imports h src
    | python => exact Python.precedes_imports h src
  exports := by
    cases l with
    | javascript => exact JavaScript.precedes_exports h src
    | python => exact Python.precedes_exports h src

/-- The lists of a table are in source order, and every position lies within the text, if the spans
of the tree are nested. The lines whose characters are counted are lines of the text. -/
theorem table_in_source_order (l : Language) (path text : String) {root : Node}
    (h : root.WellNested) :
    let src := Source.ofString text
    (l.tabulate path src root).Ordered Position.Precedes ∧
      ((l.tabulate path src root).Relates fun position _ => position.Within text) ∧
      (l.collect path src root).Relates fun position _ =>
        position.startLine - 1 < src.lines.length ∧ position.endLine - 1 < src.lines.length := by
  refine ⟨ordered_collect h |>.mapPositions fun _ _ => Source.precedes_inCharacters, ?_, ?_⟩
  · refine relates_collect.mapPositions ?_
    rintro _ _ ⟨n, hn, rfl, rfl⟩
    exact Source.within_inCharacters_position text (h n hn).start_le_stop
  · refine relates_collect.imp ?_
    rintro _ _ ⟨n, -, rfl, rfl⟩
    exact ⟨Source.row_lt_length_lines _ n.start, Source.row_lt_length_lines _ n.stop⟩

/-- The tree of a class after an import of two modules, over `import é, b⏎class C:⏎  def f(): 0`. -/
def importingTree : Node :=
  ⟨"module", true, none, 0, 34,
    [⟨"import_statement", true, none, 0, 12,
      [⟨"import", false, none, 0, 6, []⟩, ⟨"dotted_name", true, some "name", 7, 9, []⟩,
        ⟨",", false, none, 9, 10, []⟩, ⟨"dotted_name", true, some "name", 11, 12, []⟩]⟩,
     ⟨"class_definition", true, none, 13, 34,
      [⟨"class", false, none, 13, 18, []⟩, ⟨"identifier", true, some "name", 19, 20, []⟩,
        ⟨":", false, none, 20, 21, []⟩,
        ⟨"block", true, some "body", 24, 34,
          [⟨"function_definition", true, none, 24, 34,
            [⟨"def", false, none, 24, 27, []⟩, ⟨"identifier", true, some "name", 28, 29, []⟩,
              ⟨"parameters", true, some "parameters", 29, 31, []⟩, ⟨":", false, none, 31, 32, []⟩,
              ⟨"block", true, some "body", 33, 34, []⟩]⟩]⟩]⟩]⟩

theorem table_in_source_order_of_importingTree :
    let text := "import é, b\nclass C:\n  def f(): 0"
    let src := Source.ofString text
    let t := python.tabulate "m.py" src importingTree
    importingTree.WellNested ∧
      t.Ordered Position.Precedes ∧
      (t.Relates fun position _ => position.Within text) ∧
      ((python.collect "m.py" src importingTree).Relates fun position _ =>
        position.startLine - 1 < src.lines.length ∧ position.endLine - 1 < src.lines.length) ∧
      t.imports.map (·.position) = [⟨1, 0, 1, 11⟩, ⟨1, 0, 1, 11⟩] ∧
      t.classes.map (·.position) = [⟨2, 0, 3, 12⟩] := by
  have h : importingTree.WellNested := by decide +kernel
  obtain ⟨ho, hw, hl⟩ := table_in_source_order python "m.py" "import é, b\nclass C:\n  def f(): 0" h
  exact ⟨h, ho, hw, hl, by decide +kernel, by decide +kernel⟩

end Language

end Gazetteer

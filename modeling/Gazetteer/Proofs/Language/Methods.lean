import Gazetteer.Proofs.Language.Owners
import Mathlib.Data.List.Flatten
import Mathlib.Data.List.Perm.Basic

/-! # Methods

The reading of classes looks for methods downwards from a class, and the reading of functions looks
for the class upwards from a method. Both find the same methods.
-/

namespace Gazetteer

def MethodEntry.ownedBy (owner : String) (m : MethodEntry) : FunctionEntry where
  name := m.name
  position := m.position
  code := m.code
  owner := some owner

def ClassEntry.functions (cls : ClassEntry) : List FunctionEntry :=
  cls.methods.map (·.ownedBy cls.name)

def SymbolTable.methods (t : SymbolTable) : List FunctionEntry :=
  t.classes.flatMap ClassEntry.functions

namespace Language

variable {l : Language} {src : Source} {root n cls : Node} {s : Place}

/-! ## Downwards -/

def defined? (l : Language) (n : Node) : Option Node :=
  if n.kind ∈ l.wrapperKinds then n.child? "definition" else some n

def methodsIn (l : Language) (src : Source) (cls : Node) : List FunctionEntry :=
  (cls.child? "body").toList.flatMap fun body => body.children.flatMap fun m =>
    ((l.defined? m).bind (l.methodNote? src (some cls))).toList

def methodOf? : Language → Source → Node → Option MethodEntry
  | javascript => JavaScript.methodOf?
  | python => Python.methodOf?

def classOf? : Language → Source → Node → Option ClassEntry
  | javascript => JavaScript.classOf?
  | python => Python.classOf?

theorem classes_eq (l : Language) (src : Source) (root : Node) :
    l.classes src root =
      ((Place.root root).below.filter (Place.isNamedOf [l.classKind])).filterMap
        fun p => l.classOf? src p.node := by
  rw [← Place.descendants_eq_filter]
  cases l <;> rfl

theorem map_functions_classOf? (l : Language) (src : Source) (cls : Node) :
    (l.classOf? src cls).map ClassEntry.functions =
      (cls.childName? src "name").map fun owner =>
        (((cls.child? "body").elim [] Node.namedChildren).filterMap (l.methodOf? src)).map
          (·.ownedBy owner) := by
  cases l <;> exact Option.map_map ..

theorem map_ownedBy_methodOf? {owner : String} (ho : cls.childName? src "name" = some owner) :
    (l.methodOf? src n).map (·.ownedBy owner) =
      (l.defined? n).bind (l.methodNote? src (some cls)) := by
  cases l with
  | javascript =>
    by_cases hk : n.kind = "method_definition" <;>
      simp [methodOf?, JavaScript.methodOf?, defined?, wrapperKinds, methodNote?, methodKind, hk,
        ho, MethodEntry.ownedBy, Function.comp_def]
  | python =>
    by_cases hk : n.kind = "decorated_definition"
    · cases hd : n.child? "definition" with
      | none =>
        simp [methodOf?, Python.methodOf?, Python.definition, defined?, wrapperKinds, hk, hd]
      | some d =>
        by_cases hf : d.kind = "function_definition" <;>
          simp [methodOf?, Python.methodOf?, Python.definition, defined?, wrapperKinds, hk, hd,
            methodNote?, methodKind, hf, ho, MethodEntry.ownedBy, Function.comp_def,
            Option.filter_some]
    · by_cases hf : n.kind = "function_definition" <;>
        simp [methodOf?, Python.methodOf?, Python.definition, defined?, wrapperKinds, hk,
          methodNote?, methodKind, hf, ho, MethodEntry.ownedBy, Function.comp_def,
          Option.filter_some]

theorem bind_methodNote?_eq_none (h : n.kind ∉ l.methodKind :: l.wrapperKinds)
    (cls? : Option Node) : (l.defined? n).bind (l.methodNote? src cls?) = none := by
  simp only [List.mem_cons, not_or] at h
  rw [defined?, if_neg h.2, Option.bind_some, methodNote?, if_neg h.1]

theorem functions_classOf? (hnamed : ∀ body, cls.child? "body" = some body → ∀ m ∈ body.children,
      m.kind ∈ l.methodKind :: l.wrapperKinds → m.named = true) :
    (l.classOf? src cls).toList.flatMap ClassEntry.functions = l.methodsIn src cls := by
  have hmap := map_functions_classOf? l src cls
  cases ho : cls.childName? src "name" with
  | none =>
    rw [ho, Option.map_none, Option.map_eq_none_iff] at hmap
    have hentry (n : Node) : l.methodNote? src (some cls) n = none := by simp [methodNote?, ho]
    simp [hmap, methodsIn, hentry]
  | some owner =>
    rw [ho, Option.map_some, Option.map_eq_some_iff] at hmap
    obtain ⟨c, hc, hf⟩ := hmap
    rw [hc, Option.toList_some, List.flatMap_singleton, hf, methodsIn]
    cases hb : cls.child? "body" with
    | none => rfl
    | some body =>
      rw [Option.elim_some, Option.toList_some, List.flatMap_singleton, List.map_filterMap,
        Node.namedChildren, List.filterMap_filter, List.filterMap_eq_flatMap_toList]
      refine List.flatMap_congr fun m hm => congrArg _ ?_
      by_cases hk : m.kind ∈ l.methodKind :: l.wrapperKinds
      · rw [if_pos (hnamed body hb m hm hk), map_ownedBy_methodOf? ho]
      · rw [map_ownedBy_methodOf? ho, bind_methodNote?_eq_none hk, ite_self]

/-! ## Both ways -/

/-- What is noted about a definition that is wrapped. -/
def wrappedNote? (l : Language) (src : Source) (p : Place) : Option FunctionEntry :=
  p.parent?.bind fun q =>
    if q.node.kind ∈ l.wrapperKinds then l.methodNote? src (l.classAbove? q) p.node else none

/-- What is noted about a statement that is a definition or wraps one. -/
def statementNotes (l : Language) (src : Source) (s : Place) : List FunctionEntry :=
  (l.methodNote? src (l.classAbove? s) s.node).toList ++
    s.children.flatMap fun p => (l.wrappedNote? src p).toList

theorem methodNote?_none (l : Language) (src : Source) (n : Node) :
    l.methodNote? src none n = none := by
  simp [methodNote?]

theorem toList_methodNote?_definingClass (p : Place) :
    (l.methodNote? src (l.definingClass? p) p.node).toList =
      (l.methodNote? src (l.classAbove? p) p.node).toList ++
        (l.wrappedNote? src p).toList := by
  obtain ⟨n, above⟩ := p
  cases above with
  | nil => simp [definingClass?, wrappedNote?, Place.parent?, classAbove?, methodNote?_none]
  | cons q above =>
    by_cases hq : q.kind ∈ l.wrapperKinds
    · have hb : q.kind ≠ l.bodyKind := fun h => bodyKind_notMem_wrapperKinds l (h ▸ hq)
      have hn : l.classAbove? ⟨n, q :: above⟩ = none := by cases above <;> simp [classAbove?, hb]
      simp [definingClass?, wrappedNote?, Place.parent?, hq, hn, methodNote?_none]
    · simp [definingClass?, wrappedNote?, Place.parent?, hq]

theorem statementNotes_eq (hdef : s.node.kind ∈ l.wrapperKinds →
      s.node.children.filter (l.definitionKinds.contains ·.kind) =
        (s.node.child? "definition").toList) :
    l.statementNotes src s =
      ((l.defined? s.node).bind (l.methodNote? src (l.classAbove? s))).toList := by
  by_cases hw : s.node.kind ∈ l.wrapperKinds
  · have hk : s.node.kind ≠ l.methodKind := fun h => methodKind_notMem_wrapperKinds l (h ▸ hw)
    have hnone : l.methodNote? src (l.classAbove? s) s.node = none := if_neg hk
    have hd (m : Node) : (if l.definitionKinds.contains m.kind then
        l.methodNote? src (l.classAbove? s) m else none) =
          l.methodNote? src (l.classAbove? s) m := by
      by_cases hm : m.kind = l.methodKind
      · simp [definitionKinds, hm]
      · simp [methodNote?, hm]
    calc l.statementNotes src s
      _ = s.node.children.filterMap (l.methodNote? src (l.classAbove? s)) := by
        rw [statementNotes, hnone, Option.toList_none, List.nil_append, Place.children,
          List.flatMap_map, List.filterMap_eq_flatMap_toList]
        simp [wrappedNote?, Place.parent?, hw]
      _ = (s.node.child? "definition").toList.filterMap
          (l.methodNote? src (l.classAbove? s)) := by
        rw [← hdef hw, List.filterMap_filter]
        exact (List.filterMap_congr fun m _ => hd m).symm
      _ = ((l.defined? s.node).bind (l.methodNote? src (l.classAbove? s))).toList := by
        rw [defined?, if_pos hw]
        cases s.node.child? "definition" <;> simp [List.filterMap_eq_flatMap_toList]
  · simp [statementNotes, defined?, wrappedNote?, Place.parent?, Place.children, hw,
      List.flatMap_map]

theorem statementNotes_eq_nil (h : l.classAbove? s = none) : l.statementNotes src s = [] := by
  simp [statementNotes, wrappedNote?, Place.children, Place.parent?, h, methodNote?_none]

theorem flatMap_filter {α β : Type} (q : α → Bool) (f : α → List β) (as : List α) :
    (as.filter q).flatMap f = as.flatMap fun a => if q a then f a else [] := by
  induction as with
  | nil => rfl
  | cons a as ih =>
    rw [List.filter_cons, List.flatMap_cons, ← ih]
    split <;> rfl

theorem flatMap_statementNotes {namedKinds : List String} (h : l.Forms namedKinds root)
    {c : Place} (hc : c.node ∈ root.nodes) :
    (c.children.flatMap fun b => b.children.flatMap (l.statementNotes src)) =
      if c.node.kind = l.classKind then l.methodsIn src c.node else [] := by
  have hbody (b : Node) (hb : b ∈ c.node.children) :
      (Place.children ⟨b, c.node :: c.above⟩).flatMap (l.statementNotes src) =
        if b.kind = l.bodyKind ∧ c.node.kind = l.classKind then
          b.children.flatMap fun m =>
            ((l.defined? m).bind (l.methodNote? src (some c.node))).toList
        else [] := by
    rw [Place.children, List.flatMap_map]
    split
    next hk =>
      refine List.flatMap_congr fun m hm => ?_
      have hm : m ∈ root.nodes :=
        Node.mem_nodes_of_mem_children (Node.mem_nodes_of_mem_children hc hb) hm
      rw [statementNotes_eq (h.definition m hm), classAbove?_cons, if_pos hk]
    next hk =>
      exact List.flatMap_eq_nil_iff.mpr fun m _ =>
        statementNotes_eq_nil (by rw [classAbove?_cons, if_neg hk])
  rw [Place.children, List.flatMap_map, List.flatMap_congr hbody]
  by_cases hk : c.node.kind = l.classKind
  · rw [if_pos hk, methodsIn, ← h.body c.node hc hk, flatMap_filter]
    simp [hk]
  · simp [hk]

/-- The methods that are met below the root are those that are noted from the classes below it. -/
theorem flatMap_methodNote?_perm {namedKinds : List String} (h : l.Forms namedKinds root) :
    ((Place.root root).below.flatMap fun p =>
        (l.methodNote? src (l.definingClass? p) p.node).toList).Perm
      ((Place.root root).below.flatMap fun c =>
        if c.node.kind = l.classKind then l.methodsIn src c.node else []) := by
  have hwrapped : ((Place.root root).children.flatMap fun p => (l.wrappedNote? src p).toList) =
      [] := by
    simp [Place.root, Place.children, wrappedNote?, Place.parent?, classAbove?, methodNote?_none]
  have hstatements : (Place.root root).children.flatMap (l.statementNotes src) = [] := by
    refine List.flatMap_eq_nil_iff.mpr fun s hs => statementNotes_eq_nil ?_
    obtain ⟨n, -, rfl⟩ := List.mem_map.mp hs
    rfl
  have hroot : ((Place.root root).children.flatMap fun b =>
      b.children.flatMap (l.statementNotes src)) = [] := by
    rw [flatMap_statementNotes h (Node.mem_nodes_self root), if_neg]
    exact h.root_kind ▸ classKind_ne_rootKind l
  calc (Place.root root).below.flatMap fun p =>
        (l.methodNote? src (l.definingClass? p) p.node).toList
    _ = (Place.root root).below.flatMap fun p =>
          (l.methodNote? src (l.classAbove? p) p.node).toList ++
            (l.wrappedNote? src p).toList :=
      List.flatMap_congr fun p _ => toList_methodNote?_definingClass p
    _ |>.Perm (((Place.root root).below.flatMap fun p =>
            (l.methodNote? src (l.classAbove? p) p.node).toList) ++
          (Place.root root).below.flatMap fun p => (l.wrappedNote? src p).toList) :=
      (List.flatMap_append_perm ..).symm
    _ |>.Perm (((Place.root root).below.flatMap fun p =>
            (l.methodNote? src (l.classAbove? p) p.node).toList) ++
          (Place.root root).below.flatMap fun s => s.children.flatMap fun p =>
            (l.wrappedNote? src p).toList) :=
      (Place.flatMap_below_perm hwrapped).append_left _
    _ |>.Perm ((Place.root root).below.flatMap (l.statementNotes src)) :=
      List.flatMap_append_perm ..
    _ |>.Perm ((Place.root root).below.flatMap fun b =>
          b.children.flatMap (l.statementNotes src)) :=
      Place.flatMap_below_perm hstatements
    _ |>.Perm ((Place.root root).below.flatMap fun c => c.children.flatMap fun b =>
          b.children.flatMap (l.statementNotes src)) :=
      Place.flatMap_below_perm hroot
    _ = (Place.root root).below.flatMap fun c =>
          if c.node.kind = l.classKind then l.methodsIn src c.node else [] :=
      List.flatMap_congr fun c hc =>
        flatMap_statementNotes h (Place.mem_nodes_of_mem_below hc)

/-! ## Tables -/

/-- The functions with a name that are met in the body of a class with a name. -/
def ownedCandidates (l : Language) (src : Source) (root : Node) : List Candidate :=
  (l.candidates src root).filter (l.isOwned src ·.place)

/-- The methods among them. -/
def methodCandidates (l : Language) (src : Source) (root : Node) : List Candidate :=
  (l.ownedCandidates src root).filter (·.place.node.kind == l.methodKind)

theorem map_entry_methodCandidates (src : Source)
    (hnamed : ∀ n ∈ root.nodes, n.kind = l.methodKind → n.named = true) :
    (l.methodCandidates src root).map (·.entry) =
      (Place.root root).below.flatMap fun p =>
        (l.methodNote? src (l.definingClass? p) p.node).toList := by
  rw [methodCandidates, ownedCandidates, candidates_eq, List.filter_filter, List.filter_map,
    List.map_map, List.filter_filter, ← List.filterMap_eq_map, List.filterMap_filter,
    ← List.filterMap_eq_flatMap_toList]
  refine List.filterMap_congr fun p hp => ?_
  rw [methodNote?_definingClass (hnamed p.node (Place.mem_nodes_of_mem_below hp))]
  simp [candidate_place]

theorem flatMap_functions_classes
    (hnamed : ∀ n ∈ root.nodes, n.kind ∈ l.classKind :: l.methodKind :: l.wrapperKinds →
      n.named = true) :
    (l.classes src root).flatMap ClassEntry.functions =
      (Place.root root).below.flatMap fun c =>
        if c.node.kind = l.classKind then l.methodsIn src c.node else [] := by
  rw [classes_eq, List.filterMap_eq_flatMap_toList, List.flatMap_assoc, flatMap_filter]
  refine List.flatMap_congr fun c hc => ?_
  have hc := Place.mem_nodes_of_mem_below hc
  by_cases hk : c.node.kind = l.classKind
  · have hn : c.isNamedOf [l.classKind] = true := by
      simp [Place.isNamedOf, hk, hnamed c.node hc (hk ▸ List.mem_cons_self)]
    rw [if_pos hn, if_pos hk]
    refine functions_classOf? fun body hb m hm hmk => hnamed m ?_ (List.mem_cons_of_mem _ hmk)
    exact Node.mem_nodes_of_mem_children (Node.mem_nodes_of_child? hc hb) hm
  · simp [Place.isNamedOf, hk]

theorem isSignificant_of_mem_methodCandidates {c : Candidate}
    (hc : c ∈ l.methodCandidates src root) (hn : c.entry.name ≠ anonymous) :
    isSignificant l.inlineKinds src c = true := by
  obtain ⟨hc, hk⟩ := List.mem_filter.mp hc
  obtain ⟨-, ho⟩ := List.mem_filter.mp hc
  have hk : c.place.node.kind = l.methodKind := by simpa using hk
  obtain ⟨cls, hcls, -⟩ := Option.any_eq_true .. |>.mp (Bool.and_eq_true_iff.mp ho).2
  obtain ⟨q, hq, hqk⟩ := parent_of_definingClass hcls
  exact isSignificant_of_named (hk ▸ methodKind_notMem_inlineKinds l)
    (fun _ => Significance.not_handedTo hq (kind_notMem_callKinds hqk)) hn

/-- The methods listed under the classes of a table are those that are met in the body of a class,
each with its name, position and code and with the name of the class. A method with a name of its
own is listed among the functions as well. -/
theorem methods_perm_methodCandidates (l : Language) (path : String) (src : Source)
    (h : l.Forms (l.classKind :: l.methodKind :: l.wrapperKinds) root) :
    let t := l.tabulate path src root
    let listed (c : Candidate) : FunctionEntry :=
      { c.entry with position := src.inCharacters c.entry.position }
    t.methods.Perm ((l.methodCandidates src root).map listed) ∧
      ∀ c ∈ l.methodCandidates src root, c.entry.name ≠ anonymous → listed c ∈ t.functions := by
  intro t listed
  let shift (e : FunctionEntry) : FunctionEntry :=
    { e with position := src.inCharacters e.position }
  refine ⟨?_, fun c hc hn => ?_⟩
  · have hfound := map_entry_methodCandidates src fun n hn hk =>
      h.named n hn (hk ▸ List.mem_cons_of_mem _ List.mem_cons_self)
    have hshift : t.methods =
        ((l.classes src root).flatMap ClassEntry.functions).map shift := by
      simp [t, shift, SymbolTable.methods, tabulate, collect, SymbolTable.make,
        SymbolTable.mapPositions, List.map_flatMap, List.flatMap_map, ClassEntry.functions,
        MethodEntry.ownedBy, Function.comp_def]
    calc t.methods
      _ = ((Place.root root).below.flatMap fun c =>
            if c.node.kind = l.classKind then l.methodsIn src c.node else []).map shift := by
        rw [hshift, flatMap_functions_classes h.named]
      _ |>.Perm (((Place.root root).below.flatMap fun p =>
            (l.methodNote? src (l.definingClass? p) p.node).toList).map shift) :=
        (flatMap_methodNote?_perm h).symm.map shift
      _ = (l.methodCandidates src root).map listed := by
        rw [← hfound, List.map_map]
        rfl
  · refine List.mem_map.mpr ⟨c.entry, List.mem_map_of_mem (List.mem_filter.mpr ⟨?_, ?_⟩), rfl⟩
    · exact (List.mem_filter.mp (List.mem_filter.mp hc).1).1
    · exact isSignificant_of_mem_methodCandidates hc hn

/-- The tree of a class with the name at 6 and a single member. -/
def classTree (l : Language) (start stop : Nat) (member : Node) : Node :=
  ⟨l.rootKind, true, none, 0, stop,
    [⟨l.classKind, true, none, 0, stop,
      [⟨"identifier", true, some "name", 6, 7, []⟩,
        ⟨l.bodyKind, true, some "body", start, stop, [member]⟩]⟩]⟩

/-- The member of `class C:⏎  @d⏎  def f(): 0`, named or not. -/
def decoratedMember (named : Bool) : Node :=
  ⟨"decorated_definition", named, none, 11, 26,
    [⟨"decorator", true, none, 11, 13, []⟩,
      ⟨"function_definition", true, some "definition", 16, 26,
        [⟨"identifier", true, some "name", 20, 21, []⟩,
          ⟨"parameters", true, some "parameters", 21, 23, []⟩,
          ⟨"block", true, some "body", 25, 26, []⟩]⟩]⟩

theorem forms_of_decoratedMember {namedKinds : List String} {named : Bool}
    (h : named = false → "decorated_definition" ∉ namedKinds) :
    python.Forms namedKinds (classTree python 11 26 (decoratedMember named)) where
  root_kind := rfl
  named := by
    cases named <;> simp_all [classTree, decoratedMember, Node.nodes, Node.nodesAll]
  body := by
    simp [classTree, decoratedMember, Node.nodes, Node.nodesAll, Node.child?, classKind, rootKind,
      bodyKind]
  definition := by
    simp [classTree, decoratedMember, Node.nodes, Node.nodesAll, Node.child?, classKind, rootKind,
      bodyKind, wrapperKinds, definitionKinds, methodKind]

theorem methods_perm_methodCandidates_of_decoratedMember :
    let src := Source.ofString "class C:\n  @d\n  def f(): 0"
    let root := classTree python 11 26 (decoratedMember true)
    let entry : FunctionEntry :=
      { name := "f", position := ⟨3, 2, 3, 12⟩, code := "def f(): 0", owner := some "C" }
    python.Forms (python.classKind :: python.methodKind :: python.wrapperKinds) root ∧
      (python.tabulate "m.py" src root).methods = [entry] ∧
      entry ∈ (python.tabulate "m.py" src root).functions := by
  intro src root entry
  have h : python.Forms (python.classKind :: python.methodKind :: python.wrapperKinds) root :=
    forms_of_decoratedMember (by simp)
  obtain ⟨hp, hf⟩ := methods_perm_methodCandidates python "m.py" src h
  have hc : (python.methodCandidates src root).map (·.entry.name) = ["f"] := by decide +kernel
  have hl : ((python.methodCandidates src root).map fun c =>
      { c.entry with position := src.inCharacters c.entry.position }) = [entry] := by
    decide +kernel
  rw [hl] at hp
  refine ⟨h, hp.eq_singleton, ?_⟩
  obtain ⟨c, hm, he⟩ := List.mem_map.mp (hl ▸ List.mem_singleton_self entry)
  have hn : c.entry.name ∈ ["f"] := hc ▸ List.mem_map_of_mem hm
  exact he ▸ hf c hm (by simp_all [anonymous])

/-- The member of `class C { function f() {} }`. -/
def declaredMember : Node :=
  ⟨"function_declaration", true, none, 10, 25,
    [⟨"identifier", true, some "name", 19, 20, []⟩,
      ⟨"formal_parameters", true, some "parameters", 20, 22, []⟩,
      ⟨"statement_block", true, some "body", 23, 25, []⟩]⟩

/-- The member of `class C: lambda x: x`, with a name. -/
def inlineMember : Node :=
  ⟨"lambda", true, none, 9, 20,
    [⟨"identifier", true, some "name", 16, 17, []⟩, ⟨"identifier", true, some "body", 19, 20, []⟩]⟩

/-- Functions other than methods can stand in the body of a class, and a wrapper that is not named
hides a method from the class. -/
theorem exists_ownedCandidates_not_methods :
    let disagree (l : Language) (text : String) (root : Node) : Prop :=
      let src := Source.ofString text
      l.Forms (l.classKind :: l.functionKinds) root ∧
        ¬ (l.tabulate "m" src root).methods.Perm ((l.ownedCandidates src root).map fun c =>
          { c.entry with position := src.inCharacters c.entry.position })
    disagree javascript "class C { function f() {} }" (classTree javascript 8 27 declaredMember) ∧
      disagree python "class C:\n  @d\n  def f(): 0"
        (classTree python 11 26 (decoratedMember false)) ∧
      disagree python "class C: lambda x: x" (classTree python 9 20 inlineMember) := by
  intro disagree
  refine ⟨⟨?_, fun h => absurd h.length_eq (by decide +kernel)⟩,
    ⟨forms_of_decoratedMember (by decide), fun h => absurd h.length_eq (by decide +kernel)⟩,
    ⟨?_, fun h => absurd h.length_eq (by decide +kernel)⟩⟩
  · refine ⟨rfl, by decide +kernel, ?_, ?_⟩ <;>
      simp [classTree, declaredMember, Node.nodes, Node.nodesAll, Node.child?, classKind, rootKind,
        bodyKind, wrapperKinds]
  · refine ⟨rfl, by decide +kernel, ?_, ?_⟩ <;>
      simp [classTree, inlineMember, Node.nodes, Node.nodesAll, Node.child?, classKind, rootKind,
        bodyKind, wrapperKinds]

end Language

end Gazetteer

import Gazetteer.Language
import Gazetteer.Proofs.Significance
import Gazetteer.Proofs.Syntax.Preorder

/-! # Owners of methods

The reading of functions looks upwards from a definition, past what it is wrapped in, for the class
whose body it stands in. What it notes about a method with a name in the body of a class with a name
is written down here once for both languages.
-/

namespace Gazetteer.Language

variable {l : Language} {src : Source} {cls : Node} {p : Place}

/-! ## Kinds of nodes -/

def rootKind : Language → String
  | javascript => "program"
  | python => "module"

def classKind : Language → String
  | javascript => "class_declaration"
  | python => "class_definition"

def bodyKind : Language → String
  | javascript => "class_body"
  | python => "block"

def functionKinds : Language → List String
  | javascript => JavaScript.functionKinds
  | python => ["function_definition", "lambda"]

def methodKind : Language → String
  | javascript => "method_definition"
  | python => "function_definition"

def wrapperKinds : Language → List String
  | javascript => []
  | python => ["decorated_definition"]

def definitionKinds (l : Language) : List String := [l.methodKind, l.classKind]

theorem methodKind_mem_functionKinds (l : Language) : l.methodKind ∈ l.functionKinds := by
  cases l <;> decide

theorem methodKind_notMem_inlineKinds (l : Language) : l.methodKind ∉ l.inlineKinds := by
  cases l <;> decide

theorem methodKind_notMem_wrapperKinds (l : Language) : l.methodKind ∉ l.wrapperKinds := by
  cases l <;> decide

theorem bodyKind_notMem_wrapperKinds (l : Language) : l.bodyKind ∉ l.wrapperKinds := by
  cases l <;> decide

theorem kind_notMem_callKinds {kind : String} (h : kind ∈ l.bodyKind :: l.wrapperKinds) :
    kind ∉ Significance.argumentKinds ++ Significance.callKinds := by
  cases l <;> simp only [bodyKind, wrapperKinds, List.mem_cons, List.not_mem_nil, or_false] at h
  · rw [h]
    decide
  · rcases h with rfl | rfl <;> decide

theorem classKind_ne_rootKind (l : Language) : l.rootKind ≠ l.classKind := by
  cases l <;> decide

/-- A tree of the language: nodes of the given kinds are named, the only body of a class is the one
in this role, and the only definition in a wrapper is the one in that role. -/
structure Forms (l : Language) (namedKinds : List String) (root : Node) : Prop where
  root_kind : root.kind = l.rootKind
  named : ∀ n ∈ root.nodes, n.kind ∈ namedKinds → n.named = true
  body : ∀ n ∈ root.nodes, n.kind = l.classKind →
    n.children.filter (·.kind == l.bodyKind) = (n.child? "body").toList
  definition : ∀ n ∈ root.nodes, n.kind ∈ l.wrapperKinds →
    n.children.filter (l.definitionKinds.contains ·.kind) = (n.child? "definition").toList

/-! ## Upwards -/

/-- The class whose body holds a place. -/
def classAbove? (l : Language) (p : Place) : Option Node :=
  match p.above with
  | body :: cls :: _ => if body.kind = l.bodyKind ∧ cls.kind = l.classKind then some cls else none
  | _ => none

@[simp]
theorem classAbove?_cons (l : Language) (n body cls : Node) (above : List Node) :
    l.classAbove? ⟨n, body :: cls :: above⟩ =
      if body.kind = l.bodyKind ∧ cls.kind = l.classKind then some cls else none :=
  rfl

/-- The class whose body holds a definition, wrapped or not. -/
def definingClass? (l : Language) (p : Place) : Option Node :=
  match p.parent? with
  | some q => if q.node.kind ∈ l.wrapperKinds then l.classAbove? q else l.classAbove? p
  | none => none

theorem parent_of_definingClass (h : l.definingClass? p = some cls) :
    ∃ q, p.parent? = some q ∧ q.node.kind ∈ l.bodyKind :: l.wrapperKinds := by
  obtain ⟨n, above⟩ := p
  rcases above with _ | ⟨q, above⟩
  · simp [definingClass?, Place.parent?] at h
  · refine ⟨⟨q, above⟩, rfl, ?_⟩
    by_cases hq : q.kind ∈ l.wrapperKinds
    · exact List.mem_cons_of_mem _ hq
    · rcases above with _ | ⟨c, above⟩
      · simp [definingClass?, Place.parent?, hq, classAbove?] at h
      · simp only [definingClass?, Place.parent?, hq, if_false, classAbove?_cons,
          Option.ite_none_right_eq_some] at h
        exact h.1.1 ▸ List.mem_cons_self

/-- A definition with a name in the body of a class with a name. -/
def isOwned (l : Language) (src : Source) (p : Place) : Bool :=
  (p.node.childName? src "name").isSome &&
    (l.definingClass? p).any fun cls => (cls.childName? src "name").isSome

def methodNote? (l : Language) (src : Source) (cls? : Option Node) (n : Node) :
    Option FunctionEntry :=
  if n.kind = l.methodKind then
    cls?.bind fun cls => (cls.childName? src "name").bind fun owner =>
      (n.childName? src "name").map fun name =>
        { name, position := n.position src, code := n.text src, owner := some owner }
  else none

def candidate : Language → Source → Place → Candidate
  | javascript => JavaScript.candidate
  | python => Python.candidate

theorem candidates_eq (l : Language) (src : Source) (root : Node) :
    l.candidates src root =
      ((Place.root root).below.filter (Place.isNamedOf l.functionKinds)).map (l.candidate src) := by
  rw [← Place.descendants_eq_filter]
  cases l <;> rfl

theorem candidate_place (l : Language) (src : Source) (p : Place) :
    (l.candidate src p).place = p := by
  cases l <;> rfl

theorem enclosingClass?_eq (p : Place) : Python.enclosingClass? p = python.definingClass? p := by
  have holder (n body : Node) (above : List Node) :
      (if body.kind = "block" then (Place.parent? ⟨body, above⟩).bind fun owner =>
        if owner.node.kind = "class_definition" then some owner.node else none else none) =
      python.classAbove? ⟨n, body :: above⟩ := by
    cases above <;> by_cases hb : body.kind = "block" <;>
      simp [classAbove?, Place.parent?, bodyKind, classKind, hb]
  obtain ⟨n, above⟩ := p
  cases above with
  | nil => rfl
  | cons m above =>
    by_cases hm : m.kind = "decorated_definition"
    · cases above with
      | nil => simp [Python.enclosingClass?, definingClass?, Place.parent?, classAbove?, hm,
          wrapperKinds]
      | cons k above =>
        simpa [Python.enclosingClass?, definingClass?, Place.parent?, wrapperKinds, hm]
          using holder m k above
    · simpa [Python.enclosingClass?, definingClass?, Place.parent?, wrapperKinds, hm]
        using holder n m above

theorem methodOwner?_of_classAbove {owner : String} (h : javascript.classAbove? p = some cls)
    (ho : cls.childName? src "name" = some owner) :
    JavaScript.methodOwner? src p = some owner := by
  obtain ⟨n, above⟩ := p
  rcases above with _ | ⟨body, _ | ⟨c, above⟩⟩
  · simp [classAbove?] at h
  · simp [classAbove?] at h
  · rw [classAbove?_cons, Option.ite_none_right_eq_some, Option.some.injEq] at h
    obtain ⟨⟨hb, -⟩, rfl⟩ := h
    have hb : body.kind = "class_body" := hb
    simp [JavaScript.methodOwner?, Place.parent?, hb, ho]

theorem definingClass?_javascript (p : Place) :
    javascript.definingClass? p = javascript.classAbove? p := by
  obtain ⟨n, above⟩ := p
  cases above <;> simp [definingClass?, Place.parent?, wrapperKinds, classAbove?]

/-- What is noted when a method is met says the same as what is noted from its class. -/
theorem candidate_entry {name owner : String} (hk : p.node.kind = l.methodKind)
    (hn : p.node.childName? src "name" = some name) (hc : l.definingClass? p = some cls)
    (ho : cls.childName? src "name" = some owner) :
    (l.candidate src p).entry =
      { name, position := p.node.position src, code := p.node.text src, owner := some owner } := by
  cases l with
  | javascript =>
    have hk : p.node.kind = "method_definition" := hk
    rw [definingClass?_javascript] at hc
    simp [candidate, JavaScript.candidate, JavaScript.functionName, JavaScript.ownName, hk, hn,
      methodOwner?_of_classAbove hc ho]
  | python =>
    have hk : p.node.kind = "function_definition" := hk
    have ho : cls.childText? src "name" = some owner := Option.filter_eq_some_iff.mp ho |>.1
    simp [candidate, Python.candidate, Python.functionName, hk, hn, enclosingClass?_eq, hc, ho]

theorem methodNote?_definingClass
    (hnamed : p.node.kind = l.methodKind → p.node.named = true) :
    l.methodNote? src (l.definingClass? p) p.node =
      if (p.node.kind == l.methodKind && l.isOwned src p) && p.isNamedOf l.functionKinds then
        some (l.candidate src p).entry
      else none := by
  by_cases hk : p.node.kind = l.methodKind
  · have hnamed : p.isNamedOf l.functionKinds = true := by
      simp [Place.isNamedOf, hnamed hk, hk, methodKind_mem_functionKinds]
    cases hc : l.definingClass? p with
    | none => simp [methodNote?, isOwned, hc]
    | some cls =>
      cases ho : cls.childName? src "name" with
      | none => simp [methodNote?, isOwned, hc, ho]
      | some owner =>
        cases hn : p.node.childName? src "name" with
        | none => simp [methodNote?, isOwned, hc, ho, hn]
        | some name =>
          simp [methodNote?, isOwned, hc, ho, hn, hk, hnamed, candidate_entry hk hn hc ho]
  · simp [methodNote?, hk]

end Gazetteer.Language

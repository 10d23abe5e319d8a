import Gazetteer.Language.Parse
import Gazetteer.Proofs.Path.Descent
import Gazetteer.Proofs.Request.Attempt
import Gazetteer.Proofs.Request.RootGuard
import Gazetteer.Proofs.Survey.Tower

/-! # The outcome of a request

The checks of the parts are to decide what comes of a request, before anything is looked at: the
first objection is the reply, and without objections the reply is a page about the directory. They
do so on a machine that can write the depth and has room for the directories. On others there are
requests without objections that fail.
-/

namespace Gazetteer

theorem Machine.writes_pow (m : Machine) : m.writes (10 ^ m.digits : Nat) = false := by
  simp [Machine.writes]

namespace Request

open Survey

/-! ## Objections -/

def objection? {α : Type} : Except Rejection α → Option String
  | .ok _ => none
  | .error e => some e.message

/-- What is said against the parts of a request, each of them checked by itself. -/
def objections (r : Request) : List String :=
  [objection? (checkPath .unix r.path), objection? (readKinds r.symbols),
    objection? (readPatterns r.patterns), objection? (readDepth r.depth)].reduceOption

theorem scope_cases (r : Request) :
    (∃ e, r.scope = .error e ∧ r.objections.head? = some e.message) ∨
      ∃ scope, r.scope = .ok scope ∧ r.objections = [] := by
  unfold scope objections
  cases checkPath .unix r.path with
  | error e => exact .inl ⟨e, rfl, rfl⟩
  | ok =>
    cases readKinds r.symbols with
    | error e => exact .inl ⟨e, rfl, rfl⟩
    | ok kinds =>
      cases readPatterns r.patterns with
      | error e => exact .inl ⟨e, rfl, rfl⟩
      | ok patterns =>
        cases readDepth r.depth with
        | error e => exact .inl ⟨e, rfl, rfl⟩
        | ok depth => exact .inr ⟨_, rfl, rfl⟩

/-- The checks decide the reply: it is an error just if there is an objection, and then it is the
first one; otherwise it is a page about the directory. -/
def DecidedByChecks (m : Machine) (s : Storage) (c : Cabinet) (r : Request) : Prop :=
  (∀ text, (r.reply m s c).1 = Reply.plain text ↔ r.objections.head? = some text) ∧
    (r.objections = [] →
      ∃ rest, (r.reply m s c).1 = "Directory structure for: " ++ r.root ++ rest)

/-! ## What a machine has to bear -/

/-- The depth that is written, in an answer or in a rejection. -/
def written (r : Request) : Option Int :=
  match r.scope with
  | .ok scope => some scope.depth
  | .error (.negativeDepth n) => some n
  | .error _ => none

structure Borne (m : Machine) (s : Storage) (r : Request) : Prop where
  writes : ∀ n ∈ r.written, m.writes n = true
  room : ∀ scope, r.scope = .ok scope →
    levelsBelow s scope.root { dir := scope.root } < m.levels

variable {m : Machine} {r : Request} {s : Storage} {c : Cabinet} {scope : Scope} {e : Rejection}

theorem reply_of_rejected (h : r.scope = .error e) :
    r.reply m s c = (Reply.plain ((refuse m e).message m), c) := by
  rw [reply, attempt_of_error h]

theorem reply_of_attempt_ok {a : Answer} (h : (r.attempt m s c).1 = .ok a) :
    (r.reply m s c).1 = a.text := by
  unfold reply
  rcases ha : r.attempt m s c with ⟨b | b, c'⟩ <;> rw [ha] at h <;> cases h
  rfl

theorem reply_of_attempt_error {e : Mishap} (h : (r.attempt m s c).1 = .error e) :
    (r.reply m s c).1 = Reply.plain (e.message m) := by
  unfold reply
  rcases ha : r.attempt m s c with ⟨b | b, c'⟩ <;> rw [ha] at h <;> cases h
  rfl

theorem written_of_error (h : r.scope = .error e) {n : Int} :
    n ∈ r.written ↔ e = .negativeDepth n := by
  unfold written
  rw [h]
  cases e <;> simp

theorem refuse_cases (m : Machine) (e : Rejection) :
    refuse m e = .rejected e ∧ (∀ n, e = .negativeDepth n → m.writes n = true) ∨
      ∃ n, e = .negativeDepth n ∧ m.writes n = false ∧ refuse m e = .longNumber := by
  cases e with
  | negativeDepth n => cases hw : m.writes n <;> simp [refuse, hw]
  | _ => exact .inl ⟨rfl, nofun⟩

theorem longNumberMessage_ne (m : Machine) (n : Int) :
    (Rejection.negativeDepth n).message ≠ m.longNumberMessage := by
  have hr : (Rejection.negativeDepth n).message = "max_depth cannot be negative: " ++ toString n :=
    rfl
  intro h
  have hd := congrArg (fun t => t.toList.head?) h
  unfold Machine.longNumberMessage at hd
  simp only [hr, String.append_assoc] at hd
  simp at hd

/-! ## Pages -/

theorem page_eq (root summary outline : String) : Summary.page root summary outline =
    "Directory structure for: " ++ root ++ (summary ++ ("\n\n" ++ outline)) := by
  unfold Summary.page
  rw [String.append_assoc, String.append_assoc]

theorem make_text (scope : Scope) (outline : String) (tally : Tally) :
    ∃ rest, (Answer.make scope outline tally).text =
      "Directory structure for: " ++ scope.root ++ rest := by
  rw [Answer.make, page_eq]
  exact ⟨_, rfl⟩

theorem plain_ne_page (message rest : String) :
    Reply.plain message ≠ "Directory structure for: " ++ rest := by
  intro h
  have hd := congrArg (fun t => t.toList.head?) h
  simp [Reply.plain] at hd

/-- On a machine that bears the request, the checks decide. -/
theorem decidedByChecks_of_borne (h : r.Borne m s) (c : Cabinet) : r.DecidedByChecks m s c := by
  rcases scope_cases r with ⟨e, he, ho⟩ | ⟨scope, hs, ho⟩
  · have hr : refuse m e = .rejected e := by
      refine ((refuse_cases m e).resolve_right ?_).1
      rintro ⟨n, hn, hw, -⟩
      exact Bool.false_ne_true (hw.symm.trans (h.writes n ((written_of_error he).mpr hn)))
    refine ⟨fun text => ?_, fun hn => by simp [hn] at ho⟩
    rw [reply_of_rejected he, hr, ho, Option.some_inj]
    exact String.append_right_inj _
  · have ha := attempt_of_ok (m := m) (s := s) (c := c) hs
    have hw : m.writes scope.depth = true := h.writes _ (by rw [written, hs]; rfl)
    rw [if_pos hw, if_pos (h.room scope hs)] at ha
    obtain ⟨rest, hr⟩ : ∃ rest,
        (r.reply m s c).1 = "Directory structure for: " ++ r.root ++ rest := by
      rw [reply_of_attempt_ok ha, ← root_of_scope hs]
      exact make_text ..
    refine ⟨fun text => ?_, fun _ => ⟨rest, hr⟩⟩
    rw [hr, ho, String.append_assoc]
    exact ⟨fun h => absurd h.symm (plain_ne_page text _), nofun⟩

/-- On a machine that does not, the reply is an error that no check gives. -/
theorem error_of_not_borne (h : ¬ r.Borne m s) (c : Cabinet) :
    ∃ text, (r.reply m s c).1 = Reply.plain text ∧ r.objections.head? ≠ some text ∧
      (text = m.longNumberMessage ∨ text = Machine.noRoomMessage) := by
  rcases scope_cases r with ⟨e, he, ho⟩ | ⟨scope, hs, ho⟩
  · rcases refuse_cases m e with ⟨-, hw⟩ | ⟨n, rfl, -, hr⟩
    · exact absurd ⟨fun n hn => hw n ((written_of_error he).mp hn),
        fun scope hs => nomatch he.symm.trans hs⟩ h
    · refine ⟨m.longNumberMessage, by rw [reply_of_rejected he, hr]; rfl, ?_, .inl rfl⟩
      rw [ho]
      exact fun hm => longNumberMessage_ne m n (Option.some.inj hm)
  · have ha := attempt_of_ok (m := m) (s := s) (c := c) hs
    have hnone : ∀ text, r.objections.head? ≠ some text := fun text => by simp [ho]
    by_cases hw : m.writes scope.depth = true
    · have hl : ¬ levelsBelow s scope.root { dir := scope.root } < m.levels := fun hl => h
        ⟨fun n hn => by simp_all [written], fun scope' hs' => by simp_all⟩
      rw [if_pos hw, if_neg hl] at ha
      exact ⟨_, reply_of_attempt_error ha, hnone _, .inr rfl⟩
    · rw [if_neg hw] at ha
      exact ⟨_, reply_of_attempt_error ha, hnone _, .inl rfl⟩

theorem checkPath_of_names {dir name : String} {names : List String}
    (h : s.names dir = .ok names) (hn : name ∈ names) (rules : Ignore.Rules) :
    rules.checkPath (Path.join dir name) = .ok () := by
  obtain ⟨l, hf⟩ := find_of_names h
  simp [Ignore.Rules.checkPath, Path.join_ne_empty (s.isName_of_mem hf hn)]

theorem borne_of_decidedByChecks (h : r.DecidedByChecks m s c) : r.Borne m s := by
  by_contra hb
  obtain ⟨text, hr, hne, -⟩ := error_of_not_borne hb c
  exact hne ((h.1 text).mp hr)

/-- The checks decide what comes of a request if and only if the machine can write the depth and
has room for the directories; if not, one of these is what the reply complains of. After an
objection nothing is looked at. The rules are never asked about an empty path, so that they always
answer. -/
theorem decidedByChecks_iff (m : Machine) (r : Request) (s : Storage) (c : Cabinet) :
    (r.DecidedByChecks m s c ↔ r.Borne m s) ∧
    (¬ r.Borne m s → (r.reply m s c).1 = Reply.plain m.longNumberMessage ∨
      (r.reply m s c).1 = Reply.plain Machine.noRoomMessage) ∧
    (r.objections ≠ [] → (r.reply m s c).2 = c ∧ ∀ s', r.reply m s' c = r.reply m s c) ∧
    ∀ dir names, s.names dir = .ok names → ∀ name ∈ names, ∀ rules : Ignore.Rules,
      rules.checkPath (Path.join dir name) = .ok () := by
  refine ⟨⟨borne_of_decidedByChecks, fun hb => decidedByChecks_of_borne hb c⟩, fun hb => ?_,
    fun ho => ?_, fun dir names h name hn => checkPath_of_names h hn⟩
  · obtain ⟨text, hr, -, rfl | rfl⟩ := error_of_not_borne hb c
    · exact .inl hr
    · exact .inr hr
  · rcases scope_cases r with ⟨e, he, -⟩ | ⟨scope, -, hn⟩
    · simp only [reply_of_rejected he, implies_true, and_self]
    · exact absurd hn ho

def plainRequest (n : Nat) : Request := { path := "/d", depth := .integer n }

theorem scope_plainRequest (n : Nat) :
    (plainRequest n).scope = .ok { root := "/d", depth := n } := by
  have hp : checkPath .unix "/d" = .ok () := by decide
  have hk : readKinds SymbolKind.allName = .ok SymbolKind.all := by decide
  have hd : readDepth (.integer n) = .ok n := by simp [readDepth]
  have hr : Path.normalize (Text.trim "/d") = "/d" := by decide
  simp only [scope, plainRequest, root, readPatterns, hp, hk, hd, hr]
  rfl

theorem objections_of_ok (h : r.scope = .ok scope) : r.objections = [] := by
  rcases scope_cases r with ⟨e, he, -⟩ | ⟨-, -, ho⟩
  · exact nomatch he.symm.trans h
  · exact ho

theorem objections_plainRequest (n : Nat) : (plainRequest n).objections = [] :=
  objections_of_ok (scope_plainRequest n)

theorem undecided_of_levels {n : Nat}
    (h : m.levels ≤ levelsBelow s "/d" { dir := "/d" }) :
    ¬ (plainRequest n).DecidedByChecks m s c := fun hd =>
  absurd ((borne_of_decidedByChecks hd).room _ (scope_plainRequest n)) (Nat.not_lt.mpr h)

theorem undecided_of_digits {n : Nat} (h : m.writes n = false) :
    ¬ (plainRequest n).DecidedByChecks m s c := fun hd =>
  Bool.false_ne_true (h.symm.trans ((borne_of_decidedByChecks hd).writes n
    (by rw [written, scope_plainRequest]; rfl)))

/-- On a machine with the usual bounds, five hundred directories one inside the other or a depth of
4301 digits make a request fail that there is no objection to. -/
theorem undecided_tower_and_long_depth :
    let c := Cabinet.new .full
    let far := plainRequest (10 ^ Machine.usual.digits)
    (plainRequest 5).objections = [] ∧ far.objections = [] ∧
      ¬ (plainRequest 5).DecidedByChecks .usual ((Disk.tower 500).storage []) c ∧
      ¬ far.DecidedByChecks .usual (Disk.empty.storage []) c := by
  refine ⟨objections_plainRequest _, objections_plainRequest _, undecided_of_levels ?_,
    undecided_of_digits (Machine.writes_pow .usual)⟩
  have hlevels := le_levelsBelow_tower (n := 500) (by decide) (by decide)
  have hu : Machine.usual.levels = 490 := rfl
  omega

end Request

end Gazetteer

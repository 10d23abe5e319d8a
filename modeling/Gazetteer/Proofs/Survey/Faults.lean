import Gazetteer.Proofs.Language.Cabinet
import Gazetteer.Proofs.Survey.Agreement

/-! # Faults

Storages and cabinets in which one thing fails on one path: an operation is denied, a path is not
listed in its directory, or no table can be made of a file. Everything else is answered as before.
-/

namespace Gazetteer

/-- A content without some of the names of a directory. -/
def Content.keep (p : String → Bool) : Content → Content
  | .file bytes => .file bytes
  | .directory names => .directory (names.filter p)

namespace Storage

/-- The same storage, but one operation on one path fails. -/
def deny (s : Storage) (op : Operation) (path : String) (cause : Cause) : Storage :=
  { s with trouble := fun o p => if o = op ∧ p = path then some cause else s.trouble o p }

def findWithout (s : Storage) (path q : String) : Except Cause Site :=
  (s.find q).map fun site =>
    { site with content := site.content.keep fun name => Path.join q name != path }

theorem find_of_findWithout {s : Storage} {path q : String} {l : Location} {names : List String}
    (h : s.findWithout path q = .ok ⟨l, .directory names⟩) :
    ∃ all, s.find q = .ok ⟨l, .directory all⟩ ∧
      names = all.filter fun name => Path.join q name != path := by
  unfold findWithout at h
  cases hf : s.find q with
  | error cause => rw [hf] at h; cases h
  | ok site =>
    rcases site with ⟨m, bytes | all⟩
    · rw [hf] at h; cases h
    · rw [hf] at h; cases h; exact ⟨all, rfl, rfl⟩

/-- The same storage, but one path is not listed in its directory. -/
def unlist (s : Storage) (path : String) : Storage where
  home := s.home
  find := s.findWithout path
  directories := s.directories
  location_mem h := by
    obtain ⟨all, hf, -⟩ := find_of_findWithout h
    exact s.location_mem hf
  names_nodup h := by
    obtain ⟨all, hf, rfl⟩ := find_of_findWithout h
    exact (s.names_nodup hf).filter _
  isName_of_mem h _ hn := by
    obtain ⟨all, hf, rfl⟩ := find_of_findWithout h
    exact s.isName_of_mem hf (List.mem_of_mem_filter hn)
  trouble := s.trouble

section Deny

variable {s : Storage} {op o : Operation} {path q : String} {cause : Cause}

theorem attempt_deny_self {α : Type} {f : Content → Except Cause α} :
    (s.deny op path cause).attempt op path f = .error ⟨cause, path⟩ := by
  simp [attempt, deny]

theorem attempt_deny {α : Type} {f : Content → Except Cause α} (h : ¬ (o = op ∧ q = path)) :
    (s.deny op path cause).attempt o q f = s.attempt o q f := by
  simp [attempt, deny, h]

theorem names_deny (h : op = .list → q ≠ path) : (s.deny op path cause).names q = s.names q :=
  attempt_deny fun hc => h hc.1.symm hc.2

theorem size_deny (h : op = .measure → q ≠ path) : (s.deny op path cause).size q = s.size q :=
  attempt_deny fun hc => h hc.1.symm hc.2

theorem text_deny (h : op = .read → q ≠ path) : (s.deny op path cause).text q = s.text q := by
  have hn : ¬ (Operation.read = op ∧ q = path) := fun hc => h hc.1.symm hc.2
  simp [text, deny, hn]

theorem text_deny_self : (s.deny .read path cause).text path = .error ⟨cause, path⟩ := by
  simp [text, deny]

theorem ignoreRules_deny (h : op ≠ .consult) :
    (s.deny op path cause).ignoreRules q = s.ignoreRules q := by
  have ht : (s.deny op path cause).trouble .consult q = s.trouble .consult q :=
    if_neg fun hc => h hc.1.symm
  rw [ignoreRules, ignoreRules, ht]
  rfl

theorem ignoreRules_deny_self : (s.deny .consult path cause).ignoreRules path = [] := by
  have ht : (s.deny .consult path cause).trouble .consult path = some cause := if_pos ⟨rfl, rfl⟩
  rw [ignoreRules, ht]
  split <;> rfl

end Deny

section Unlist

variable {s : Storage} {op : Operation} {path q : String}

theorem find_unlist : (s.unlist path).find q = s.findWithout path q := rfl

theorem directory?_unlist : (s.unlist path).directory? q = s.directory? q := by
  rw [directory?, directory?, find_unlist, findWithout]
  rcases s.find q with cause | ⟨l, bytes | names⟩ <;> rfl

theorem location?_unlist : (s.unlist path).location? q = s.location? q := by
  rw [location?, location?, find_unlist, findWithout]
  rcases s.find q with cause | ⟨l, bytes | names⟩ <;> rfl

theorem ignoreRules_unlist : (s.unlist path).ignoreRules q = s.ignoreRules q := by
  rw [ignoreRules, ignoreRules, find_unlist, findWithout]
  rcases s.find q with cause | ⟨l, bytes | names⟩ <;> rfl

theorem trouble_unlist : (s.unlist path).trouble op q = s.trouble op q := rfl

theorem names_unlist : (s.unlist path).names q =
    (s.names q).map (·.filter fun name => Path.join q name != path) := by
  rw [names, names, attempt, attempt, trouble_unlist, find_unlist, findWithout]
  rcases s.trouble .list q with - | cause
  · rcases s.find q with cause | ⟨l, bytes | names⟩ <;> rfl
  · rfl

theorem size_unlist : (s.unlist path).size q = s.size q := by
  rw [size, size, attempt, attempt, trouble_unlist, find_unlist, findWithout]
  rcases s.trouble .measure q with - | cause
  · rcases s.find q with cause | ⟨l, bytes | names⟩ <;> rfl
  · rfl

theorem text_unlist : (s.unlist path).text q = s.text q := by
  rw [text, text, trouble_unlist, find_unlist, findWithout]
  rcases s.trouble .read q with - | cause
  · rcases s.find q with cause | ⟨l, bytes | names⟩ <;> rfl
  · rfl

end Unlist

end Storage

namespace Cabinet

/-- The same cabinet, but no table can be made of one file. -/
def fail (c : Cabinet) (path : String) : Cabinet := { c with faulty := path :: c.faulty }

theorem extract_fail (c : Cabinet) (path q text : String) : ((c.fail path).extract q text).1 =
    if q != path then (c.extract q text).1 else none := by
  have ht : ∀ l, ((c.fail path).take l).1 = (c.take l).1 := fun l => by
    have hl : ((c.fail path).load l).1 = (c.load l).1 := load_congr rfl rfl
    rw [take_fst, take_fst, hl]
    rfl
  rw [extract_fst, extract_fst]
  simp only [ht]
  by_cases hq : q = path
  · simp [fail, hq]
  · simp [fail, hq]

end Cabinet

end Gazetteer

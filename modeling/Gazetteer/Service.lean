import Gazetteer.Request

/-! # Services

A service answers calls one after another. It keeps the cabinet of languages from one call to the
next; everything else is made anew for each call.
-/

namespace Gazetteer

/-- A call to a service: for the whole answer to a request, or for its page alone. -/
inductive Call where
  | answer (r : Request)
  | page (r : Request)

namespace Call

inductive Outcome where
  | answered (a : Answer)
  | shown (page : String)
  | failed (e : Mishap)
  deriving DecidableEq

def request : Call → Request
  | answer r => r
  | page r => r

def outcome : Call → Except Mishap Answer → Outcome
  | answer _, .ok a => .answered a
  | page _, .ok a => .shown a.text
  | _, .error e => .failed e

/-- The outcome of a call, and the cabinet after it. -/
def run (m : Machine) (s : Storage) (call : Call) (c : Cabinet) : Outcome × Cabinet :=
  let (result, c') := call.request.attempt m s c
  (call.outcome result, c')

end Call

end Gazetteer

import Gazetteer.Text.Escaped

/-! # Failures

What is answered in place of a result when an operation fails. The form of the answer is the
caller's choice; a result is passed on as it is.
-/

namespace Gazetteer

inductive Failure where
  | message (text : String)
  /-- A key was looked for in vain. -/
  | missingKey (key : String)
  deriving DecidableEq

def Failure.text : Failure → String
  | message text => text
  | missingKey key => Text.quoted key

inductive ReplyForm where
  | plain
  | record
  /-- The text of a record. -/
  | encoded
  /-- A list of one record. -/
  | list
  deriving DecidableEq

/-- The form of a given name; a name of no form stands for plain text. -/
def ReplyForm.ofName (name : String) : ReplyForm :=
  if name = "dict" then record
  else if name = "json" then encoded
  else if name = "list" then list
  else plain

/-- An answer to a failure; a record has the one field `error`. -/
inductive Reply where
  | text (text : String)
  | record (error : String)
  | list (errors : List String)
  deriving DecidableEq

namespace Reply

def plain (message : String) : String := "Error: " ++ message

def note (message : String) : String := "Operation failed: " ++ message

def encode (error : String) : String := "\x7b\"error\": " ++ Text.escaped error ++ "\x7d"

/-- The answer to a failure with the given message. -/
def ofMessage (form : ReplyForm) (message : String) : Reply :=
  match form with
  | .plain => text (plain message)
  | .record => record (note message)
  | .encoded => text (encode (note message))
  | .list => list [note message]

end Reply

/-- The outcome of an operation with an answer in place of a failure. -/
def guarded {α : Type} (form : ReplyForm) (outcome : Except Failure α) : Except Reply α :=
  outcome.mapError fun f => .ofMessage form f.text

end Gazetteer

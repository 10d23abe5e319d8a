import Gazetteer.Text.Quoted

/-! # Faults

What goes wrong when a file or a directory is looked at.
-/

namespace Gazetteer

inductive Cause where
  | noEntry
  | denied
  | notDirectory
  | isDirectory
  | nameTooLong
  | tooManyLinks
  /-- A file is gone before it is opened. -/
  | absent
  deriving DecidableEq

structure Fault where
  cause : Cause
  path : String
  deriving DecidableEq

namespace Fault

def numbered (number : Nat) (words path : String) : String :=
  s!"[Errno {number}] {words}: " ++ Text.quoted path

def message (f : Fault) : String :=
  match f.cause with
  | .noEntry => numbered 2 "No such file or directory" f.path
  | .denied => numbered 13 "Permission denied" f.path
  | .notDirectory => numbered 20 "Not a directory" f.path
  | .isDirectory => numbered 21 "Is a directory" f.path
  | .nameTooLong => numbered 36 "File name too long" f.path
  | .tooManyLinks => numbered 40 "Too many levels of symbolic links" f.path
  | .absent => "File not found: " ++ f.path

end Fault

end Gazetteer

/-! # Replacing

`replaceAll` puts one text in place of every occurrence of another, from left to right. Occurrences
do not overlap: the search goes on behind the one that was found.
-/

namespace Gazetteer.Text

/-- Replace occurrences after so many characters, which belong to the occurrence found last. -/
def replaceFrom (old new : List Char) : Nat → List Char → List Char
  | _, [] => []
  | n + 1, _ :: r => replaceFrom old new n r
  | 0, c :: r =>
    if old.isPrefixOf (c :: r) then new ++ replaceFrom old new (old.length - 1) r
    else c :: replaceFrom old new 0 r

def replaceAll (old new s : List Char) : List Char := replaceFrom old new 0 s

end Gazetteer.Text

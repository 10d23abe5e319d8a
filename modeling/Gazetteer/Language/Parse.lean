import Gazetteer.JavaScript.Grammar.Statement
import Gazetteer.Language.Cabinet
import Gazetteer.Python.Grammar.Statement

/-! # The languages that come with the readers

A syntax tree can come from anywhere. Those that are made here come from a reader for each of the
two languages, and both languages can be loaded.
-/

namespace Gazetteer

def Language.parse : Language → List Char → Node
  | javascript => JavaScript.Grammar.parse
  | python => Python.Grammar.parse

def Offer.full : Offer := ⟨[], Language.parse⟩

end Gazetteer

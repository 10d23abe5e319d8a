import Gazetteer.JavaScript.Grammar.Goal

/-! # Elements of markup inside expressions -/

namespace Gazetteer.JavaScript.Grammar

open Gazetteer.Reading

def isTagPart (c : Char) : Bool := c.isAlphanum || c == '_' || c == '$' || c == '-'

def tagWord (kind : String) : Reader Forest := trivia ++ leaf kind true
  ((do let _ ← sat fun c => c.isAlpha || c == '_' || c == '$'
       skipWhile isTagPart) <|> word)

def tagName : Reader Forest :=
  (node "jsx_namespace_name" (tagWord "identifier" ++ sign ":" ++ tagWord "identifier")) <|>
    (tagWord "identifier" >>= extend fun base => do
      let tail ← sign "." ++ role "property" (anyWordAs "property_identifier")
      return enclose "member_expression" (assign "object" base ++ tail))

def markupExpression (g : Rules) : Reader Forest :=
  node "jsx_expression" (sign "\x7b" ++ opt (spread g <|> g .expressions) ++ sign "\x7d")

def markupString : Reader Forest := trivia ++ node "string"
  ((tightSign "\"" ++ opt (leaf "string_fragment" true (skipSome (· != '"'))) ++ tightSign "\"") <|>
    (tightSign "'" ++ opt (leaf "string_fragment" true (skipSome (· != '\''))) ++ tightSign "'"))

def attributeName : Reader Forest :=
  (node "jsx_namespace_name" (tagWord "property_identifier" ++ sign ":" ++
    tagWord "property_identifier")) <|> tagWord "property_identifier"

def tagAttribute (g : Rules) : Reader Forest :=
  markupExpression g <|>
    node "jsx_attribute" (attributeName ++
      opt (sign "=" ++ oneOf [markupString, markupExpression g, g .markup]))

def tag (g : Rules) : Reader Forest :=
  role "name" tagName ++ many (role "attribute" (tagAttribute g))

def markupText : Reader Forest :=
  leaf "jsx_text" true (skipSome fun c => c != '<' && c != '\x7b')

def markupChild (g : Rules) : Reader Forest :=
  oneOf [markupText, markupExpression g, lacking (exact "</") >>= fun _ => g .markup]

def markupEnd : Reader Forest :=
  node "jsx_closing_element" (sign "</" ++ opt (role "name" tagName) ++ sign ">")

def markup (g : Rules) : Reader Forest := do
  let head ← sign "<" ++ opt (tag g)
  (do return enclose "jsx_self_closing_element" (head ++ (← sign "/>"))) <|> do
    let opening := enclose "jsx_opening_element" (head ++ (← sign ">"))
    let inside ← many (markupChild g)
    let closing ← markupEnd
    return enclose "jsx_element"
      (assign "open_tag" opening ++ inside ++ assign "close_tag" closing)

end Gazetteer.JavaScript.Grammar

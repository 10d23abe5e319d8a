import Gazetteer.Tally

/-! # Summaries

The paragraphs above an outline: what was analyzed, by which rule files were chosen, and how deep
the analysis went.
-/

namespace Gazetteer.Summary

def defaultDepth : Int := 5

def countLines (t : Totals) : String :=
  s!"- Files analyzed: {t.files}\n- Total functions: {t.functions}\n" ++
    s!"- Total variables: {t.bindings}\n- Total classes: {t.classes}"

def choiceText (patterns : List String) : String :=
  if patterns.isEmpty then
    "Note: Symbol analysis is supported for JavaScript/TypeScript (.js, .jsx, .ts, .tsx) and " ++
      "Python (.py) files only."
  else "Analyzed files matching patterns: " ++ ", ".intercalate patterns

def depthText (depth : Int) : String :=
  s!"Code analysis limited to a maximum depth of {depth} directory levels" ++
    if depth = defaultDepth then " (default)." else "."

/-- The summary of an analysis; empty if no file was analyzed. -/
def text (t : Totals) (patterns : List String) (depth : Int) : String :=
  if t.files = 0 then ""
  else "\n\nCode Analysis Summary:\n" ++ countLines t ++ "\n\n" ++ choiceText patterns ++ "\n\n" ++
    depthText depth

def page (root summary outline : String) : String :=
  "Directory structure for: " ++ root ++ summary ++ "\n\n" ++ outline

end Gazetteer.Summary

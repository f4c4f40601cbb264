import ApiFlow.Flow.Basic

/-!
# Flowcharts

A document as a flowchart of boxes and arrows.  Labels stand between double quotes or bars, so a double quote in a label
is written `#quot;`.
-/

set_option autoImplicit false

namespace ApiFlow.Flow

/-- A label without double quotes. -/
def label (text : Text) : Text := Text.replaceAll ['"'] "#quot;" text

def boxLine (s : Step) : Text := "  " ++ s.id ++ "[\"" ++ label s.displayName ++ "\"]"

def arrowLine (e : Edge) : Text :=
  if e.condition.isEmpty then "  " ++ e.source ++ " --> " ++ e.target
  else "  " ++ e.source ++ " -->|" ++ label e.condition ++ "| " ++ e.target

def diagram (d : Document) : Text :=
  Text.join ['\n'] ("flowchart TD".toList :: d.steps.map boxLine ++ d.edges.map arrowLine)

end ApiFlow.Flow

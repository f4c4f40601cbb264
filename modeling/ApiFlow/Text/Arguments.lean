import ApiFlow.Text.Basic

/-!
# Arguments on a line

Blanks and tabs separate arguments; a run between two equal quotes, single or double, belongs to the argument it
stands in and may hold separators and the other quote.  An empty pair of quotes makes an empty argument.
-/

set_option autoImplicit false

namespace ApiFlow.Text

def isQuote (c : Char) : Bool := c = '\'' || c = '"'

def isSeparator (c : Char) : Bool := c = ' ' || c = '\t'

/-- The arguments of the rest of a line, inside the given quote if there is one; `current` is the argument begun. -/
def argumentsFrom : (quote : Option Char) → (current : Option Text) → Text → List Text
  | _, none, [] => []
  | _, some argument, [] => [argument]
  | some q, current, c :: s =>
    if c = q then argumentsFrom none current s
    else argumentsFrom (some q) (some (current.getD [] ++ [c])) s
  | none, current, c :: s =>
    if isQuote c then argumentsFrom (some c) (some (current.getD [])) s
    else if isSeparator c then current.toList ++ argumentsFrom none none s
    else argumentsFrom none (some (current.getD [] ++ [c])) s

def arguments (line : Text) : List Text := argumentsFrom none none line

end ApiFlow.Text

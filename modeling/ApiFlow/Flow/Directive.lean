import ApiFlow.Number.Integer
import ApiFlow.Text.Case

/-!
# Directives

A directive is a line `@key value`.  Values are plain text, a comma list, a pair such as `id=main`, or a number with
anything behind it.

* `directive` splits a line into a key in lower case and a trimmed value.
* `leadingNumber` reads the digits in front; a text without any is zero.
-/

set_option autoImplicit false

namespace ApiFlow.Flow

def isComment (trimmed : Text) : Bool := trimmed.head? = some '#'

def isDirective (trimmed : Text) : Bool := trimmed.head? = some '@'

/-- The key and the value of a directive. -/
def directive (line : Text) : Text × Text :=
  let trimmed := Text.trim line
  let body := if isDirective trimmed then Text.trim (trimmed.drop 1) else trimmed
  match Text.firstWord? body with
  | none => ([], [])
  | some (key, value) => (Text.lower key, Text.trim value)

/-- The value in a word `key=value` or `key:value`. -/
def pairValue? (key word : Text) : Option Text :=
  let under (mark : Char) : Option Text := do
    let (name, value) ← Text.cutAt? mark word
    if Text.lower (Text.trim name) = key then some (Text.trim value) else none
  match under '=' with
  | some value => some value
  | none => under ':'

/-- The value of the first word `key=value` or `key:value` of a text; empty if there is none. -/
def inlineValue (value key : Text) : Text :=
  ((Text.words value).findSome? (pairValue? (Text.lower (Text.trim key)))).getD []

def commaFields (value : Text) : List Text :=
  ((Text.splitAt ',' value).map Text.trim).filter (!·.isEmpty)

/-- The number that the digits in front of a text spell, zero if there are none.  A digit sign without a decimal value
and too many digits make the number unreadable. -/
def leadingNumber (value : Text) : Except Integer.ReadError Nat :=
  match (Text.trim value).takeWhile Text.isDigit with
  | [] => .ok 0
  | d :: digits => (Integer.read (d :: digits)).map Int.toNat

end ApiFlow.Flow

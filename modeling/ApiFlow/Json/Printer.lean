import ApiFlow.Json.Basic

/-!
# Writing JSON

Two layouts: compact, without any blanks, and indented by two blanks a level.  Characters beyond ASCII stand as they
are; control characters, the quote and the backslash are escaped.

* `compact` and `indented` write a value.
* `asText` is the text of a value in a message: strings stand bare, null is empty.
-/

set_option autoImplicit false

namespace ApiFlow.Json

/-- One character between quotes. -/
def escapeChar (c : Char) : Text :=
  if c = '"' then "\\\""
  else if c = '\\' then "\\\\"
  else if c = '\n' then "\\n"
  else if c = '\r' then "\\r"
  else if c = '\t' then "\\t"
  else if c.toNat = 8 then "\\b"
  else if c.toNat = 12 then "\\f"
  else if c.toNat < 32 then
    let digits := Nat.toDigits 16 c.toNat
    "\\u" ++ List.replicate (4 - digits.length) '0' ++ digits
  else [c]

def stringText (s : Text) : Text := '"' :: s.flatMap escapeChar ++ ['"']

/-- The text of a double as a JSON number or name. -/
def realText : Double → Text
  | .nan => "NaN"
  | .infinite negative => if negative then "-Infinity" else "Infinity"
  | x => x.text

mutual

/-- A value without blanks. -/
def compact : Json → Text
  | null => "null"
  | bool b => if b then "true" else "false"
  | int i => Text.ofInt i
  | real x => realText x
  | str s => stringText s
  | arr items => '[' :: compactItems items ++ [']']
  | obj members => '{' :: compactMembers members ++ ['}']

def compactItems : List Json → Text
  | [] => []
  | [item] => compact item
  | item :: items => compact item ++ ',' :: compactItems items

def compactMembers : List (Text × Json) → Text
  | [] => []
  | [(name, value)] => stringText name ++ ':' :: compact value
  | (name, value) :: members => stringText name ++ ':' :: compact value ++ ',' :: compactMembers members

end

/-- A line end and the blanks of a level. -/
def newLine (level : Nat) : Text := '\n' :: List.replicate (2 * level) ' '

mutual

/-- A value with one item or member a line. -/
def indentedAt (level : Nat) : Json → Text
  | arr [] => "[]"
  | arr (item :: items) =>
    '[' :: newLine (level + 1) ++ indentedItems (level + 1) (item :: items) ++ newLine level ++ [']']
  | obj [] => ['{', '}']
  | obj (entry :: members) =>
    '{' :: newLine (level + 1) ++ indentedMembers (level + 1) (entry :: members) ++ newLine level ++ ['}']
  | null => "null"
  | bool b => if b then "true" else "false"
  | int i => Text.ofInt i
  | real x => realText x
  | str s => stringText s

def indentedItems (level : Nat) : List Json → Text
  | [] => []
  | [item] => indentedAt level item
  | item :: items => indentedAt level item ++ ',' :: newLine level ++ indentedItems level items

def indentedMembers (level : Nat) : List (Text × Json) → Text
  | [] => []
  | [(name, value)] => stringText name ++ ": " ++ indentedAt level value
  | (name, value) :: members =>
    stringText name ++ ": " ++ indentedAt level value ++ ',' :: newLine level
      ++ indentedMembers level members

end

/-- A value on several lines, indented by two blanks a level. -/
def indented (value : Json) : Text := indentedAt 0 value

/-- The text of a value: a string bare, a number without exponent, null empty, an array or object compact. -/
def asText : Json → Text
  | null => []
  | str s => s
  | bool b => if b then "true" else "false"
  | int i => Text.ofInt i
  | real x => x.plain
  | arr items => compact (arr items)
  | obj members => compact (obj members)

end ApiFlow.Json

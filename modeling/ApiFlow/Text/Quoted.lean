import ApiFlow.Text.Class

/-!
# Quoted form of a text

Diagnostics show a text between quotes: apostrophes, unless it holds an apostrophe and no double quote.
Backslash and the quote in use get a backslash, tab and line ends their letter escapes, and other characters
without a visible form their code point in hexadecimal.
-/

set_option autoImplicit false

namespace ApiFlow.Text

/-- The hexadecimal digits of a number, on at least `width` places. -/
def hex (width n : Nat) : Text :=
  let digits := Nat.toDigits 16 n
  List.replicate (width - digits.length) '0' ++ digits

/-- How one character stands between the given quotes. -/
def quotedChar (quote c : Char) : Text :=
  if c = quote || c = '\\' then ['\\', c]
  else if c = '\t' then "\\t"
  else if c = '\n' then "\\n"
  else if c = '\r' then "\\r"
  else if isVisible c then [c]
  else if c.toNat < 0x100 then "\\x" ++ hex 2 c.toNat
  else if c.toNat < 0x10000 then "\\u" ++ hex 4 c.toNat
  else "\\U" ++ hex 8 c.toNat

/-- The quoted form of a text. -/
def quoted (s : Text) : Text :=
  let quote := if s.contains '\'' && !s.contains '"' then '"' else '\''
  quote :: s.flatMap (quotedChar quote) ++ [quote]

end ApiFlow.Text

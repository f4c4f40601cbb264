import ApiFlow.Text.Basic
import ApiFlow.Text.HiddenTable
import ApiFlow.Text.WordTable

/-!
# Classes of characters

Blanks, line boundaries, digits, word characters and characters without a visible form, over all of Unicode.

* `isBlank` holds of the 29 characters that separate words.
* `decimalValue?` gives the value of a decimal digit of any script; `isDigit` holds also of superscripts and
  circled digits, which have no decimal value.
* `isWord` holds of letters, numbers and the underscore.
-/

set_option autoImplicit false

namespace ApiFlow.Text

/-- Membership in a list of closed ranges of code points. -/
def inRanges (ranges : List (Nat × Nat)) (n : Nat) : Bool := ranges.any fun r => r.1 ≤ n && n ≤ r.2

def isBlank (c : Char) : Bool :=
  let n := c.toNat
  (9 ≤ n && n ≤ 13) || (28 ≤ n && n ≤ 32) || n = 0x85 || n = 0xa0 || n = 0x1680 ||
    (0x2000 ≤ n && n ≤ 0x200a) || n = 0x2028 || n = 0x2029 || n = 0x202f || n = 0x205f || n = 0x3000

def isLineEnd (c : Char) : Bool :=
  let n := c.toNat
  (10 ≤ n && n ≤ 13) || (28 ≤ n && n ≤ 30) || n = 0x85 || n = 0x2028 || n = 0x2029

def decimalValue? (c : Char) : Option Nat :=
  let n := c.toNat
  if 48 ≤ n && n ≤ 57 then some (n - 48)
  else if n < 128 then none
  else (decimalRanges.find? fun r => r.1 ≤ n && n ≤ r.2).map fun r => (n - r.1) % 10

def isDecimal (c : Char) : Bool := (decimalValue? c).isSome

/-- A decimal digit or a digit sign such as a superscript. -/
def isDigit (c : Char) : Bool := isDecimal c || inRanges digitSignRanges c.toNat

/-- A letter or a number of any script. -/
def isAlphanumeric (c : Char) : Bool :=
  if c.toNat < 128 then c.isAlphanum else inRanges wordRanges c.toNat

/-- A letter, a number or the underscore. -/
def isWord (c : Char) : Bool := c = '_' || isAlphanumeric c

def isVisible (c : Char) : Bool :=
  let n := c.toNat
  if n < 127 then 32 ≤ n else !inRanges hiddenRanges n

def trimLeft (s : Text) : Text := s.dropWhile isBlank

def trimRight (s : Text) : Text := dropEndWhile isBlank s

/-- Drops blanks on both sides. -/
def trim (s : Text) : Text := trimRight (trimLeft s)

/-- A blank that may stand around a number: the four separators of records and fields may not. -/
def isNumberBlank (c : Char) : Bool := isBlank c && !(28 ≤ c.toNat && c.toNat ≤ 31)

/-- Drops the blanks around a number. -/
def trimNumber (s : Text) : Text := dropEndWhile isNumberBlank (s.dropWhile isNumberBlank)

def words (s : Text) : List Text := (splitWhere isBlank s).filter (!·.isEmpty)

/-- The first word and what follows it, without the blanks between them. -/
def firstWord? (s : Text) : Option (Text × Text) :=
  match trimLeft s with
  | [] => none
  | c :: rest =>
    some ((c :: rest).takeWhile (!isBlank ·), trimLeft ((c :: rest).dropWhile (!isBlank ·)))

/-- The lines of a text: a carriage return with a line feed is one boundary, and a last boundary opens no line. -/
def lines : Text → List Text
  | [] => []
  | '\r' :: '\n' :: s => [] :: lines s
  | c :: s => if isLineEnd c then [] :: lines s else pushFirst c (lines s)

end ApiFlow.Text

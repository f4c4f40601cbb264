/-!
# Text as a list of characters

Every text of the library is the list of its characters.  This module holds the cuts, searches and
replacements that the formats are read with; each is a recursion on the text itself.

* `cut?` splits at the first place where a given text occurs.
* `splitWhere` gives the fields between characters that satisfy a test, and `splitAt` those between
  copies of one character.
* `replaceAll` replaces the occurrences of a text from left to right, without overlap.
* `before` is the order of texts by their characters.
-/

set_option autoImplicit false

namespace ApiFlow

/-- A text is the list of its characters. -/
abbrev Text := List Char

instance : Coe String Text := ⟨String.toList⟩

namespace Text

/-- Splits at the first occurrence of `token`: what stands before it and what follows it. -/
def cut? (token : Text) : Text → Option (Text × Text)
  | [] => if token.isEmpty then some ([], []) else none
  | c :: s =>
    if token.isPrefixOf (c :: s) then some ([], (c :: s).drop token.length)
    else (cut? token s).map fun p => (c :: p.1, p.2)

/-- Whether `token` stands somewhere in the text. -/
def occursIn (token s : Text) : Bool := (cut? token s).isSome

/-- Splits at the first `mark`. -/
def cutAt? (mark : Char) : Text → Option (Text × Text)
  | [] => none
  | c :: s => if c = mark then some ([], s) else (cutAt? mark s).map fun p => (c :: p.1, p.2)

/-- Adds a character in front of the first field. -/
def pushFirst (c : Char) : List Text → List Text
  | [] => [[c]]
  | field :: fields => (c :: field) :: fields

/-- The fields between the characters that satisfy `p`; there is one more field than such characters. -/
def splitWhere (p : Char → Bool) : Text → List Text
  | [] => [[]]
  | c :: s => if p c then [] :: splitWhere p s else pushFirst c (splitWhere p s)

/-- The fields between copies of `mark`. -/
def splitAt (mark : Char) (s : Text) : List Text := splitWhere (· = mark) s

def join (separator : Text) : List Text → Text
  | [] => []
  | [field] => field
  | field :: fields => field ++ separator ++ join separator fields

/-- Replaces `old` by `new` in what follows the next `skip` characters, which are dropped. -/
def replaceFrom (old new : Text) : Nat → Text → Text
  | _, [] => []
  | skip + 1, _ :: s => replaceFrom old new skip s
  | 0, c :: s =>
    if old.isPrefixOf (c :: s) then new ++ replaceFrom old new (old.length - 1) s
    else c :: replaceFrom old new 0 s

/-- Replaces every occurrence of a non-empty `old`, from left to right and without overlap. -/
def replaceAll (old new s : Text) : Text := replaceFrom old new 0 s

/-- The rest of a text after a start it has; the text itself where it does not start so. -/
def dropStart (start s : Text) : Text :=
  if start.isPrefixOf s then s.drop start.length else s

/-- What stands before an end that the text has. -/
def stripEnd? (ending s : Text) : Option Text :=
  if ending.isSuffixOf s then some (s.take (s.length - ending.length)) else none

def dropEndWhile (p : Char → Bool) (s : Text) : Text := (s.reverse.dropWhile p).reverse

/-- The order of texts: the first differing character decides, and a text comes after its own starts. -/
def before : Text → Text → Bool
  | [], [] => false
  | [], _ :: _ => true
  | _ :: _, [] => false
  | a :: s, b :: t => if a = b then before s t else a.val < b.val

/-- Sorts texts by `before`. -/
def sort (texts : List Text) : List Text := texts.mergeSort fun a b => !before b a

/-- Blanks on the right up to a width; a longer text stays as it is. -/
def padRight (width : Nat) (s : Text) : Text := s ++ List.replicate (width - s.length) ' '

def padLeft (width : Nat) (s : Text) : Text := List.replicate (width - s.length) ' ' ++ s

/-- The decimal digits of a natural number. -/
def ofNat (n : Nat) : Text := Nat.toDigits 10 n

def ofInt (i : Int) : Text :=
  if i < 0 then '-' :: ofNat i.natAbs else ofNat i.natAbs

/-- Each text once, in the order of first appearance. -/
def unique (texts : List Text) : List Text :=
  texts.foldl (fun seen t => if seen.contains t then seen else seen ++ [t]) []

end Text

end ApiFlow

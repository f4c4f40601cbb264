import ApiFlow.Text.Basic
import ApiFlow.Text.CaseTable

/-!
# Upper and lower case

Case mapping of whole texts.  A character may have an upper case of several characters (`ß` becomes `SS`);
the lower case of a capital sigma depends on its place in the word:
it is the final form where a cased letter stands before it and none after it.

Two letters are the same up to case if their lower cases are equal, or if their lower cases share an upper case (the
long `ſ` and `s`, the two forms of sigma).

* `upper` and `lower` map texts.
* `sameLower` lists the lower-case letters that share an upper case with a lower-case letter.
* `lowerOrigins` lists the letters that have a given lower case.
* `hasCaseBetween` tells whether a range of code points holds a letter with two cases.
-/

set_option autoImplicit false

namespace ApiFlow.Text

/-- The character that a table of runs pairs with `n`. -/
def shift? (runs : List (Nat × Nat × Nat × Int)) (n : Nat) : Option Char :=
  (runs.find? fun r => r.1 ≤ n && n ≤ r.2.1 && (n - r.1) % r.2.2.1 = 0).map fun r =>
    Char.ofNat ((n : Int) + r.2.2.2).toNat

def upperChar (c : Char) : Text :=
  if c.toNat < 128 then [c.toUpper]
  else match longUppers.find? fun r => r.1 = c.toNat with
    | some r => r.2.map Char.ofNat
    | none => [(shift? upperRuns c.toNat).getD c]

/-- The lower case of one character taken alone, where it is a single character. -/
def lowerSimple (c : Char) : Char :=
  if c.toNat < 128 then c.toLower
  else if c.toNat = 0x130 then 'i'
  else (shift? lowerRuns c.toNat).getD c

def isCased (c : Char) : Bool := upperChar c != [c] || lowerSimple c != c

/-- A cased letter, whether or not it has another case (`ª`, `ĸ` and the mathematical letters have none). -/
def isWordLetter (c : Char) : Bool := casedRanges.any fun r => r.1 ≤ c.toNat && c.toNat ≤ r.2

/-- A character that neither continues nor ends a word, such as an apostrophe, a full stop or an accent. -/
def isPassed (c : Char) : Bool := passedRanges.any fun r => r.1 ≤ c.toNat && c.toNat ≤ r.2

def upper (s : Text) : Text := s.flatMap upperChar

/-- Whether a text starts with a cased letter, the characters that words pass over left aside. -/
def continuesWord (s : Text) : Bool := ((s.dropWhile isPassed).head?.map isWordLetter).getD false

/-- Lower case of what follows a text whose last character that is not passed over is a cased letter or not. -/
def lowerFrom (afterLetter : Bool) : Text → Text
  | [] => []
  | c :: s =>
    let mapped : Text :=
      if c.toNat = 0x3a3 then
        if afterLetter && !continuesWord s then [Char.ofNat 0x3c2] else [Char.ofNat 0x3c3]
      else if c.toNat = 0x130 then ['i', Char.ofNat 0x307]
      else [lowerSimple c]
    mapped ++ lowerFrom (if isPassed c then afterLetter else isWordLetter c) s

/-- Lower case of a text; a capital sigma that ends a word becomes the final form. -/
def lower (s : Text) : Text := lowerFrom false s

/-! ## Letters that differ in case only -/

/-- Lower-case letters with the other lower-case letters of the same upper case. -/
def sharedUppers : List (Nat × List Nat) := [
  (0x69, [0x131]), (0x73, [0x17f]), (0xb5, [0x3bc]), (0x131, [0x69]), (0x17f, [0x73]),
  (0x345, [0x3b9, 0x1fbe]), (0x390, [0x1fd3]), (0x3b0, [0x1fe3]), (0x3b2, [0x3d0]), (0x3b5, [0x3f5]),
  (0x3b8, [0x3d1]), (0x3b9, [0x345, 0x1fbe]), (0x3ba, [0x3f0]), (0x3bc, [0xb5]), (0x3c0, [0x3d6]),
  (0x3c1, [0x3f1]), (0x3c2, [0x3c3]), (0x3c3, [0x3c2]), (0x3c6, [0x3d5]), (0x3d0, [0x3b2]),
  (0x3d1, [0x3b8]), (0x3d5, [0x3c6]), (0x3d6, [0x3c0]), (0x3f0, [0x3ba]), (0x3f1, [0x3c1]),
  (0x3f5, [0x3b5]), (0x432, [0x1c80]), (0x434, [0x1c81]), (0x43e, [0x1c82]), (0x441, [0x1c83]),
  (0x442, [0x1c84, 0x1c85]), (0x44a, [0x1c86]), (0x463, [0x1c87]), (0x1c80, [0x432]), (0x1c81, [0x434]),
  (0x1c82, [0x43e]), (0x1c83, [0x441]), (0x1c84, [0x442, 0x1c85]), (0x1c85, [0x442, 0x1c84]), (0x1c86, [0x44a]),
  (0x1c87, [0x463]), (0x1c88, [0xa64b]), (0x1e61, [0x1e9b]), (0x1e9b, [0x1e61]), (0x1fbe, [0x345, 0x3b9]),
  (0x1fd3, [0x390]), (0x1fe3, [0x3b0]), (0xa64b, [0x1c88]), (0xfb05, [0xfb06]), (0xfb06, [0xfb05])]

/-- The other lower-case letters that share an upper case with a lower-case letter. -/
def sameLower (n : Nat) : List Nat := ((sharedUppers.find? fun r => r.1 = n).map Prod.snd).getD []

/-- The code point of the lower case of a code point; one that is no character is its own. -/
def lowerCode (n : Nat) : Nat := if n.isValidChar then (lowerSimple (Char.ofNat n)).toNat else n

/-- The code point of the upper case of a code point, or the first one where there are several. -/
def upperCode (n : Nat) : Nat :=
  if n.isValidChar then ((upperChar (Char.ofNat n)).head?.map Char.toNat).getD n else n

def lowerAscii (n : Nat) : Nat := if 65 ≤ n && n ≤ 90 then n + 32 else n

/-- Whether a code point has another case. -/
def hasCase (n : Nat) : Bool := n.isValidChar && isCased (Char.ofNat n)

/-- Whether a run of every `stride`-th code point meets a range. -/
def runMeets (lo hi : Nat) (run : Nat × Nat × Nat × Int) : Bool :=
  let (first, last, stride, _) := run
  let start := if lo ≤ first then first else first + (lo - first + stride - 1) / stride * stride
  start ≤ last && start ≤ hi

/-- Whether a range of code points holds one that has another case. -/
def hasCaseBetween (lo hi : Nat) : Bool :=
  (lo ≤ 90 && 65 ≤ hi) || (lo ≤ 122 && 97 ≤ hi) || (lo ≤ 0x130 && 0x130 ≤ hi)
    || upperRuns.any (runMeets lo hi) || lowerRuns.any (runMeets lo hi)
    || longUppers.any fun r => lo ≤ r.1 && r.1 ≤ hi

/-- The code points with a given lower case, itself included if it is its own. -/
def lowerOrigins (n : Nat) : List Nat :=
  (if lowerCode n = n then [n] else [])
    ++ (if 97 ≤ n && n ≤ 122 then [n - 32] else [])
    ++ (if n = 105 then [0x130] else [])
    ++ lowerRuns.filterMap fun r =>
        let origin := (n : Int) - r.2.2.2
        if (r.1 : Int) ≤ origin && origin ≤ r.2.1 && (origin.toNat - r.1) % r.2.2.1 = 0 then some origin.toNat
        else none

end ApiFlow.Text

import ApiFlow.Pattern.Basic
import ApiFlow.Text.Class
import ApiFlow.Text.Case

/-!
# Tests of single characters

Where case counts, a character is tested as it is.  Where it does not, what a pattern asks for is lowered once, and each
character of the text is lowered before it is tested.  Lowering is that of the ASCII letters or that of all letters; only
the latter takes letters for the same that share an upper case.  A class without any letter that has two cases is
tested as it is even so.  Code points beyond the first plane stay in a class as they are written, so that a class that
names their upper case only does not hold them.

* `Single.ofLiteral` and `Single.ofMembers` give the tests of a character and of a class.
* `Single.holds` tests a code point.
-/

set_option autoImplicit false

namespace ApiFlow.Pattern

/-- Whether a code point belongs to a category. -/
def Category.holds (category : Category) (ascii : Bool) (n : Nat) : Bool :=
  let c := Char.ofNat n
  match category with
  | digit => if ascii then 48 ≤ n && n ≤ 57 else Text.isDecimal c
  | space => if ascii then n = 32 || (9 ≤ n && n ≤ 13) else Text.isBlank c
  | word => if ascii && 128 ≤ n then false else Text.isWord c

/-- Whether a code point belongs to a member of a class, case counting. -/
def Member.holds (member : Member) (ascii : Bool) (n : Nat) : Bool :=
  match member with
  | literal code => n = code
  | range lo hi => lo ≤ n && n ≤ hi
  | category c negated => c.holds ascii n != negated

structure CharClass where
  negated : Bool
  items : List Member
  /-- Whether its categories hold ASCII characters only. -/
  ascii : Bool
  deriving DecidableEq, Repr

/-- Whether a code point belongs to a class, case counting. -/
def CharClass.holds (k : CharClass) (n : Nat) : Bool := k.items.any (·.holds k.ascii n) != k.negated

/-- The lower case of a code point, among the ASCII letters or all. -/
def lowered (ascii : Bool) (n : Nat) : Nat := if ascii then Text.lowerAscii n else Text.lowerCode n

/-- Whether a code point has another case, among the ASCII letters or all. -/
def isCased (ascii : Bool) (n : Nat) : Bool :=
  if ascii then (65 ≤ n && n ≤ 90) || (97 ≤ n && n ≤ 122) else Text.hasCase n

/-- The first code point beyond the first plane. -/
def planeEnd : Nat := 0x10000

/-- The lower-case code points that are taken for the same as a lower-case code point. -/
def lowerForms (ascii : Bool) (low : Nat) : List Nat := if ascii then [low] else low :: Text.sameLower low

/-- The code points that a class may name so that it holds the lower-case code point `low`. -/
def spellings (ascii : Bool) (low : Nat) : List Nat :=
  if ascii then if 97 ≤ low && low ≤ 122 then [low, low - 32] else [low]
  else (lowerForms false low).flatMap Text.lowerOrigins

/-- Whether a member of a class makes the class depend on case. -/
def Member.isCased (member : Member) (ascii : Bool) : Bool :=
  match member with
  | literal code => planeEnd ≤ lowered ascii code || Pattern.isCased ascii code
  | range lo hi =>
    planeEnd ≤ hi
      || (if ascii then (lo ≤ 90 && 65 ≤ hi) || (lo ≤ 122 && 97 ≤ hi) else Text.hasCaseBetween lo hi)
  | category _ _ => false

/-- Whether a lowered code point belongs to a member of a class, case not counting. -/
def Member.holdsLowered (member : Member) (ascii : Bool) (low : Nat) : Bool :=
  match member with
  | literal code =>
    let own := lowered ascii code
    if planeEnd ≤ own then low = code else (lowerForms ascii own).contains low
  | range lo hi =>
    let named (n : Nat) : Bool := lo ≤ n && n ≤ hi
    (planeEnd ≤ hi && (named low || named (Text.upperCode low)))
      || (spellings ascii low).any fun n => n < planeEnd && named n
  | category c negated => c.holds ascii low != negated

inductive Single where
  | any (lineEnds : Bool)
  | literal (code : Nat)
  | otherThan (code : Nat)
  /-- A character whose lower case is one of some, or none of them. -/
  | lowered (negated : Bool) (forms : List Nat) (ascii : Bool)
  | members (k : CharClass)
  /-- A character whose lower case belongs to a class. -/
  | loweredMembers (k : CharClass) (ascii : Bool)
  deriving DecidableEq, Repr

namespace Single

def ofLiteral (flags : Flags) (negated : Bool) (code : Nat) : Single :=
  if flags.ignoreCase && isCased flags.ascii code then
    .lowered negated (lowerForms flags.ascii (Pattern.lowered flags.ascii code)) flags.ascii
  else if negated then .otherThan code
  else .literal code

/-- The test of a class. -/
def ofMembers (flags : Flags) (negated : Bool) (items : List Member) : Single :=
  let k : CharClass := { negated, items, ascii := flags.ascii }
  if flags.ignoreCase && items.any (·.isCased flags.ascii) then .loweredMembers k flags.ascii else .members k

/-- Whether a code point passes a test. -/
def holds (s : Single) (n : Nat) : Bool :=
  match s with
  | any lineEnds => lineEnds || n != 10
  | literal code => n = code
  | otherThan code => n != code
  | lowered negated forms ascii => forms.contains (Pattern.lowered ascii n) != negated
  | members k => k.holds n
  | loweredMembers k ascii => k.items.any (·.holdsLowered ascii (Pattern.lowered ascii n)) != k.negated

/-- Whether a test goes through a class of lowered characters. -/
def isLoweredClass : Single → Bool
  | lowered _ forms _ => 1 < forms.length
  | loweredMembers _ _ => true
  | _ => false

end Single

end ApiFlow.Pattern

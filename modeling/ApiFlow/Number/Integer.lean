import ApiFlow.Text.Quoted

/-!
# Reading integers

An integer literal is an optional sign and digits, with blanks around it and single underscores between digits.  The
digits are decimal digits of any script; to a base above ten, letters follow them, and to the bases two, eight and sixteen
the digits may stand behind the mark of the base.  A literal of more than 4300 digits is refused unless the base is a
power of two; the digits are counted, leading zeros included, before what follows them is looked at.

* `twoTo`, `tenTo` are the powers that the number formats are built on.
* `readIn` gives the integer that a text spells to a base, or the reason why there is none.
* `read` does so to base ten.
* `text?` writes an integer, which may not have more digits either.
-/

set_option autoImplicit false

namespace ApiFlow

def twoTo (n : Nat) : Nat := Nat.pow 2 n

def tenTo (n : Nat) : Nat := Nat.pow 10 n

end ApiFlow

namespace ApiFlow.Integer

/-- The most digits that an integer literal may have. -/
def digitLimit : Nat := 4300

/-- Why a text is no integer to a base. -/
inductive ReadError where
  | literal (base : Nat) (text : Text)
  | tooLong (digits : Nat)
  deriving DecidableEq, Repr

/-- The most characters of a refused literal that are shown. -/
def shownLimit : Nat := 200

/-- What is said of more digits than are allowed. -/
def limitText : Text := "Exceeds the limit (4300 digits) for integer string conversion".toList

def limitAdvice : Text := "; use sys.set_int_max_str_digits() to increase the limit".toList

/-- The wording of a reading error; of a long literal only the start is shown. -/
def ReadError.message : ReadError → Text
  | .literal base text =>
    "invalid literal for int() with base " ++ Text.ofNat base ++ ": " ++ (Text.quoted text).take shownLimit
  | .tooLong digits => limitText ++ ": value has " ++ Text.ofNat digits ++ " digits" ++ limitAdvice

/-- What is said of an integer that is too long to be written. -/
def unwritable : Text := limitText ++ limitAdvice

/-- The decimal text of an integer, unless it has more digits than the limit. -/
def text? (i : Int) : Option Text := if i.natAbs < tenTo digitLimit then some (Text.ofInt i) else none

/-- The value of a row of digit values to a base, most significant first. -/
def valueIn (base : Nat) (digits : List Nat) : Nat := digits.foldl (fun n d => n * base + d) 0

/-- The value of a row of decimal digit values, most significant first. -/
def valueOf (digits : List Nat) : Nat := valueIn 10 digits

/-- The value of a letter that follows the ten digits. -/
def letterValue? (c : Char) : Option Nat :=
  if 'a' ≤ c && c ≤ 'z' then some (c.toNat - 87)
  else if 'A' ≤ c && c ≤ 'Z' then some (c.toNat - 55)
  else none

def digitIn? (base : Nat) (c : Char) : Option Nat :=
  ((Text.decimalValue? c).orElse fun _ => letterValue? c).filter (· < base)

/-- The digit values to a base at the start of a text, read past single underscores, and the rest; `none` where an
underscore does not stand between two digits. -/
def digitRunIn (base : Nat) : (afterDigit : Bool) → Text → Option (List Nat × Text)
  | _, [] => some ([], [])
  | afterDigit, c :: s =>
    match digitIn? base c with
    | some d => (digitRunIn base true s).map fun r => (d :: r.1, r.2)
    | none =>
      if c = '_' then
        match afterDigit, s with
        | true, e :: t =>
          match digitIn? base e with
          | some d => (digitRunIn base true t).map fun r => (d :: r.1, r.2)
          | none => none
        | _, _ => none
      else some ([], c :: s)

/-- The decimal digit values at the start of a text, and the rest. -/
def digitRun (afterDigit : Bool) (s : Text) : Option (List Nat × Text) := digitRunIn 10 afterDigit s

/-- Splits a sign off a text; `true` for minus. -/
def signOf : Text → Bool × Text
  | '-' :: s => (true, s)
  | '+' :: s => (false, s)
  | s => (false, s)

def markLetter? (base : Nat) : Option Char :=
  if base = 2 then some 'b' else if base = 8 then some 'o' else if base = 16 then some 'x' else none

/-- What follows the mark of a base, if the text starts with it; an underscore may stand behind the mark. -/
def dropMark (base : Nat) (s : Text) : Text :=
  match s with
  | zero :: letter :: rest =>
    if Text.decimalValue? zero = some 0 && markLetter? base = some letter.toLower then
      match rest with
      | '_' :: digits => digits
      | digits => digits
    else s
  | _ => s

def readIn (base : Nat) (text : Text) : Except ReadError Int :=
  let (negative, body) := signOf (Text.trimNumber text)
  match digitRunIn base false (dropMark base body) with
  | none => .error (.literal base text)
  | some (digits, rest) =>
    if (markLetter? base).isNone && digits.length > digitLimit then .error (.tooLong digits.length)
    else if digits.isEmpty || !rest.isEmpty then .error (.literal base text)
    else .ok (if negative then -(valueIn base digits : Int) else valueIn base digits)

def read (text : Text) : Except ReadError Int := readIn 10 text

end ApiFlow.Integer

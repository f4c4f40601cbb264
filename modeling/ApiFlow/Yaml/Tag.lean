import ApiFlow.Text.Case
import ApiFlow.Yaml.Stamp

/-!
# Tags: what a node stands for

A plain scalar stands for what it looks like: a truth value, a number in one of several bases, nothing, a date; otherwise
it is a text.  A tag in front of a node says so outright.

* `Tag.ofScalar` is the tag of a plain scalar.
* `Tag.ofName` is the tag with a full name.
-/

set_option autoImplicit false

namespace ApiFlow.Yaml

/-- What a node stands for. -/
inductive Tag where
  | text
  | truth
  | integer
  | real
  | nothing
  | time
  | binary
  | merge
  | equals
  | list
  | set
  | map
  /-- A list of pairs, written as a list of maps with one entry each. -/
  | pairs
  | unknown
  deriving DecidableEq, Repr

/-! ## Forms of scalars -/

/-- Whether a text has at least one character and all satisfy a test. -/
def someAll (p : Char → Bool) (s : Text) : Bool := !s.isEmpty && s.all p

/-- A digit or an underscore. -/
def isSpacedDigit (c : Char) : Bool := c.isDigit || c = '_'

/-- A digit, followed by digits and underscores. -/
def isSpacedNumber (s : Text) : Bool := (s.head?.map Char.isDigit).getD false && s.all isSpacedDigit

/-- A number below sixty, on one or two places. -/
def isSixtieth : Text → Bool
  | [a] => a.isDigit
  | [a, b] => '0' ≤ a && a ≤ '5' && b.isDigit
  | _ => false

/-- A truth value. -/
def isTruth (s : Text) : Bool :=
  ["yes", "Yes", "YES", "no", "No", "NO", "true", "True", "TRUE", "false", "False", "FALSE", "on", "On", "ON", "off",
    "Off", "OFF"].any fun w => w.toList = s

/-- Nothing. -/
def isNothing (s : Text) : Bool := ["", "~", "null", "Null", "NULL"].any fun w => w.toList = s

/-- An exponent, which has a sign. -/
def isExponent : Text → Bool
  | e :: sign :: digits => (e = 'e' || e = 'E') && (sign = '-' || sign = '+') && someAll Char.isDigit digits
  | _ => false

/-- What stands behind the digits of a fraction. -/
def endsReal (s : Text) : Bool :=
  let rest := s.dropWhile isSpacedDigit
  rest.isEmpty || isExponent rest

/-- A number in minutes and seconds, or in further sixtieths. -/
def isSexagesimal (isLast : Text → Bool) (s : Text) : Bool :=
  match Text.splitAt ':' s with
  | first :: second :: others =>
    let parts := second :: others
    isSpacedNumber first && parts.dropLast.all isSixtieth && (parts.getLast?.map isLast).getD false
  | _ => false

/-- A number below sixty with a point and further digits. -/
def isSixtiethReal (s : Text) : Bool :=
  match Text.cutAt? '.' s with
  | some (whole, fraction) => isSixtieth whole && fraction.all isSpacedDigit
  | none => false

/-- A real number with digits in front of its point. -/
def isDecimalReal (s : Text) : Bool :=
  match Text.cutAt? '.' s with
  | some (whole, rest) => isSpacedNumber whole && endsReal rest
  | none => false

def isReal (s : Text) : Bool :=
  let body := (Integer.signOf s).2
  isDecimalReal body || isSexagesimal isSixtiethReal body
    || [".inf", ".Inf", ".INF"].any (fun w => w.toList = body)
    || [".nan", ".NaN", ".NAN"].any (fun w => w.toList = s)
    || (match s with
      | '.' :: d :: rest => d.isDigit && endsReal rest
      | _ => false)

def isHexDigit (c : Char) : Bool := (Integer.digitIn? 16 c).isSome && c.toNat < 128

def isInteger (s : Text) : Bool :=
  match (Integer.signOf s).2 with
  | '0' :: rest =>
    rest.isEmpty || rest.all (fun c => ('0' ≤ c && c ≤ '7') || c = '_')
      || (match rest with
        | 'b' :: digits => someAll (fun c => c = '0' || c = '1' || c = '_') digits
        | 'x' :: digits => someAll (fun c => isHexDigit c || c = '_') digits
        | _ => false)
  | body => isSpacedNumber body || isSexagesimal isSixtieth body

/-- A sign that is no scalar of its own. -/
def isLoneSign (s : Text) : Bool := s = ['!'] || s = ['&'] || s = ['*']

/-! ## Tags -/

namespace Tag

/-- What one line looks like. -/
def ofLine (s : Text) : Tag :=
  if isTruth s then truth
  else if isReal s then real
  else if isInteger s then integer
  else if s = "<<".toList then merge
  else if isNothing s then nothing
  else if isTime s then time
  else if s = ['='] then equals
  else if isLoneSign s then unknown
  else text

/-- What a scalar looks like; a line end behind it does not count, but is no scalar by itself. -/
def ofScalar (s : Text) : Tag := if s = ['\n'] then text else ofLine (withoutBreak s)

def stem : Text := "tag:yaml.org,2002:".toList

def names : List (String × Tag) := [
  ("str", text), ("bool", truth), ("int", integer), ("float", real), ("null", nothing), ("timestamp", time),
  ("binary", binary), ("merge", merge), ("value", equals), ("seq", list), ("set", set), ("map", map), ("omap", pairs),
  ("pairs", pairs)]

def ofName (name : Text) : Tag :=
  ((names.find? fun e => stem ++ e.1.toList = name).map Prod.snd).getD unknown

end Tag

end ApiFlow.Yaml

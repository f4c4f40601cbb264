import ApiFlow.Yaml.Tag

/-!
# The values of scalars

What the text of a scalar is worth under its tag: a truth value, an integer to base two, eight, ten, sixteen or in
sixtieths, a real number, bytes, a date.  Underscores in numbers count for nothing.

* `Tag.read` is the value of a scalar under a tag.
-/

set_option autoImplicit false

namespace ApiFlow.Yaml.Tag

/-- The integer to a base that a text spells. -/
def inBase (base : Nat) (s : Text) : Except Error Int :=
  match Integer.readIn base s with
  | .ok i => .ok i
  | .error e => wrongScalar (.integer e)

/-- The number without its sign that an integer scalar spells; parts between colons are sixtieths. -/
def magnitude (s : Text) : Except Error Int :=
  match s with
  | [] => wrongScalar .noDigits
  | ['0'] => .ok 0
  | '0' :: 'b' :: digits => inBase 2 digits
  | '0' :: 'x' :: digits => inBase 16 digits
  | '0' :: _ => inBase 8 s
  | _ => do
    let parts ← (Text.splitAt ':' s).mapM (inBase 10)
    return parts.foldl (fun n d => 60 * n + d) 0

def readInteger (s : Text) : Except Error Value :=
  let (negative, body) := Integer.signOf (s.filter (· != '_'))
  (magnitude body).map fun n => .int (if negative then -n else n)

def realOf (s : Text) : Except Error Double :=
  match Double.read? s with
  | some x => .ok x
  | none => wrongScalar (.real s)

/-- The sum of sixtieths, from the last to the first, as long as a double can hold their number. -/
def sixtieths : (base : Nat) → (sum : Double) → List Double → Except Error Double
  | _, sum, [] => .ok sum
  | base, sum, x :: parts =>
    match Double.ofInt base with
    | .infinite _ => wrongScalar .tooManySixtieths
    | count => sixtieths (60 * base) (sum.add (x.mul count)) parts

/-- The value of a real scalar; a sign may stand alone in front of nothing, which is no number. -/
def readReal (s : Text) : Except Error Value := do
  let s := Text.lower (s.filter (· != '_'))
  if s.isEmpty then wrongScalar .noDigits
  let (negative, body) := Integer.signOf s
  let x ←
    if body = ".inf".toList then .ok (Double.infinite false)
    else if body = ".nan".toList then .ok Double.nan
    else if body.contains ':' then do
      let parts ← (Text.splitAt ':' body).mapM realOf
      sixtieths 1 (Double.zero false) parts.reverse
    else realOf body
  return .real (if negative then x.neg else x)

def readTruth (s : Text) : Except Error Value :=
  let s := Text.lower s
  if ["yes", "true", "on"].any fun w => w.toList = s then .ok (.bool true)
  else if ["no", "false", "off"].any fun w => w.toList = s then .ok (.bool false)
  else wrongScalar (.truth s)

/-- The value of a date scalar; the text that stands for a map is no date. -/
def readTime (ofMap : Bool) (s : Text) : Except Error Value :=
  if ofMap then wrongScalar .timeOfMap
  else match Stamp.read? s with
    | some stamp => stamp.value
    | none => wrongScalar .time

/-- The value of a binary scalar. -/
def readBinary (s : Text) : Except Error Value :=
  match Binary.decode? s with
  | some bytes => .ok (.bytes bytes)
  | none => .error .malformed

/-- The value of a scalar under a tag; `ofMap` tells that the text stands for a map. -/
def read (tag : Tag) (ofMap : Bool) (s : Text) : Except Error Value :=
  match tag with
  | text => .ok (.str s)
  | truth => readTruth s
  | integer => readInteger s
  | real => readReal s
  | nothing => .ok .null
  | time => readTime ofMap s
  | binary => readBinary s
  | merge | equals | list | set | map | pairs | unknown => .error .malformed

end ApiFlow.Yaml.Tag

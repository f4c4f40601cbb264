import ApiFlow.Fault
import ApiFlow.Number.Decimal
import ApiFlow.Number.Shortest
import ApiFlow.Pattern.Matcher

/-!
# Comparisons

The expected text of a comparison is worked out if it is arithmetic: decimal literals and the signs `+ - * /` between
blanks, from left to right, without precedence.  Quotes are passed over.  Equality compares texts, order compares doubles,
and `matches` looks for a pattern.

* `evaluate?` gives the value of an expression; a text of another form and a division by zero have none.
* `canonical` writes a value without exponent and without zeros at its end.
* `Relation.holds` decides one relation.
* `compare` gives the verdict on an operator as it is written.
-/

set_option autoImplicit false

/-! ## Arithmetic -/

namespace ApiFlow.Arithmetic

def isQuote (c : Char) : Bool := c = '"' || c = '\''

def operate? (x : Decimal) (sign operand : Text) : Option Decimal := do
  let y ← Decimal.ofLiteral? operand
  if sign = ['+'] then some (x.add y)
  else if sign = ['-'] then some (x.sub y)
  else if sign = ['*'] then some (x.mul y)
  else if sign = ['/'] then if y.isZero then none else some (x.div y)
  else none

/-- Works through signs and operands from left to right. -/
def calculate? : Decimal → List Text → Option Decimal
  | x, [] => some x
  | _, [_] => none
  | x, sign :: operand :: rest => do calculate? (← operate? x sign operand) rest

/-- The words of an expression without quotes. -/
def tokens (expression : Text) : List Text := Text.words (expression.filter (!isQuote ·))

def evaluate? (expression : Text) : Option Decimal :=
  match tokens expression with
  | [] => none
  | first :: rest => do calculate? (← Decimal.ofLiteral? first) rest

/-- The text of a value as a double. -/
def canonical (x : Decimal) : Text := x.toDouble.plain

end ApiFlow.Arithmetic

/-! ## Verdicts -/

namespace ApiFlow.Assertion

/-- What a failed assertion tells. -/
inductive Diagnostic where
  | present (path : Text)
  | absent (path : Text)
  | notFound (key : Text)
  | mismatch (key operator expected actual : Text)
  | pattern (pattern : Text)
  | format (assertion : Text)
  deriving DecidableEq, Repr

def Diagnostic.message : Diagnostic → Text
  | present path => "body path exists: " ++ path
  | absent path => "body path does not exist: " ++ path
  | notFound key => "body path not found: " ++ key
  | mismatch key operator expected actual =>
    key ++ " mismatch\n  Expected: " ++ operator ++ ' ' :: expected ++ "\n  Actual:   " ++ actual
  | pattern p => "invalid regex: " ++ p
  | format assertion => "invalid assertion format: " ++ assertion

/-- The outcome of an assertion. -/
inductive Verdict where
  | pass
  | fail (d : Diagnostic)
  deriving DecidableEq, Repr

def Verdict.passed : Verdict → Bool
  | pass => true
  | fail _ => false

/-- The wording of a verdict; a passed assertion needs none. -/
def Verdict.message : Verdict → Text
  | pass => []
  | fail d => d.message

/-- The relations between an actual and an expected text. -/
inductive Relation where
  | equal
  | unequal
  | atLeast
  | atMost
  | above
  | below
  | fits
  deriving DecidableEq, Repr

namespace Relation

def symbol : Relation → Text
  | equal => "=="
  | unequal => "!="
  | atLeast => ">="
  | atMost => "<="
  | above => ">"
  | below => "<"
  | fits => "matches"

/-- The relations in the order in which a text is searched for them. -/
def all : List Relation := [equal, unequal, atLeast, atMost, above, below, fits]

/-- The relations that may stand without blanks around them. -/
def signs : List Relation := [equal, unequal, atLeast, atMost, above, below]

def ofSymbol? (text : Text) : Option Relation := all.find? fun r => r.symbol = text

/-- Whether two texts spell doubles that `test` accepts. -/
def ordered (test : Double → Double → Bool) (actual expected : Text) : Bool :=
  match Double.read? actual, Double.read? expected with
  | some x, some y => test x y
  | _, _ => false

end Relation

def verdictOf (holds : Bool) (otherwise : Diagnostic) : Verdict := if holds then .pass else .fail otherwise

/-- Looks for a pattern in a text; a text that is no pattern fails the assertion. -/
def matchPattern (pattern actual : Text) (otherwise : Diagnostic) : Except Fault Verdict :=
  match Pattern.search pattern actual with
  | .ok found => .ok (verdictOf found otherwise)
  | .error .malformed => .ok (.fail (.pattern pattern))
  | .error refusal => .error (.pattern refusal)

def Relation.verdict (r : Relation) (expected actual : Text) (otherwise : Diagnostic) : Except Fault Verdict :=
  match r with
  | equal => .ok (verdictOf (actual = expected) otherwise)
  | unequal => .ok (verdictOf (actual != expected) otherwise)
  | atLeast => .ok (verdictOf (ordered (fun x y => y.le x) actual expected) otherwise)
  | atMost => .ok (verdictOf (ordered Double.le actual expected) otherwise)
  | above => .ok (verdictOf (ordered (fun x y => y.lt x) actual expected) otherwise)
  | below => .ok (verdictOf (ordered Double.lt actual expected) otherwise)
  | fits => matchPattern expected actual otherwise

/-- The expected text with its arithmetic worked out. -/
def worked (expected : Text) : Text :=
  match Arithmetic.evaluate? expected with
  | some x => Arithmetic.canonical x
  | none => expected

/-- The verdict on `actual operator expected`; a text that is no operator holds of nothing. -/
def compare (key operator expected actual : Text) : Except Fault Verdict :=
  let expected := worked expected
  let otherwise := Diagnostic.mismatch key operator expected actual
  match Relation.ofSymbol? operator with
  | some r => r.verdict expected actual otherwise
  | none => .ok (.fail otherwise)

end ApiFlow.Assertion

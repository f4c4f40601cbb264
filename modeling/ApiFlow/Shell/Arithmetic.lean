import ApiFlow.Number.Integer
import ApiFlow.Shell.Script
import ApiFlow.Table

/-!
# Arithmetic in commands

Integers of sixty-four bits with the usual operators in the usual order; a name stands for the integer that its variable
spells, or zero, and may be set.  What a choice leaves aside is read but not evaluated.

* `Arithmetic.value` is the value of an expression, with the variables behind it.
* `Arithmetic.scan` reads an integer at the start of a text.
-/

set_option autoImplicit false

namespace ApiFlow.Shell.Arithmetic

/-! ## Integers -/

def least : Int := -(twoTo 63)

def greatest : Int := twoTo 63 - 1

/-- An integer of sixty-four bits: one that is too large or too small goes round. -/
def wrapped (i : Int) : Int := Int.bmod i (twoTo 64)

def decimal (digits : Text) : Nat := digits.foldl (fun n d => 10 * n + (d.toNat - 48)) 0

/-- The value of a digit up to `f`. -/
def digitValue (c : Char) : Nat := if c.isDigit then c.toNat - 48 else c.toLower.toNat - 87

def isHexDigit (c : Char) : Bool := c.isDigit || ('a' ≤ c.toLower && c.toLower ≤ 'f')

def isOctalDigit (c : Char) : Bool := '0' ≤ c && c ≤ '7'

/-- The base of a number without its sign, and its digits with what follows: `0x` in front means base sixteen, a zero
in front base eight. -/
def baseOf (s : Text) : Nat × Text :=
  match s with
  | '0' :: x :: d :: t => if (x = 'x' || x = 'X') && isHexDigit d then (16, d :: t) else (8, s)
  | '0' :: _ => (8, s)
  | _ => (10, s)

def isDigitIn (base : Nat) (c : Char) : Bool :=
  if base = 16 then isHexDigit c else if base = 8 then isOctalDigit c else c.isDigit

/-- A blank in front of a number. -/
def isSpace (c : Char) : Bool := c = ' ' || (9 ≤ c.toNat && c.toNat ≤ 13)

/-- The integer at the start of a text, with what follows it; `bases` tells whether it may be in other bases than ten. -/
def scan (bases : Bool) (s : Text) : Option (Int × Text) :=
  let s := s.dropWhile isSpace
  let (negative, s) := match s with
    | '-' :: t => (true, t)
    | '+' :: t => (false, t)
    | t => (false, t)
  let (base, s) := if bases then baseOf s else (10, s)
  let digits := s.takeWhile (isDigitIn base)
  if digits.isEmpty then none
  else
    let n := digits.foldl (fun n d => base * n + digitValue d) 0
    some (if negative then -(n : Int) else n, s.drop digits.length)

def fits (i : Int) : Bool := least ≤ i && i ≤ greatest

/-- The integer that a whole text spells, with blanks around it. -/
def integer? (bases : Bool) (s : Text) : Option Int :=
  match scan bases s with
  | some (i, rest) => if rest.all isSpace && fits i then some i else none
  | none => none

/-- The integer that a variable spells; one without text is zero. -/
def ofVariable? (s : Text) : Option Int := if s.all isSpace then some 0 else integer? true s

/-! ## Expressions -/

inductive Token where
  | number (i : Int)
  | name (s : Text)
  | sign (s : Text)
  | strange
  deriving DecidableEq, Repr

/-- The operators that stand between two operands, with their ranks; a higher rank binds more closely. -/
def ranks : List (Text × Nat) := [
  ("|", 1), ("^", 2), ("&", 3), ("==", 4), ("!=", 4), ("<", 5), (">", 5), ("<=", 5), (">=", 5), ("<<", 6), (">>", 6),
  ("+", 7), ("-", 7), ("*", 8), ("/", 8), ("%", 8)].map fun r => (r.1.toList, r.2)

/-- The operators that set a variable, with the operator that they apply. -/
def settings : List (Text × Text) :=
  ("=".toList, []) ::
    ["<<", ">>", "+", "-", "*", "/", "%", "&", "|", "^"].map fun s => ((s ++ "=").toList, s.toList)

/-- The signs of an expression, longer ones first. -/
def signs : List Text :=
  ["<<=", ">>=", "<<", ">>", "<=", ">=", "==", "!=", "&&", "||", "+=", "-=", "*=", "/=", "%=", "&=", "|=", "^=", "=", "<",
    ">", "+", "-", "*", "/", "%", "&", "|", "^", "!", "~", "(", ")", "?", ":"].map String.toList

def nearest (i : Int) : Int := min greatest (max least i)

/-- The numbers, names and operators of an expression; a character that is none of them ends it. -/
def tokens : (fuel : Nat) → Text → List Token
  | 0, _ => []
  | fuel + 1, s =>
    match s with
    | [] => []
    | c :: rest =>
      if c = ' ' || c = '\t' || c = '\n' then tokens fuel rest
      else if c.isDigit then
        match scan true s with
        | some (i, rest) => .number (nearest i) :: tokens fuel rest
        | none => [.strange]
      else if startsName c then .name (s.takeWhile isNameChar) :: tokens fuel (s.dropWhile isNameChar)
      else match signs.find? fun written => written.isPrefixOf s with
        | some written => .sign written :: tokens fuel (s.drop written.length)
        | none => [.strange]

/-- Why an expression has no value. -/
inductive Error where
  | expecting (what : Text)
  | divisionByZero
  | overflow
  | badNumber (s : Text)
  | readOnly (name : Text)
  deriving DecidableEq, Repr

def Error.message (expression : Text) : Error → Text
  | expecting what => "arithmetic expression: expecting ".toList ++ what ++ ": \"".toList ++ expression ++ ['"']
  | divisionByZero => "arithmetic expression: division by zero: \"".toList ++ expression ++ ['"']
  | overflow => []
  | badNumber s => "Illegal number: ".toList ++ s
  | readOnly name => name ++ ": is read only".toList

/-- A truth as a number. -/
def ofBool (b : Bool) : Int := if b then 1 else 0

def onBits (f : Nat → Nat → Nat) (a b : Int) : Int :=
  wrapped (f (a % twoTo 64).toNat (b % twoTo 64).toNat)

/-- The value of an operator between two operands. -/
def apply (operator : String) (a b : Int) : Except Error Int :=
  match operator with
  | "+" => .ok (wrapped (a + b))
  | "-" => .ok (wrapped (a - b))
  | "*" => .ok (wrapped (a * b))
  | "/" =>
    if b = 0 then .error .divisionByZero
    else if a = least && b = -1 then .error .overflow
    else .ok (Int.tdiv a b)
  | "%" =>
    if b = 0 then .error .divisionByZero
    else if a = least && b = -1 then .error .overflow
    else .ok (Int.tmod a b)
  | "<<" => .ok (wrapped (a * twoTo (b % 64).toNat))
  | ">>" => .ok (Int.fdiv a (twoTo (b % 64).toNat))
  | "&" => .ok (onBits Nat.land a b)
  | "|" => .ok (onBits Nat.lor a b)
  | "^" => .ok (onBits Nat.xor a b)
  | "==" => .ok (ofBool (a = b))
  | "!=" => .ok (ofBool (a != b))
  | "<" => .ok (ofBool (a < b))
  | "<=" => .ok (ofBool (a ≤ b))
  | ">" => .ok (ofBool (b < a))
  | ">=" => .ok (ofBool (b ≤ a))
  | _ => .error (.expecting "EOF".toList)

/-- The tokens that are left, the variables, and the names that cannot be set. -/
structure State where
  tokens : List Token
  vars : Table Text
  fixed : List Text
  deriving DecidableEq, Repr

abbrev Evaluating := StateT State (Except Error)

def next? : Evaluating (Option Token) := do
  let s ← get
  set { s with tokens := s.tokens.tail }
  return s.tokens.head?

def peekSign : Evaluating Text := do
  match (← get).tokens with
  | .sign s :: _ => return s
  | _ => return []

/-- Moves behind the next token. -/
def advance : Evaluating Unit := modify fun s => { s with tokens := s.tokens.tail }

/-- Moves behind a sign that must stand here. -/
def expect (s : String) : Evaluating Unit := do
  if (← peekSign) = s.toList then advance else throw (.expecting ('\'' :: s.toList ++ ['\'']))

def look (name : Text) : Evaluating Int := do
  let s := ((← get).vars.get? name).getD []
  match ofVariable? s with
  | some i => return i
  | none => throw (.badNumber s)

/-- Sets a variable. -/
def assign (name : Text) (i : Int) : Evaluating Unit := do
  let s ← get
  if s.fixed.contains name then throw (.readOnly name)
  set { s with vars := s.vars.set name (Text.ofInt i) }

mutual

/-- The value of an expression that may set a variable; `idle` tells that nothing is evaluated. -/
def whole : (fuel : Nat) → (idle : Bool) → Evaluating Int
  | 0, _ => throw (.expecting "primary".toList)
  | fuel + 1, idle => do
    let s ← get
    match s.tokens with
    | .name name :: .sign sign :: rest =>
      match settings.find? fun e => e.1 = sign with
      | some (_, operator) => do
        set { s with tokens := rest }
        let i ← whole fuel idle
        if idle then return i
        else do
          let i ← if operator.isEmpty then pure i else apply (String.ofList operator) (← look name) i
          assign name i
          return i
      | none => choice fuel idle
    | _ => choice fuel idle

/-- The value of a choice between two expressions. -/
def choice : (fuel : Nat) → (idle : Bool) → Evaluating Int
  | 0, _ => throw (.expecting "primary".toList)
  | fuel + 1, idle => do
    let test ← either fuel idle
    if (← peekSign) = ['?'] then
      advance
      let yes ← whole fuel (idle || test = 0)
      expect ":"
      let no ← choice fuel (idle || test != 0)
      return if test = 0 then no else yes
    else return test

/-- The truth of one of two expressions. -/
def either : (fuel : Nat) → (idle : Bool) → Evaluating Int
  | 0, _ => throw (.expecting "primary".toList)
  | fuel + 1, idle => do
    let first ← both fuel idle
    if (← peekSign) = ['|', '|'] then
      advance
      let second ← either fuel (idle || first != 0)
      return ofBool (first != 0 || second != 0)
    else return first

/-- The truth of two expressions. -/
def both : (fuel : Nat) → (idle : Bool) → Evaluating Int
  | 0, _ => throw (.expecting "primary".toList)
  | fuel + 1, idle => do
    let first ← level fuel 1 idle
    if (← peekSign) = ['&', '&'] then
      advance
      let second ← both fuel (idle || first = 0)
      return ofBool (first != 0 && second != 0)
    else return first

/-- The value of operators of at least a rank. -/
def level : (fuel least : Nat) → (idle : Bool) → Evaluating Int
  | 0, _, _ => throw (.expecting "primary".toList)
  | fuel + 1, least, idle => do
    let first ← operand fuel idle
    more fuel least idle first

/-- The value of what follows a first operand. -/
def more : (fuel least : Nat) → (idle : Bool) → Int → Evaluating Int
  | 0, _, _, first => return first
  | fuel + 1, least, idle, first => do
    let sign ← peekSign
    match ranks.find? fun r => r.1 = sign with
    | some (_, rank) =>
      if rank < least then return first
      else do
        advance
        let second ← level fuel (rank + 1) idle
        let i ← if idle then pure second else apply (String.ofList sign) first second
        more fuel least idle i
    | none => return first

def operand : (fuel : Nat) → (idle : Bool) → Evaluating Int
  | 0, _ => throw (.expecting "primary".toList)
  | fuel + 1, idle => do
    match ← next? with
    | some (.number i) => return i
    | some (.name name) => if idle then return 0 else look name
    | some (.sign ['(']) => do
      let i ← whole fuel idle
      expect ")"
      return i
    | some (.sign ['+']) => operand fuel idle
    | some (.sign ['-']) => return wrapped (-(← operand fuel idle))
    | some (.sign ['!']) => return ofBool ((← operand fuel idle) = 0)
    | some (.sign ['~']) => return -(← operand fuel idle) - 1
    | _ => throw (.expecting "primary".toList)

end

def value (vars : Table Text) (fixed : List Text) (expression : Text) : Except Error (Int × Table Text) := do
  let tokens := tokens (expression.length + 1) expression
  let (i, s) ← (whole (16 * tokens.length + 16) false).run { tokens, vars, fixed }
  if s.tokens.isEmpty then return (i, s.vars) else throw (.expecting "EOF".toList)

end ApiFlow.Shell.Arithmetic

import ApiFlow.Shell.Arithmetic
import ApiFlow.Shell.Program.Options
import ApiFlow.Shell.Program.Regular

/-!
# Calculating with words

The words of an expression are joined by operators of six ranks.  A word that spells an integer is a number where a number
is asked for, and a text where texts are compared.

* `expr` is the program.
-/

set_option autoImplicit false

namespace ApiFlow.Shell.Program

open Acting

namespace Sum

/-- A step of evaluating; the state is the words that are left. -/
abbrev Evaluating := StateT (List Text) (Except Text)

/-- The operators of each rank, those that bind least first. -/
def ranks : List (List String) := [["|"], ["&"], ["<", "<=", "=", "==", "!=", ">=", ">"], ["+", "-"], ["*", "/", "%"], [":"]]

def integer? (s : Text) : Option Int :=
  let digits := if s.head? = some '-' then s.tail else s
  if digits.isEmpty || !digits.all Char.isDigit then none
  else some (if s.head? = some '-' then -(Arithmetic.decimal digits : Int) else Arithmetic.decimal digits)

/-- Whether a word counts as false. -/
def isNull (s : Text) : Bool := s.isEmpty || integer? s = some 0

def integer (s : Text) : Evaluating Int :=
  match integer? s with
  | some i => return i
  | none => throw "non-integer argument".toList

/-- A truth as a word. -/
def ofBool (b : Bool) : Text := if b then ['1'] else ['0']

/-- Compares words, as integers if both are. -/
def order (a b : Text) : Ordering :=
  match integer? a, integer? b with
  | some i, some j => compare i j
  | _, _ => if Text.before a b then .lt else if Text.before b a then .gt else .eq

/-- What a regular expression matches at the start of a word: its first group, or how much it matches. -/
def matched (s pattern : Text) : Evaluating Text := do
  match Regular.read false pattern with
  | .error e => throw e
  | .ok r =>
    let text := s.toArray
    let hasGroup := (Text.cut? "\\(".toList pattern).isSome
    match (Regular.row .lineStart r).find? false text 0 with
    | some f => return if hasGroup then f.group text 1 else Text.ofNat f.last
    | none => return if hasGroup then [] else ['0']

/-- The value of an operator between two words. -/
def apply (operator : String) (a b : Text) : Evaluating Text := do
  match operator with
  | "|" => return if !isNull a then a else if b.isEmpty then ['0'] else b
  | "&" => return if isNull a || isNull b then ['0'] else a
  | "<" => return ofBool (order a b = .lt)
  | "<=" => return ofBool (order a b != .gt)
  | "=" | "==" => return ofBool (order a b = .eq)
  | "!=" => return ofBool (order a b != .eq)
  | ">=" => return ofBool (order a b != .lt)
  | ">" => return ofBool (order a b = .gt)
  | "+" => return Text.ofInt ((← integer a) + (← integer b))
  | "-" => return Text.ofInt ((← integer a) - (← integer b))
  | "*" => return Text.ofInt ((← integer a) * (← integer b))
  | "/" => do
    let (i, j) := (← integer a, ← integer b)
    if j = 0 then throw "division by zero".toList else return Text.ofInt (i.tdiv j)
  | "%" => do
    let (i, j) := (← integer a, ← integer b)
    if j = 0 then throw "division by zero".toList else return Text.ofInt (i.tmod j)
  | _ => matched a b

def next (before : Text) : Evaluating Text := do
  match ← get with
  | w :: rest => do
    set rest
    return w
  | [] => throw ("syntax error: missing argument after ".toList ++ quoted before)

mutual

/-- The value of the operators of a rank and those that bind more closely. -/
def level : (fuel : Nat) → (ranks : List (List String)) → (before : Text) → Evaluating Text
  | 0, _, _ => return []
  | fuel + 1, ranks, before => do
    match ranks with
    | [] => operand fuel before
    | operators :: others => do
      let first ← level fuel others before
      more fuel operators others first

def more : (fuel : Nat) → (operators : List String) → (others : List (List String)) → Text → Evaluating Text
  | 0, _, _, first => return first
  | fuel + 1, operators, others, first => do
    match ← get with
    | w :: rest =>
      if operators.contains (String.ofList w) then do
        set rest
        let second ← level fuel others w
        more fuel operators others (← apply (String.ofList w) first second)
      else return first
    | [] => return first

/-- A word, what stands in parentheses, or what is asked of words. -/
def operand : (fuel : Nat) → (before : Text) → Evaluating Text
  | 0, _ => return []
  | fuel + 1, before => do
    let w ← next before
    match String.ofList w with
    | "(" => do
      let value ← level fuel ranks w
      match ← get with
      | [')'] :: rest => do
        set rest
        return value
      | other :: _ => throw ("syntax error: expecting ')' instead of ".toList ++ quoted other)
      | [] => throw ("syntax error: expecting ')' after ".toList ++ quoted value)
    | "length" => return Text.ofNat (← operand fuel w).length
    | "index" => do
      let s ← operand fuel w
      let set_ ← operand fuel s
      return Text.ofNat (((s.findIdx? set_.contains).map (· + 1)).getD 0)
    | "match" => do
      let s ← operand fuel w
      matched s (← operand fuel s)
    | "substr" => do
      let s ← operand fuel w
      let first ← operand fuel s
      let size ← operand fuel first
      match integer? first, integer? size with
      | some i, some n => return if i < 1 || n < 1 then [] else (s.drop (i.toNat - 1)).take n.toNat
      | _, _ => return []
    | "+" => next w
    | _ => return w

end

def value (words : List Text) : Except Text Text := do
  let (s, rest) ← (level (16 * words.length + 16) ranks []).run words
  match rest with
  | [] => return s
  | w :: _ => throw ("syntax error: unexpected argument ".toList ++ quoted w)

end Sum

/-- Prints the value of an expression. -/
def expr (arguments : List Text) : Acting Unit := do
  let words := if arguments.head? = some ['-', '-'] then arguments.tail else arguments
  if words.isEmpty then misused "expr" 2 "missing operand".toList
  else
    match Sum.value words with
    | .ok s => do
      sayLines [s]
      setStatus (if Sum.isNull s then 1 else 0)
    | .error e => failed "expr" 2 e

end ApiFlow.Shell.Program

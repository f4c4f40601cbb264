import ApiFlow.Pattern.Basic
import ApiFlow.Pattern.Error

/-!
# Reading patterns token by token

A token is a character, alone or behind a backslash.  A reader holds the token that comes next and the text behind it, so
that a backslash with nothing behind it is found out as soon as the token before it is taken, and no sooner.  It also keeps
the groups seen so far, because references may only name groups that are closed.

* `peek` and `take` give the next token; `accept`, `acceptOne` and `takeSome` take what they are asked for.
* `openGroup` and `closeGroup` number the groups.
-/

set_option autoImplicit false

namespace ApiFlow.Pattern

/-- A character of a pattern, alone or behind a backslash. -/
inductive Token where
  | plain (c : Char)
  | escaped (c : Char)
  deriving DecidableEq, Repr

def Token.raw : Token → Text
  | plain c => [c]
  | escaped c => ['\\', c]

/-- What a reader knows. -/
structure Reader where
  /-- The token that comes next. -/
  next : Option Token := none
  /-- The text behind it. -/
  rest : Text
  /-- The width of each closed group, and nothing for an open one; the first stands for the whole. -/
  groups : List (Option (Nat × Nat)) := [none]
  names : List (Text × Nat) := []
  /-- The number of groups before the outermost lookbehind being read. -/
  behindGroups : Option Nat := none
  /-- The flags of the whole pattern. -/
  flags : Flags := {}
  unicodeGiven : Bool := false
  asciiGiven : Bool := false
  /-- Groups that conditions name by number. -/
  asked : List Nat := []

/-- A step of reading. -/
abbrev Reading (α : Type) := StateT Reader (Except Refusal) α

/-- Gives up. -/
def malformed {α : Type} : Reading α := throw .malformed

/-- Brings up the token behind the next one. -/
def advance : Reading Unit := do
  let r ← get
  match r.rest with
  | [] => set { r with next := none }
  | ['\\'] => malformed
  | '\\' :: c :: rest => set { r with next := some (.escaped c), rest }
  | c :: rest => set { r with next := some (.plain c), rest }

def peek : Reading (Option Token) := do return (← get).next

def take : Reading (Option Token) := do
  let t ← peek
  advance
  return t

def accept (c : Char) : Reading Bool := do
  if (← peek) = some (.plain c) then
    advance
    return true
  else return false

/-- Takes one of several characters if it is next. -/
def acceptOne (marks : List Char) : Reading (Option Char) := do
  match ← peek with
  | some (.plain c) =>
    if marks.contains c then
      advance
      return some c
    else return none
  | _ => return none

/-- Takes characters while they satisfy a test, at most `count`. -/
def takeSome (p : Char → Bool) : (count : Nat) → Reading Text
  | 0 => return []
  | count + 1 => do
    match ← peek with
    | some (.plain c) =>
      if p c then
        advance
        return c :: (← takeSome p count)
      else return []
    | _ => return []

/-- The number of tokens ahead is at most this. -/
def remaining : Reading Nat := do return (← get).rest.length + 1

/-- The text up to a closing character, which is taken too; `fuel` bounds the tokens. -/
def textUntil (mark : Char) : (fuel : Nat) → Reading Text
  | 0 => malformed
  | fuel + 1 => do
    match ← take with
    | none => malformed
    | some t => if t = .plain mark then return [] else return t.raw ++ (← textUntil mark fuel)

def takeUntil (mark : Char) : Reading Text := do
  let text ← textUntil mark ((← remaining) + 1)
  if text.isEmpty then malformed else return text

/-- Drops a comment up to the closing parenthesis. -/
def skipComment : Reading Unit := do let _ ← textUntil ')' ((← remaining) + 1)

/-- Drops the rest of a line; `fuel` bounds the tokens. -/
def skipLine : (fuel : Nat) → Reading Unit
  | 0 => return
  | fuel + 1 => do
    match ← take with
    | none => return
    | some t => if t = .plain '\n' then return else skipLine fuel

def close : Reading Unit := do
  if ← accept ')' then return else malformed

def openGroup (name : Option Text) : Reading Nat := do
  let r ← get
  let number := r.groups.length
  match name with
  | none => set { r with groups := r.groups ++ [none] }
  | some n =>
    if r.names.any fun p => p.1 = n then malformed
    set { r with groups := r.groups ++ [none], names := (n, number) :: r.names }
  return number

def closeGroup (number : Nat) (body : List Node) : Reading Unit :=
  modify fun r => { r with groups := r.groups.set number (some (rowWidth body)) }

def groupNamed (name : Text) : Reading Nat := do
  match (← get).names.find? fun p => p.1 = name with
  | some (_, n) => return n
  | none => malformed

/-- Checks that a lookbehind refers to groups before it only. -/
def checkBehind (number : Nat) : Reading Unit := do
  let r ← get
  match r.behindGroups with
  | none => return
  | some before =>
    if (r.groups.getD number none).isNone || before ≤ number then malformed

/-- A reference to a group that is closed. -/
def referTo (number : Nat) : Reading Node := do
  match (← get).groups.getD number none with
  | none => malformed
  | some width =>
    checkBehind number
    return .reference number width

end ApiFlow.Pattern

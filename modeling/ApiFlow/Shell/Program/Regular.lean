import ApiFlow.Shell.Fields

/-!
# Regular expressions of programs

Programs that search know two ways of writing a regular expression: in the simple one most signs stand for themselves unless
a backslash is in front of them, in the extended one it is the other way round.  A match takes as much as it can.

* `Regular.read` reads an expression.
* `Regular.find?` gives the first place where it matches, with the places of its groups.
-/

set_option autoImplicit false

namespace ApiFlow.Shell.Program

inductive Regular where
  | itself (c : Char)
  | one
  | among (negated : Bool) (members : List Member)
  | word (negated : Bool)
  | blank (negated : Bool)
  | lineStart
  | lineEnd
  | wordStart
  | wordEnd
  | wordEdge (negated : Bool)
  | same (number : Nat)
  | nothing
  | row (first second : Regular)
  | either (first second : Regular)
  | group (number : Nat) (body : Regular)
  | repeated (least : Nat) (most? : Option Nat) (body : Regular)
  deriving Repr

namespace Regular

/-! ## Reading -/

/-- What is left of an expression, and the number of groups so far. -/
structure Left where
  rest : Text
  groups : Nat := 0

/-- A step of reading; an error is the wording of what is wrong. -/
abbrev Reading := StateT Left (Except Text)

/-- A sign of an expression: one that has a meaning, or a character that stands for itself. -/
inductive Sign where
  | meaning (c : Char)
  | itself (c : Char)
  | finish
  deriving DecidableEq, Repr

/-- The signs whose meaning a backslash gives or takes. -/
def isTurned (c : Char) : Bool := c = '+' || c = '?' || c = '|' || c = '(' || c = ')' || c.toNat = 0x7b || c.toNat = 0x7d

/-- The signs that mean something without a backslash in both ways of writing. -/
def isAlways (c : Char) : Bool := c = '.' || c = '[' || c = '*' || c = '^' || c = '$'

/-- The next sign, with what stands behind it; letters and digits behind a backslash have a meaning. -/
def signOf (extended : Bool) (s : Text) : Sign × Text :=
  match s with
  | [] => (.finish, [])
  | '\\' :: 'n' :: rest => (.itself '\n', rest)
  | '\\' :: c :: rest =>
    if isTurned c then (if extended then .itself c else .meaning c, rest)
    else if c.isAlphanum || c = '<' || c = '>' || c.toNat = 0x60 || c = '\'' then (.meaning c, rest)
    else (.itself c, rest)
  | c :: rest => (if isAlways c || (isTurned c && extended) then .meaning c else .itself c, rest)

def peek (extended : Bool) : Reading Sign := return (signOf extended (← get).rest).1

/-- Moves behind the next sign. -/
def advance (extended : Bool) : Reading Unit := modify fun s => { s with rest := (signOf extended s.rest).2 }

def brackets : Reading Regular := do
  let s ← get
  let negated := s.rest.head? = some '^'
  let rest := if negated then s.rest.tail else s.rest
  let letters := rest.map fun c => (⟨c, c = '\\'⟩ : Letter)
  match Wildcard.members? (letters.length + 1) true letters with
  | some (members, left) => do
    set { s with rest := Letter.text left }
    return .among negated members
  | none => throw "Unmatched [, [^, [:, [., or [=".toList

/-- The least and the greatest number of times between braces, with what stands behind them. -/
def bounds? (extended : Bool) (s : Text) : Option (Nat × Option Nat × Text) :=
  let number (t : Text) : Nat := t.foldl (fun n d => 10 * n + (d.toNat - 48)) 0
  let closing : Text := if extended then r"}".toList else r"\}".toList
  let first := s.takeWhile Char.isDigit
  let rest := s.drop first.length
  let close? (t : Text) : Option Text := if closing.isPrefixOf t then some (t.drop closing.length) else none
  match rest with
  | ',' :: t =>
    let second := t.takeWhile Char.isDigit
    (close? (t.drop second.length)).map fun t =>
      (number first, if second.isEmpty then none else some (number second), t)
  | t => if first.isEmpty then none else (close? t).map fun t => (number first, some (number first), t)

/-- The meaning of a letter or a digit behind a backslash. -/
def escaped (c : Char) : Regular :=
  match c with
  | 'w' => .word false
  | 'W' => .word true
  | 's' => .blank false
  | 'S' => .blank true
  | 'b' => .wordEdge false
  | 'B' => .wordEdge true
  | '<' => .wordStart
  | '>' => .wordEnd
  | _ => if c.isDigit then .same (c.toNat - 48) else .itself c

/-- Whether an expression ends in front of what is left, or an alternative does. -/
def endsHere (extended : Bool) (s : Text) : Bool :=
  match (signOf extended s).1 with
  | .finish => true
  | .meaning c => c = '|' || c = ')'
  | .itself _ => false

mutual

/-- Alternatives. -/
def choice (extended : Bool) : (fuel : Nat) → Reading Regular
  | 0 => return .nothing
  | fuel + 1 => do
    let first ← rowFrom extended fuel true
    if (← peek extended) = .meaning '|' then
      advance extended
      return .either first (← choice extended fuel)
    else return first

/-- Parts one after the other; `first` tells that none stands before. -/
def rowFrom (extended : Bool) : (fuel : Nat) → (first : Bool) → Reading Regular
  | 0, _ => return .nothing
  | fuel + 1, first => do
    if endsHere extended (← get).rest then
      return .nothing
    else
      let part ← single extended fuel first
      let part ← times extended fuel part
      let isStart := match part with
        | .lineStart => true
        | _ => false
      return .row part (← rowFrom extended fuel (first && isStart))

/-- A part with the signs behind it that repeat it. -/
def times (extended : Bool) : (fuel : Nat) → Regular → Reading Regular
  | 0, part => return part
  | fuel + 1, part => do
    match ← peek extended with
    | .meaning '*' => do
      advance extended
      times extended fuel (.repeated 0 none part)
    | .meaning '+' => do
      advance extended
      times extended fuel (.repeated 1 none part)
    | .meaning '?' => do
      advance extended
      times extended fuel (.repeated 0 (some 1) part)
    | .meaning c =>
      if c.toNat = 0x7b then
        match bounds? extended (signOf extended (← get).rest).2 with
        | some (least, most?, rest) => do
          modify fun s => { s with rest }
          times extended fuel (.repeated least most? part)
        | none => return part
      else return part
    | _ => return part

def single (extended : Bool) : (fuel : Nat) → (first : Bool) → Reading Regular
  | 0, _ => return .nothing
  | fuel + 1, first => do
    let sign ← peek extended
    let escapes := (← get).rest.head? = some '\\'
    advance extended
    match sign with
    | .finish => return .nothing
    | .itself c => return .itself c
    | .meaning '(' => do
      modify fun s => { s with groups := s.groups + 1 }
      let number := (← get).groups
      let body ← choice extended fuel
      if (← peek extended) = .meaning ')' then
        advance extended
        return .group number body
      else throw "Unmatched ( or \\(".toList
    | .meaning c =>
      if escapes && !isTurned c then return escaped c
      else if c = '.' then return .one
      else if c = '[' then brackets
      else if c = '^' then return if extended || first then .lineStart else .itself c
      else if c = '$' then return if extended || endsHere extended (← get).rest then .lineEnd else .itself c
      else return .itself c

end

def read (extended : Bool) (s : Text) : Except Text Regular := do
  let (r, left) ← (choice extended (4 * s.length + 8)).run { rest := s }
  if left.rest.isEmpty then return r else throw "Unmatched ) or \\)".toList

/-! ## Matching -/

/-- Where a match stands, and where its groups start and end. -/
structure Place where
  at_ : Nat
  groups : List (Nat × Nat × Nat) := []

def alike (folds : Bool) (a b : Char) : Bool := a = b || (folds && a.toLower = b.toLower)

def isWordChar (c : Char) : Bool := c.isAlphanum || c = '_'

def wordAt (text : Array Char) (n : Nat) : Bool := (text[n]?.map isWordChar).getD false

def wordBefore (text : Array Char) (n : Nat) : Bool := n != 0 && wordAt text (n - 1)

def isAmong (folds : Bool) (members : List Member) (c : Char) : Bool :=
  members.any fun m => Wildcard.Member.covers c m ||
    (folds && (Wildcard.Member.covers c.toLower m || Wildcard.Member.covers c.toUpper m))

/-- Matches an expression at a place; `next` is what is to follow. -/
def attempt (folds : Bool) (text : Array Char) : (fuel : Nat) → Regular → Place → (Place → Option Place) → Option Place
  | 0, _, _, _ => none
  | fuel + 1, r, p, next =>
    let character (holds : Char → Bool) : Option Place :=
      match text[p.at_]? with
      | some c => if holds c then next { p with at_ := p.at_ + 1 } else none
      | none => none
    let here (holds : Bool) : Option Place := if holds then next p else none
    match r with
    | .itself c => character (alike folds c)
    | .one => character fun _ => true
    | .among negated members => character fun c => isAmong folds members c != negated
    | .word negated => character fun c => isWordChar c != negated
    | .blank negated => character fun c => (c = ' ' || (9 ≤ c.toNat && c.toNat ≤ 13)) != negated
    | .lineStart => here (p.at_ = 0)
    | .lineEnd => here (p.at_ = text.size)
    | .wordStart => here (wordAt text p.at_ && !wordBefore text p.at_)
    | .wordEnd => here (!wordAt text p.at_ && wordBefore text p.at_)
    | .wordEdge negated => here ((wordAt text p.at_ != wordBefore text p.at_) != negated)
    | .same number =>
      match p.groups.find? fun g => g.1 = number with
      | some (_, first, last) =>
        let size := last - first
        if (List.range size).all fun i =>
            match text[first + i]?, text[p.at_ + i]? with
            | some a, some b => alike folds a b
            | _, _ => false
        then next { p with at_ := p.at_ + size }
        else none
      | none => none
    | .nothing => next p
    | .row a b => attempt folds text fuel a p fun p => attempt folds text fuel b p next
    | .either a b => (attempt folds text fuel a p next).or (attempt folds text fuel b p next)
    | .group number body =>
      attempt folds text fuel body p fun q =>
        next { q with groups := (number, p.at_, q.at_) :: q.groups.filter fun g => g.1 != number }
    | .repeated least most? body =>
      let more : Option Place :=
        if most? = some 0 then none
        else attempt folds text fuel body p fun q =>
          if q.at_ = p.at_ && least = 0 then none
          else attempt folds text fuel (.repeated (least - 1) (most?.map (· - 1)) body) q next
      if least = 0 then more.or (next p) else more

def size : Regular → Nat
  | .row a b => size a + size b + 1
  | .either a b => size a + size b + 1
  | .group _ body => size body + 1
  | .repeated least most? body => size body + least + most?.getD 0 + 1
  | _ => 1

/-- A match: where it starts and ends, and the places of its groups. -/
structure Found where
  first : Nat
  last : Nat
  groups : List (Nat × Nat × Nat)
  deriving Repr

/-- The first match from a place on. -/
def find? (folds : Bool) (r : Regular) (text : Array Char) (start : Nat) : Option Found :=
  let fuel := (size r + 2) * (text.size + 2) + 16
  (List.range (text.size + 1 - start)).findSome? fun i =>
    (attempt folds text fuel r { at_ := start + i } some).map fun p => ⟨start + i, p.at_, p.groups⟩

/-- The text of a group; the whole match is the group zero. -/
def Found.group (f : Found) (text : Array Char) (number : Nat) : Text :=
  let cut (first last : Nat) : Text := (text.toList.take last).drop first
  if number = 0 then cut f.first f.last
  else match f.groups.find? fun g => g.1 = number with
    | some (_, first, last) => cut first last
    | none => []

end Regular

end ApiFlow.Shell.Program

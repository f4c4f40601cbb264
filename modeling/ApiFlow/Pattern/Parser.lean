import ApiFlow.Pattern.Reader
import ApiFlow.Text.CharacterName
import ApiFlow.Text.Identifier

/-!
# Reading patterns

A pattern is written with the special characters `. ^ $ * + ? { } [ ] ( ) |` and the backslash.  Groups open with `(`; what
follows `(?` gives them a name, flags, or another meaning.  A character may be written by its number or by its name.

* `parse` gives the nodes of a pattern with its flags and the number of its groups, or the reason why there are none.
-/

set_option autoImplicit false

namespace ApiFlow.Pattern

/-- A digit below eight. -/
def isOctal (c : Char) : Bool := '0' ≤ c && c ≤ '7'

def isAsciiDigit (c : Char) : Bool := '0' ≤ c && c ≤ '9'

def isHexDigit (c : Char) : Bool := isAsciiDigit c || ('a' ≤ c && c ≤ 'f') || ('A' ≤ c && c ≤ 'F')

/-- A letter from A to Z in either case. -/
def isAsciiLetter (c : Char) : Bool := ('a' ≤ c && c ≤ 'z') || ('A' ≤ c && c ≤ 'Z')

/-- The value of a digit in any base up to sixteen. -/
def digitOf (c : Char) : Nat :=
  if isAsciiDigit c then c.toNat - 48 else c.toLower.toNat - 87

def valueIn (base : Nat) (digits : Text) : Nat := digits.foldl (fun n c => n * base + digitOf c) 0

/-- Exactly `count` hexadecimal digits. -/
def hexCode (count : Nat) : Reading Nat := do
  let digits ← takeSome isHexDigit count
  if digits.length = count then return valueIn 16 digits else malformed

def namedCode : Reading Nat := do
  if !(← accept '{') then malformed
  match Text.codeNamed? (← takeUntil '}') with
  | some n => return n
  | none => malformed

/-- The category of a letter behind a backslash. -/
def category? (c : Char) : Option Member :=
  if c = 'd' then some (.category .digit false)
  else if c = 'D' then some (.category .digit true)
  else if c = 's' then some (.category .space false)
  else if c = 'S' then some (.category .space true)
  else if c = 'w' then some (.category .word false)
  else if c = 'W' then some (.category .word true)
  else none

/-- The anchor of a letter behind a backslash. -/
def anchor? (c : Char) : Option Anchor :=
  if c = 'A' then some .textStart
  else if c = 'Z' then some .textEnd
  else if c = 'b' then some .boundary
  else if c = 'B' then some .inside
  else none

/-- The control character of a letter behind a backslash. -/
def control? (c : Char) : Option Nat :=
  if c = 'a' then some 7
  else if c = 'f' then some 12
  else if c = 'n' then some 10
  else if c = 'r' then some 13
  else if c = 't' then some 9
  else if c = 'v' then some 11
  else if c = '\\' then some 92
  else none

/-- The code point of `\x`, `\u`, `\U` or `\N`. -/
def codeEscape? (c : Char) : Option (Reading Nat) :=
  if c = 'x' then some (hexCode 2)
  else if c = 'u' then some (hexCode 4)
  else if c = 'U' then some do
    let n ← hexCode 8
    if n < 0x110000 then return n else malformed
  else if c = 'N' then some namedCode
  else none

/-- A member of a class behind a backslash. -/
def memberEscape (c : Char) : Reading Member := do
  match category? c with
  | some m => return m
  | none =>
    if c = 'b' then return .literal 8
    match control? c with
    | some n => return .literal n
    | none =>
      match codeEscape? c with
      | some read => return .literal (← read)
      | none =>
        if isOctal c then
          let more ← takeSome isOctal 2
          let n := valueIn 8 (c :: more)
          if n ≤ 255 then return .literal n else malformed
        else if isAsciiDigit c || isAsciiLetter c then malformed
        else return .literal c.toNat

/-- A digit behind a backslash: an octal code point, or a reference to a group. -/
def digitEscape (c : Char) : Reading Node := do
  if c = '0' then
    let more ← takeSome isOctal 2
    return .literal (valueIn 8 more)
  let second ← takeSome isAsciiDigit 1
  let octal := isOctal c && !second.isEmpty && second.all isOctal
  let third ← if octal then takeSome isOctal 1 else pure []
  if !third.isEmpty then
    let n := valueIn 8 (c :: second ++ third)
    if n ≤ 255 then return .literal n else malformed
  else referTo (valueIn 10 (c :: second))

/-- What stands behind a backslash outside a class. -/
def escape (c : Char) : Reading Node := do
  match anchor? c with
  | some a => return .anchor a
  | none =>
    match category? c with
    | some m => return .members false [m]
    | none =>
      match control? c with
      | some n => return .literal n
      | none =>
        match codeEscape? c with
        | some read => return .literal (← read)
        | none =>
          if isAsciiDigit c then digitEscape c
          else if isAsciiLetter c then malformed
          else return .literal c.toNat

/-- A member of a class that begins with a token. -/
def classMember : Token → Reading Member
  | .plain c => return .literal c.toNat
  | .escaped c => memberEscape c

/-- The members of a class up to its closing bracket; `fuel` bounds their number. -/
def classMembers : (fuel : Nat) → (seen : List Member) → Reading (List Member)
  | 0, _ => malformed
  | fuel + 1, seen => do
    match ← take with
    | none => malformed
    | some t =>
      if t = .plain ']' && !seen.isEmpty then return seen
      let lo ← classMember t
      if ← accept '-' then
        match ← take with
        | none => malformed
        | some (.plain ']') => return seen ++ [lo, .literal 45]
        | some u =>
          match lo, ← classMember u with
          | .literal a, .literal b =>
            if a ≤ b then classMembers fuel (seen ++ [.range a b]) else malformed
          | _, _ => malformed
      else classMembers fuel (seen ++ [lo])

/-- A class behind its opening bracket; a class of one character is that character. -/
def classNode : Reading Node := do
  let negated ← accept '^'
  match distinct (← classMembers ((← remaining) + 1) []), negated with
  | [.literal n], false => return .literal n
  | [.literal n], true => return .otherThan n
  | items, _ => return .members negated items

/-- The number of repetitions that digits spell. -/
def countOf (digits : Text) : Reading Nat := do
  match Integer.read digits with
  | .error e => throw (.count e)
  | .ok n => if countLimit ≤ n.toNat then throw .countTooLarge else return n.toNat

/-- The counts between braces; nothing where the braces are plain text, and then no token is taken. -/
def counts? : Reading (Option (Nat × Option Nat)) := do
  let before ← get
  if before.next = some (.plain '}') then return none
  let many ← remaining
  let lo ← takeSome isAsciiDigit many
  let hi ← if ← accept ',' then takeSome isAsciiDigit many else pure lo
  if ← accept '}' then
    let least ← if lo.isEmpty then pure 0 else countOf lo
    if hi.isEmpty then return some (least, none)
    let most ← countOf hi
    if most < least then malformed
    return some (least, some most)
  else
    set before
    return none

/-- Whether a repetition may follow a part. -/
def mayFollow : Node → Bool
  | .anchor _ => false
  | .repetition _ _ _ _ => false
  | _ => true

/-- The temper of a repetition, from the mark behind it. -/
def takeTemper : Reading Temper := do
  match ← acceptOne ['?', '+'] with
  | some '?' => return .lazy
  | some _ => return .possessive
  | none => return .greedy

def repeatLast (parts : List Node) (least : Nat) (most : Option Nat) : Reading (List Node) := do
  match parts.getLast? with
  | none => malformed
  | some part =>
    if !mayFollow part then malformed
    return parts.dropLast ++ [.repetition least most (← takeTemper) (flattened [part])]

def isFlagLetter (c : Char) : Bool := ['i', 'L', 'm', 's', 'x', 'a', 't', 'u'].contains c

/-- The letters turned on behind `(?`, and the character that ends them. -/
def lettersOn : (fuel : Nat) → (letters : List Char) → Char → Reading (List Char × Char)
  | 0, _, _ => malformed
  | fuel + 1, letters, c => do
    if c = 'L' then malformed
    let letters := letters ++ [c]
    if isKindLetter c && letters.any fun d => isKindLetter d && d != c then malformed
    match ← take with
    | some (.plain d) =>
      if d = ')' || d = '-' || d = ':' then return (letters, d)
      if isFlagLetter d then lettersOn fuel letters d else malformed
    | _ => malformed

/-- The letters turned off behind `-`, up to the colon. -/
def lettersOff : (fuel : Nat) → (letters : List Char) → Char → Reading (List Char)
  | 0, _, _ => malformed
  | fuel + 1, letters, c => do
    if isKindLetter c then malformed
    match ← take with
    | some (.plain d) =>
      if d = ':' then return letters ++ [c]
      if isFlagLetter d then lettersOff fuel (letters ++ [c]) d else malformed
    | _ => malformed

/-- Flags behind `(?`: a change for one group, or nothing where they were set for the whole pattern. -/
def flagChange (first : Char) : Reading (Option FlagChange) := do
  let fuel := (← remaining) + 1
  let (on, stop) ← if first = '-' then pure ([], '-') else lettersOn fuel [] first
  if stop = ')' then
    modify fun r => { r with
      flags := r.flags.change { on }
      asciiGiven := r.asciiGiven || on.contains 'a'
      unicodeGiven := r.unicodeGiven || on.contains 'u' }
    return none
  if on.contains 't' then malformed
  let off ←
    if stop = '-' then
      match ← take with
      | some (.plain d) => if isFlagLetter d then lettersOff fuel [] d else malformed
      | _ => malformed
    else pure []
  if off.contains 't' || on.any off.contains then malformed
  return some { on, off }

def groupLimit : Nat := 1073741823

/-- The group that a condition asks for, by name or by number. -/
def conditionGroup : Reading Nat := do
  let name ← takeUntil ')'
  let number ←
    if Text.isIdentifier name then groupNamed name
    else
      match Integer.read name with
      | .ok (.ofNat (n + 1)) =>
        if groupLimit ≤ n + 1 then malformed
        modify fun r => { r with asked := (n + 1) :: r.asked }
        pure (n + 1)
      | _ => malformed
  checkBehind number
  return number

/-- What an opening parenthesis begins. -/
inductive Opening where
  | group (number : Option Nat) (change : FlagChange)
  | atomic
  | look (isAhead negated : Bool)
  | condition (number : Nat)
  | reference (number : Nat)
  | comment
  | globalFlags

/-- Reads what follows `(?`. -/
def extension : Reading Opening := do
  match ← take with
  | some (.plain 'P') =>
    match ← acceptOne ['<', '='] with
    | some '<' =>
      let name ← takeUntil '>'
      if !Text.isIdentifier name then malformed
      return .group (some (← openGroup (some name))) {}
    | some _ =>
      let name ← takeUntil ')'
      if !Text.isIdentifier name then malformed
      return .reference (← groupNamed name)
    | none => malformed
  | some (.plain ':') => return .group none {}
  | some (.plain '#') =>
    skipComment
    return .comment
  | some (.plain '=') => return .look true false
  | some (.plain '!') => return .look true true
  | some (.plain '<') =>
    match ← acceptOne ['=', '!'] with
    | some c => return .look false (c = '!')
    | none => malformed
  | some (.plain '(') => return .condition (← conditionGroup)
  | some (.plain '>') => return .atomic
  | some (.plain c) =>
    if isFlagLetter c || c = '-' then
      match ← flagChange c with
      | none => return .globalFlags
      | some change => return .group none change
    else malformed
  | _ => malformed

/-- Reads what follows an opening parenthesis. -/
def opening : Reading Opening := do
  if ← accept '?' then extension
  else return .group (some (← openGroup none)) {}

def isIdleChar (c : Char) : Bool := c = ' ' || (9 ≤ c.toNat && c.toNat ≤ 13)

mutual

/-- Alternatives up to a closing parenthesis or the end; `fuel` bounds the nesting and the length. -/
def alternatives :
    (fuel : Nat) → (spaced outermost : Bool) → (earlier : List (List Node)) → Reading (List Node)
  | 0, _, _, _ => malformed
  | fuel + 1, spaced, outermost, earlier => do
    let r ← get
    let branch ← row fuel (if outermost then r.flags.spaced else spaced) (outermost && earlier.isEmpty) []
    if ← accept '|' then alternatives fuel spaced outermost (earlier ++ [branch])
    else return joined (earlier ++ [branch])

/-- Parts one behind the other; at the first place of a pattern flags may be set for all of it. -/
def row : (fuel : Nat) → (spaced first : Bool) → (parts : List Node) → Reading (List Node)
  | 0, _, _, _ => malformed
  | fuel + 1, spaced, first, parts => do
    match ← peek with
    | none => return flattened parts
    | some (.plain '|') => return flattened parts
    | some (.plain ')') => return flattened parts
    | some (.escaped c) =>
      advance
      row fuel spaced first (parts ++ [← escape c])
    | some (.plain c) =>
      advance
      if spaced && isIdleChar c then row fuel spaced first parts
      else if spaced && c = '#' then
        skipLine ((← remaining) + 1)
        row fuel spaced first parts
      else if c = '[' then row fuel spaced first (parts ++ [← classNode])
      else if c = '?' then row fuel spaced first (← repeatLast parts 0 (some 1))
      else if c = '*' then row fuel spaced first (← repeatLast parts 0 none)
      else if c = '+' then row fuel spaced first (← repeatLast parts 1 none)
      else if c = '{' then
        match ← counts? with
        | some (least, most) => row fuel spaced first (← repeatLast parts least most)
        | none => row fuel spaced first (parts ++ [.literal c.toNat])
      else if c = '.' then row fuel spaced first (parts ++ [.any])
      else if c = '^' then row fuel spaced first (parts ++ [.anchor .lineStart])
      else if c = '$' then row fuel spaced first (parts ++ [.anchor .lineEnd])
      else if c = '(' then
        match ← opening with
        | .comment => row fuel spaced first parts
        | .globalFlags =>
          let r ← get
          if !first || !parts.isEmpty then malformed else row fuel r.flags.spaced first parts
        | .reference n => row fuel spaced first (parts ++ [← referTo n])
        | .group number change =>
          let body ← alternatives fuel ((spaced || change.on.contains 'x') && !change.off.contains 'x') false []
          close
          match number with
          | some n => closeGroup n body
          | none => pure ()
          row fuel spaced first (parts ++ [.group number change body])
        | .atomic =>
          let body ← alternatives fuel spaced false []
          close
          row fuel spaced first (parts ++ [.atomic body])
        | .look isAhead negated =>
          let outer := (← get).behindGroups
          if !isAhead && outer.isNone then modify fun r => { r with behindGroups := some r.groups.length }
          let body ← alternatives fuel spaced false []
          if !isAhead then modify fun r => { r with behindGroups := outer }
          close
          row fuel spaced first (parts ++ [if isAhead then .ahead negated body else .behind negated body])
        | .condition number =>
          let yes ← row fuel spaced false []
          let no ← if ← accept '|' then row fuel spaced false [] else pure []
          close
          row fuel spaced first (parts ++ [.conditional number yes no])
      else row fuel spaced first (parts ++ [.literal c.toNat])

end

structure Source where
  nodes : List Node
  flags : Flags
  /-- The number of groups. -/
  groups : Nat

/-- Reads a whole pattern. -/
def parse (text : Text) : Except Refusal Source :=
  match (do advance; alternatives (2 * text.length + 4) false true []).run { rest := text } with
  | .error e => .error e
  | .ok (nodes, r) =>
    if r.asciiGiven && r.unicodeGiven then .error .flagConflict
    else if r.next.isSome then .error .malformed
    else if r.asked.any fun n => r.groups.length ≤ n then .error .malformed
    else .ok { nodes, flags := r.flags, groups := r.groups.length - 1 }

end ApiFlow.Pattern

import ApiFlow.Yaml.Cursor
import ApiFlow.Yaml.Error

/-!
# Scalars as they are written

Scalars are plain, quoted or blocks of lines.  Each function reads one from a place and gives its text and the place
behind it; a line end inside a plain or quoted scalar reads as a blank, further ones as line ends.

* `quotedScalar` reads a scalar between quotes.
* `block?` reads a literal or folded block.
* `plain` reads a plain scalar, and tells whether a line end was passed.
-/

set_option autoImplicit false

namespace ApiFlow.Yaml

/-- The text of a line end followed by others: a single one reads as a blank. -/
def folded (first : Text) (others : Text) : Text :=
  if first != ['\n'] then first ++ others else if others.isEmpty then [' '] else others

/-! ## Quoted scalars -/

def escape? (c : Char) : Option Char :=
  if c = '0' then some (Char.ofNat 0)
  else if c = 'a' then some (Char.ofNat 7)
  else if c = 'b' then some (Char.ofNat 8)
  else if c = 't' || c = '\t' then some '\t'
  else if c = 'n' then some '\n'
  else if c = 'v' then some (Char.ofNat 11)
  else if c = 'f' then some (Char.ofNat 12)
  else if c = 'r' then some '\r'
  else if c = 'e' then some (Char.ofNat 27)
  else if c = ' ' || c = '"' || c = '\\' || c = '/' then some c
  else if c = 'N' then some (Char.ofNat 0x85)
  else if c = '_' then some (Char.ofNat 0xa0)
  else if c = 'L' then some (Char.ofNat 0x2028)
  else if c = 'P' then some (Char.ofNat 0x2029)
  else none

/-- The number of hexadecimal digits behind an escape letter. -/
def escapeWidth? (c : Char) : Option Nat :=
  if c = 'x' then some 2 else if c = 'u' then some 4 else if c = 'U' then some 8 else none

/-- The number that exactly `width` hexadecimal digits spell. -/
def hexNumber? (width : Nat) (digits : Text) : Option Nat := do
  let values ← (digits.take width).mapM fun c => if c.toNat < 128 then Integer.digitIn? 16 c else none
  if values.length = width then some (Integer.valueIn 16 values) else none

/-- Line ends and the blanks around them inside a quoted scalar; a document mark may not stand there. -/
def quotedBreaks : (fuel : Nat) → Cursor → Except Error (Text × Cursor)
  | 0, _ => .error .malformed
  | fuel + 1, c =>
    if c.atDocumentMark then .error .malformed
    else
      let c := c.dropWhile isSpace
      if (c.peek.map isBreak).getD false then do
        let (first, c) := c.lineBreak
        let (rest, c) ← quotedBreaks fuel c
        return (first ++ rest, c)
      else .ok ([], c)

/-- The blanks and line ends between two words of a quoted scalar. -/
def quotedSpaces (c : Cursor) : Except Error (Text × Cursor) := do
  let (blanks, c) := c.takeWhile isSpace
  let x ← orMalformed c.peek
  if isBreak x then
    let (first, c) := c.lineBreak
    let (others, c) ← quotedBreaks (c.rest.length + 1) c
    return (folded first others, c)
  else return (blanks, c)

/-- The character with a number; numbers of more than 31 bits are refused for themselves. -/
def characterOf (n : Nat) : Except Error Char :=
  if twoTo 31 ≤ n then wrongScalar .characterNumber
  else if 0x110000 ≤ n then wrongScalar .character
  else .ok (Char.ofNat n)

/-- An escape behind its backslash. -/
def escaped (c : Cursor) : Except Error (Text × Cursor) := do
  let x ← orMalformed c.peek
  match escape? x with
  | some y => return ([y], c.next)
  | none =>
    match escapeWidth? x with
    | some width => do
      let n ← orMalformed (hexNumber? width c.next.rest)
      return ([← characterOf n], c.skip (width + 1))
    | none =>
      if isBreak x then quotedBreaks (c.rest.length + 1) c.lineBreak.2 else .error .malformed

/-- A character that stands for itself in both kinds of quotes. -/
def isQuotedChar (c : Char) : Bool := c != '\'' && c != '"' && c != '\\' && !isSpace c && !isBreak c

/-- The inside of a quoted scalar up to its closing quote, and the place behind the quote. -/
def quotedBody (double : Bool) : (fuel : Nat) → Cursor → Except Error (Text × Cursor)
  | 0, _ => .error .malformed
  | fuel + 1, c => do
    let x ← orMalformed c.peek
    let (piece, c) ←
      if isQuotedChar x then pure (c.takeWhile isQuotedChar)
      else if isSpace x || isBreak x then quotedSpaces c
      else if double then
        if x = '"' then return ([], c.next)
        else if x = '\\' then escaped c.next
        else pure ([x], c.next)
      else if x = '\'' then
        if c.peekAt 1 = some '\'' then pure (['\''], c.skip 2) else return ([], c.next)
      else pure ([x], c.next)
    let (rest, c) ← quotedBody double fuel c
    return (piece ++ rest, c)

def quotedScalar (c : Cursor) : Except Error (Text × Cursor) :=
  quotedBody (c.peek = some '"') (c.rest.length + 1) c.next

/-! ## Block scalars -/

/-- What becomes of the line ends behind a block. -/
inductive Chomping where
  | clip
  | strip
  | keep
  deriving DecidableEq, Repr

def chomping? (c? : Option Char) : Option Chomping :=
  if c? = some '+' then some .keep else if c? = some '-' then some .strip else none

def indentDigit? (c? : Option Char) : Option Nat :=
  c?.bind fun c => if '0' ≤ c && c ≤ '9' then some (c.toNat - 48) else none

/-- The signs behind the mark of a block: its chomping and its indentation, in either order. -/
def blockSigns (c : Cursor) : Chomping × Option Nat × Cursor :=
  match chomping? c.peek with
  | some chomping =>
    match indentDigit? c.next.peek with
    | some n => (chomping, some n, c.skip 2)
    | none => (chomping, none, c.next)
  | none =>
    match indentDigit? c.peek with
    | none => (.clip, none, c)
    | some n =>
      match chomping? c.next.peek with
      | some chomping => (chomping, some n, c.skip 2)
      | none => (.clip, some n, c.next)

/-- The blank lines in front of a block without a given indentation, and the widest of their columns. -/
def blockStart : (fuel widest : Nat) → Cursor → Text × Nat × Cursor
  | 0, widest, c => ([], widest, c)
  | fuel + 1, widest, c =>
    match c.peek with
    | none => ([], widest, c)
    | some x =>
      if x = ' ' then blockStart fuel (max widest c.next.column) c.next
      else if isBreak x then
        let (first, c) := c.lineBreak
        let (rest, widest, c) := blockStart fuel widest c
        (first ++ rest, widest, c)
      else ([], widest, c)

/-- Moves up to a column over blanks. -/
def indentTo (indent : Nat) : (fuel : Nat) → Cursor → Cursor
  | 0, c => c
  | fuel + 1, c => if c.column < indent && c.peek = some ' ' then indentTo indent fuel c.next else c

/-- The blank lines inside a block, and the place at the indentation behind them. -/
def blockBreaks (indent : Nat) : (fuel : Nat) → Cursor → Text × Cursor
  | 0, c => ([], c)
  | fuel + 1, c =>
    let c := indentTo indent indent c
    if (c.peek.map isBreak).getD false then
      let (first, c) := c.lineBreak
      let (rest, c) := blockBreaks indent fuel c
      (first ++ rest, c)
    else ([], c)

/-- What stands between two lines of a block: a folded line end is a blank, unless one of the lines is indented further. -/
def lineJoint (fold : Bool) (lineEnd breaks : Text) (leadingWord : Bool) (next? : Option Char) : Text :=
  if fold && lineEnd = ['\n'] && leadingWord && !(next?.map isSpace).getD false then
    if breaks.isEmpty then [' '] else breaks
  else lineEnd ++ breaks

/-- The lines of a block, the last line end, and the blank lines behind it. -/
def blockLines (fold : Bool) (indent : Nat) : (fuel : Nat) → Cursor → Text × Text × Text × Cursor
  | 0, c => ([], [], [], c)
  | fuel + 1, c =>
    let leadingWord := !(c.peek.map isSpace).getD false
    let (text, c) := c.takeWhile (!isBreak ·)
    let (lineEnd, c) := c.lineBreak
    let (breaks, c) := blockBreaks indent (c.rest.length + 1) c
    if c.column = indent && c.peek.isSome then
      let joint := lineJoint fold lineEnd breaks leadingWord c.peek
      let (rest, lastEnd, lastBreaks, c) := blockLines fold indent fuel c
      (text ++ joint ++ rest, lastEnd, lastBreaks, c)
    else (text, lineEnd, breaks, c)

def chomped (chomping : Chomping) (lineEnd breaks : Text) : Text :=
  match chomping with
  | .clip => lineEnd
  | .strip => []
  | .keep => lineEnd ++ breaks

/-- A block scalar from its mark on, below the given indentation. -/
def block? (fold : Bool) (parent : Int) (c : Cursor) : Option (Text × Cursor) := do
  let (chomping, given?, c) := blockSigns c.next
  if given? = some 0 then none
  if !endsWord c.peek then none
  let c ← c.ignoredLine?
  let least := max (parent + 1).toNat 1
  let (front, indent, c) := match given? with
    | some n =>
      let indent := least + n - 1
      let (front, c) := blockBreaks indent (c.rest.length + 1) c
      (front, indent, c)
    | none =>
      let (front, widest, c) := blockStart (c.rest.length + 1) 0 c
      (front, max least widest, c)
  if c.column = indent && c.peek.isSome then
    let (text, lineEnd, breaks, c) := blockLines fold indent (c.rest.length + 1) c
    some (front ++ text ++ chomped chomping lineEnd breaks, c)
  else some (chomped chomping [] front, c)

/-! ## Plain scalars -/

/-- Whether a plain scalar ends at a character, seen with the one behind it. -/
def endsPlain (inFlow : Bool) (x : Char) (next? : Option Char) : Bool :=
  isSpace x || isBreak x
    || (x = ':' && (endsToken next? || (inFlow && (next?.map fun n => [',', '[', ']', '{', '}'].contains n).getD false)))
    || (inFlow && [',', '?', '[', ']', '{', '}'].contains x)

/-- The word of a plain scalar at the start of a text. -/
def plainWord (inFlow : Bool) : Text → Text
  | [] => []
  | x :: s => if endsPlain inFlow x s.head? then [] else x :: plainWord inFlow s

/-- The blanks and line ends in front of the next line of a plain scalar; nothing if a document mark ends it. -/
def plainBreaks? : (fuel : Nat) → Cursor → Option (Text × Cursor) × Cursor
  | 0, c => (none, c)
  | fuel + 1, c =>
    match c.peek with
    | none => (some ([], c), c)
    | some x =>
      if x = ' ' then plainBreaks? fuel c.next
      else if isBreak x then
        let (first, c) := c.lineBreak
        if c.atDocumentMark then (none, c)
        else match plainBreaks? fuel c with
          | (some (rest, c'), last) => (some (first ++ rest, c'), last)
          | (none, last) => (none, last)
      else (some ([], c), c)

/-- What stands between two words of a plain scalar, the place behind it, and whether it holds a line end; nothing if
the scalar ends here. -/
def plainSpaces (c : Cursor) : Option Text × Cursor × Bool :=
  let (blanks, c) := c.takeWhile (· = ' ')
  if (c.peek.map isBreak).getD false then
    let (first, c) := c.lineBreak
    if c.atDocumentMark then (none, c, true)
    else match plainBreaks? (c.rest.length + 1) c with
      | (some (others, c), _) => (some (folded first others), c, true)
      | (none, c) => (none, c, true)
  else if blanks.isEmpty then (none, c, false)
  else (some blanks, c, false)

/-- A plain scalar: its text, the place behind it, and whether the last thing passed was a line end. -/
def plainFrom (inFlow : Bool) (indent : Int) : (fuel : Nat) → (spaces : Text) → (afterBreak : Bool) → Cursor →
    Text × Cursor × Bool
  | 0, _, afterBreak, c => ([], c, afterBreak)
  | fuel + 1, spaces, afterBreak, c =>
    let word := if c.peek = some '#' then [] else plainWord inFlow c.rest
    if word.isEmpty then ([], c, afterBreak)
    else
      let (spaces?, c, crossed) := plainSpaces (c.skip word.length)
      match spaces? with
      | none => (spaces ++ word, c, crossed)
      | some more =>
        if c.peek = some '#' || (!inFlow && (c.column : Int) < indent) then (spaces ++ word, c, crossed)
        else
          let (rest, c, last) := plainFrom inFlow indent fuel more crossed c
          (spaces ++ word ++ rest, c, last)

def plain (inFlow : Bool) (parent : Int) (c : Cursor) : Text × Cursor × Bool :=
  plainFrom inFlow (parent + 1) (c.rest.length + 1) [] false c

end ApiFlow.Yaml

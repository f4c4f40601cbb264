import ApiFlow.Yaml.Token

/-!
# The layout of a configuration text

The tokens of a text depend on its layout.  Indentation opens and closes blocks; and a key has no sign of its own: that a
token was the start of a key is seen only at the colon behind it, on the same line and at most 1024 characters away.

* `Layout.scan` reads the next tokens.
* `Layout.settle` reads on until it is known which token comes next.
-/

set_option autoImplicit false

namespace ApiFlow.Yaml

structure KeyStart where
  place : Nat
  required : Bool
  index : Nat
  line : Nat
  column : Nat
  deriving DecidableEq, Repr

/-- The state of reading tokens: the tokens that are not taken yet, the last one first, and how many are taken; the columns
of the open blocks, the innermost first; where keys may have started: inside the innermost brackets, and inside those
around them; and whether the end of the text is reached. -/
structure Layout where
  cursor : Cursor
  newest : List Token := []
  taken : Nat := 0
  columns : List Nat := []
  keyAllowed : Bool := true
  key? : Option KeyStart := none
  outer : List (Option KeyStart) := []
  ended : Bool := false
  deriving DecidableEq, Repr

/-- A step of reading tokens. -/
abbrev Lexing := StateT Layout (Except Error)

namespace Layout

/-- Whether brackets are open. -/
def inFlow (s : Layout) : Bool := !s.outer.isEmpty

/-- The column of the innermost block. -/
def indent (s : Layout) : Int := (s.columns.head?.map Int.ofNat).getD (-1)

/-- Whether a key that started earlier can no longer be one. -/
def stale (c : Cursor) (key : KeyStart) : Bool := key.line != c.line || key.index + 1024 < c.index

/-- Gives up a text without structure. -/
def malformed {α : Type} : Lexing α := throw .malformed

def push (t : Token) : Lexing Unit := modify fun s => { s with newest := t :: s.newest }

/-- Moves to a place. -/
def goto (c : Cursor) : Lexing Unit := modify fun s => { s with cursor := c }

/-- Sets whether a key may start next. -/
def allowKey (allowed : Bool) : Lexing Unit := modify fun s => { s with keyAllowed := allowed }

/-- Adds a token that ends at a place. -/
def pushTo (t : Token) (c : Cursor) : Lexing Unit := do
  push t
  goto c

/-- Adds tokens in front of the one at a place. -/
def insert (place : Nat) (added : List Token) : Lexing Unit :=
  modify fun s =>
    let behind := s.taken + s.newest.length - place
    { s with newest := s.newest.take behind ++ added.reverse ++ s.newest.drop behind }

/-- Gives up a key; one that must be there cannot be given up. -/
def kept? (drop : KeyStart → Bool) (key? : Option KeyStart) : Option (Option KeyStart) :=
  match key? with
  | some key => if drop key then (if key.required then none else some none) else some (some key)
  | none => some none

/-- Gives up the keys that can no longer be one. -/
def dropStale : Lexing Unit := do
  let s ← get
  let key? ← liftM (orMalformed (kept? (stale s.cursor) s.key?))
  let outer ← liftM (orMalformed (s.outer.mapM (kept? (stale s.cursor))))
  set { s with key?, outer }

/-- Gives up the key that may have started inside the innermost brackets. -/
def dropKey : Lexing Unit := do
  let s ← get
  let key? ← liftM (orMalformed (kept? (fun _ => true) s.key?))
  set { s with key? }

def startKey : Lexing Unit := do
  if (← get).keyAllowed then
    dropKey
    modify fun s =>
      let c := s.cursor
      { s with key? := some {
          place := s.taken + s.newest.length, required := !s.inFlow && s.indent = c.column, index := c.index, line := c.line,
          column := c.column } }

/-- Closes the blocks whose column is greater than the given one. -/
def unwind (column : Int) : Lexing Unit :=
  modify fun s =>
    if s.inFlow then s
    else
      let closed := s.columns.takeWhile fun (n : Nat) => column < n
      { s with
        columns := s.columns.drop closed.length
        newest := List.replicate closed.length .blockEnd ++ s.newest }

/-- Opens a block at a column unless one is open there. -/
def openBlock (start : Token) (column : Nat) : Lexing Unit := do
  if (← get).indent < column then
    push start
    modify fun s => { s with columns := column :: s.columns }

/-- Moves over blanks, comments and line ends; a key may start on a new line unless brackets are open. -/
def skipBlank : (fuel : Nat) → Layout → Layout
  | 0, s => s
  | fuel + 1, s =>
    let c := s.cursor.dropComment
    if (c.peek.map isBreak).getD false then
      skipBlank fuel { s with cursor := c.lineBreak.2, keyAllowed := s.keyAllowed || !s.inFlow }
    else { s with cursor := c }

/-- Moves to the next token; a byte order mark may stand in front of the text. -/
def toToken : Lexing Unit :=
  modify fun s =>
    let c := s.cursor
    let c := if c.index = 0 && (c.peek.map Char.toNat) = some 0xfeff then c.next else c
    skipBlank (c.rest.length + 1) { s with cursor := c }

/-! ## The tokens by their signs -/

def directive : Lexing Unit := do
  unwind (-1)
  dropKey
  allowKey false
  let (d, c) ← liftM (Directive.read (← get).cursor)
  pushTo (.directive d) c

def documentMark (t : Token) : Lexing Unit := do
  unwind (-1)
  dropKey
  allowKey false
  pushTo t ((← get).cursor.skip 3)

/-- An opening bracket, inside which a key may start. -/
def openFlow (t : Token) : Lexing Unit := do
  startKey
  modify fun s => { s with outer := s.key? :: s.outer, key? := none, keyAllowed := true }
  pushTo t (← get).cursor.next

def closeFlow (t : Token) : Lexing Unit := do
  dropKey
  let s ← get
  match s.outer with
  | [] => malformed
  | key? :: outer => set { s with key?, outer, keyAllowed := false }
  pushTo t s.cursor.next

def comma : Lexing Unit := do
  allowKey true
  dropKey
  pushTo .comma (← get).cursor.next

/-- A sign that opens a block of its own unless brackets are open. -/
def blockSign (start : Token) : Lexing Unit := do
  let s ← get
  if !s.inFlow then
    if !s.keyAllowed then malformed
    openBlock start s.cursor.column

/-- The sign of a list item. -/
def dash : Lexing Unit := do
  blockSign .listStart
  allowKey true
  dropKey
  pushTo .dash (← get).cursor.next

def explicitKey : Lexing Unit := do
  blockSign .mapStart
  allowKey !(← get).inFlow
  dropKey
  pushTo .key (← get).cursor.next

/-- The colon in front of a value; it shows where its key has started. -/
def value : Lexing Unit := do
  let s ← get
  match s.key? with
  | some key =>
    let opens := !s.inFlow && s.indent < key.column
    insert key.place (if opens then [.mapStart, .key] else [.key])
    modify fun s => { s with
      key? := none, keyAllowed := false, columns := if opens then key.column :: s.columns else s.columns }
  | none =>
    blockSign .mapStart
    allowKey !s.inFlow
  pushTo .value (← get).cursor.next

/-- A token that a key may start with. -/
def startingKey (scan : Cursor → Except Error (Token × Cursor)) : Lexing Unit := do
  startKey
  allowKey false
  let (t, c) ← liftM (scan (← get).cursor)
  pushTo t c

def blockScalar (fold : Bool) : Lexing Unit := do
  allowKey true
  dropKey
  let s ← get
  let (text, c) ← liftM (orMalformed (block? fold s.indent s.cursor))
  pushTo (.scalar text false) c

/-- A plain scalar; a key may start behind it if a line end was passed. -/
def plainScalar : Lexing Unit := do
  startKey
  let s ← get
  let (text, c, afterBreak) := plain s.inFlow s.indent s.cursor
  allowKey afterBreak
  pushTo (.scalar text true) c

/-- Whether a plain scalar may start with a character, seen with the one behind it. -/
def startsPlain (inFlow : Bool) (x : Char) (next? : Option Char) : Bool :=
  !(isSpace x || isBreak x || ("-?:,[]{}#&*!|>'\"%@".toList).contains x || x.toNat = 0x60)
    || (!endsToken next? && (x = '-' || (!inFlow && (x = '?' || x = ':'))))

/-- The token that starts with a character. -/
def scanAt (x : Char) (s : Layout) : Lexing Unit :=
  let c := s.cursor
  let alone := endsToken (c.peekAt 1)
  if x = '%' && c.column = 0 then directive
  else if c.column = 0 && c.atDocumentMark then documentMark (if x = '-' then .documentStart else .documentEnd)
  else if x = '[' then openFlow .openList
  else if x.toNat = 0x7b then openFlow .openMap
  else if x = ']' then closeFlow .closeList
  else if x.toNat = 0x7d then closeFlow .closeMap
  else if x = ',' then comma
  else if x = '-' && alone then dash
  else if x = '?' && (s.inFlow || alone) then explicitKey
  else if x = ':' && (s.inFlow || alone) then value
  else if x = '*' then startingKey fun c => orMalformed ((Token.name? c).map fun r => (.alias r.1, r.2))
  else if x = '&' then startingKey fun c => orMalformed ((Token.name? c).map fun r => (.anchor r.1, r.2))
  else if x = '!' then startingKey fun c => orMalformed ((Tagged.read? c).map fun r => (.tag r.1, r.2))
  else if (x = '|' || x = '>') && !s.inFlow then blockScalar (x = '>')
  else if x = '\'' || x = '"' then startingKey fun c => (quotedScalar c).map fun r => (.scalar r.1 false, r.2)
  else if startsPlain s.inFlow x (c.peekAt 1) then plainScalar
  else malformed

/-- Reads the next token, or the end of the text. -/
def scan : Lexing Unit := do
  toToken
  dropStale
  unwind (← get).cursor.column
  let s ← get
  match s.cursor.peek with
  | some x => scanAt x s
  | none => do
    unwind (-1)
    dropKey
    modify fun s => { s with ended := true, key? := none, outer := s.outer.map fun _ => none }

/-- Whether the next token is not known yet: none is read, or it may turn out to start a key. -/
def unsettled : Lexing Bool := do
  let s ← get
  if s.ended then return false
  if s.newest.isEmpty then return true
  dropStale
  let s ← get
  return (s.key? :: s.outer).any fun key? => (key?.map (·.place)) = some s.taken

/-- Reads on until the next token is known; each step takes a character or reaches the end. -/
def settle : (fuel : Nat) → Lexing Unit
  | 0 => return ()
  | fuel + 1 => do
    if ← unsettled then
      scan
      settle fuel

/-- The next token, or nothing at the end of the text. -/
def peek : Lexing (Option Token) := do
  settle ((← get).cursor.rest.length + 2)
  return (← get).newest.getLast?

def take : Lexing Unit := modify fun s => { s with newest := s.newest.dropLast, taken := s.taken + 1 }

end Layout

end ApiFlow.Yaml

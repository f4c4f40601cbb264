import ApiFlow.Text.Basic

/-!
# Places in a configuration text

A cursor is what is left of a text together with the place reached: how many characters lie behind it, the line, and the
column.  The classes of characters that the format distinguishes are here too; the end of the text belongs to most of
them.
-/

set_option autoImplicit false

namespace ApiFlow.Yaml

def isBreak (c : Char) : Bool :=
  c = '\n' || c = '\r' || c.toNat = 0x85 || c.toNat = 0x2028 || c.toNat = 0x2029

/-- A blank inside a line. -/
def isSpace (c : Char) : Bool := c = ' ' || c = '\t'

/-- The end of a line or of the text. -/
def endsLine (c? : Option Char) : Bool := (c?.map isBreak).getD true

/-- A blank other than a tab, or the end of a line. -/
def endsWord (c? : Option Char) : Bool := (c?.map fun c => c = ' ' || isBreak c).getD true

def endsToken (c? : Option Char) : Bool := (c?.map fun c => isSpace c || isBreak c).getD true

def isPrintable (c : Char) : Bool :=
  let n := c.toNat
  n = 9 || n = 10 || n = 13 || (0x20 ≤ n && n ≤ 0x7e) || n = 0x85 || (0xa0 ≤ n && n ≤ 0xd7ff)
    || (0xe000 ≤ n && n ≤ 0xfffd) || 0x10000 ≤ n

/-- A letter, a digit, a hyphen or an underscore. -/
def isNameChar (c : Char) : Bool := c.isAlphanum || c = '-' || c = '_'

structure Cursor where
  rest : Text
  index : Nat := 0
  line : Nat := 0
  column : Nat := 0
  deriving DecidableEq, Repr

namespace Cursor

def peek (c : Cursor) : Option Char := c.rest.head?

/-- The character `n` places behind the next one. -/
def peekAt (c : Cursor) (n : Nat) : Option Char := c.rest[n]?

/-- The column behind a character that ends no line. -/
def columnBehind (column : Nat) (x : Char) : Nat := if x.toNat = 0xfeff then column else column + 1

/-- Moves behind the next character. -/
def next (c : Cursor) : Cursor :=
  match c.rest with
  | [] => c
  | '\r' :: '\n' :: s => ⟨'\n' :: s, c.index + 1, c.line, c.column + 1⟩
  | x :: s =>
    if isBreak x then ⟨s, c.index + 1, c.line + 1, 0⟩
    else ⟨s, c.index + 1, c.line, columnBehind c.column x⟩

/-- Moves behind several characters. -/
def skip : Nat → Cursor → Cursor
  | 0, c => c
  | n + 1, c => skip n c.next

/-- The characters that satisfy a test, and the place behind them. -/
def takeWhile (p : Char → Bool) (c : Cursor) : Text × Cursor :=
  let taken := c.rest.takeWhile p
  (taken, c.skip taken.length)

/-- The place behind the characters that satisfy a test. -/
def dropWhile (p : Char → Bool) (c : Cursor) : Cursor := (c.takeWhile p).2

/-- The place behind a line end, and the text it stands for: a line feed, or one of the two Unicode separators. -/
def lineBreak (c : Cursor) : Text × Cursor :=
  match c.rest with
  | '\r' :: '\n' :: _ => (['\n'], c.skip 2)
  | x :: _ =>
    if x.toNat = 0x2028 || x.toNat = 0x2029 then ([x], c.next)
    else if isBreak x then (['\n'], c.next)
    else ([], c)
  | [] => ([], c)

def atDocumentMark (c : Cursor) : Bool :=
  (c.rest.take 3 = ['-', '-', '-'] || c.rest.take 3 = ['.', '.', '.']) && endsToken (c.peekAt 3)

/-- The place behind the blanks and the comment of a line. -/
def dropComment (c : Cursor) : Cursor :=
  let c := c.dropWhile (· = ' ')
  if c.peek = some '#' then c.dropWhile (!isBreak ·) else c

/-- The place behind the rest of a line that may hold nothing but a comment. -/
def ignoredLine? (c : Cursor) : Option Cursor :=
  let c := c.dropComment
  if endsLine c.peek then some c.lineBreak.2 else none

end Cursor

end ApiFlow.Yaml

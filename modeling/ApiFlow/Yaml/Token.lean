import ApiFlow.Text.Utf8
import ApiFlow.Yaml.Scalar

/-!
# Tokens of a configuration text

A text is a row of tokens: marks, names, scalars, and the starts and ends of blocks, which stand for the indentation.
This module has the tokens and reads those that begin with a sign of their own.

* `Token.name?` reads the name of an anchor or of a reference to one.
* `Tagged.read?` reads a tag.
* `Directive.read` reads a directive line.
-/

set_option autoImplicit false

namespace ApiFlow.Yaml

/-- A tag as it is written: a handle, unless the tag is given in full, and what follows it. -/
structure Tagged where
  handle? : Option Text
  suffix : Text
  deriving DecidableEq, Repr

inductive Directive where
  | version (major : Nat)
  | handle (name stem : Text)
  | other
  deriving DecidableEq, Repr

inductive Token where
  | directive (d : Directive)
  | documentStart
  | documentEnd
  | listStart
  | mapStart
  | blockEnd
  | openList
  | closeList
  | openMap
  | closeMap
  | comma
  | dash
  | key
  | value
  | alias (name : Text)
  | anchor (name : Text)
  | tag (t : Tagged)
  | scalar (text : Text) (plain : Bool)
  deriving DecidableEq, Repr

/-- A name behind its sign, with the place behind it. -/
def Token.name? (c : Cursor) : Option (Text × Cursor) :=
  let (name, c) := c.next.takeWhile isNameChar
  let ends := endsToken c.peek
    || (c.peek.map fun x => ['?', ':', ',', ']', '}', '%', '@', Char.ofNat 0x60].contains x).getD false
  if name.isEmpty || !ends then none else some (name, c)

/-! ## Tags -/

/-- A character of a tag. -/
def isTagChar (c : Char) : Bool := c.isAlphanum || ("-;/?:@&=+$,_.!~*'()[]%".toList).contains c

/-- The bytes of a tag; an escape is a percent sign with two hexadecimal digits. -/
def tagBytes? : Text → Option (List UInt8)
  | [] => some []
  | '%' :: a :: b :: s => do
    let n ← hexNumber? 2 [a, b]
    let rest ← tagBytes? s
    some (n.toUInt8 :: rest)
  | '%' :: _ => none
  | c :: s => (tagBytes? s).map (Utf8.encodeChar c ++ ·)

/-- The characters of a tag, at least one, with the escapes read. -/
def tagText? (c : Cursor) : Option (Text × Cursor) := do
  let (raw, c) := c.takeWhile isTagChar
  if raw.isEmpty then none
  let text ← (Utf8.decode (← tagBytes? raw)).toOption
  some (text, c)

/-- A handle between exclamation marks; one mark in front of a blank is a handle too. -/
def tagHandle? (c : Cursor) : Option (Text × Cursor) :=
  if c.peek != some '!' then none
  else if c.peekAt 1 = some ' ' then some (['!'], c.next)
  else
    let (name, c) := c.next.takeWhile isNameChar
    if c.peek = some '!' then some ('!' :: name ++ ['!'], c.next) else none

/-- Whether a second exclamation mark stands in the word behind the first one. -/
def hasHandle (c : Cursor) : Bool := (c.next.rest.takeWhile fun x => x != ' ' && !isBreak x).contains '!'

/-- A tag from its sign on, before it is known what follows it. -/
def Tagged.scan? (c : Cursor) : Option (Tagged × Cursor) :=
  if c.peekAt 1 = some '<' then do
    let (suffix, c) ← tagText? (c.skip 2)
    if c.peek = some '>' then some (⟨none, suffix⟩, c.next) else none
  else if endsToken (c.peekAt 1) then some (⟨none, ['!']⟩, c.next)
  else do
    let (handle, c) ← if hasHandle c then tagHandle? c else some (['!'], c.next)
    let (suffix, c) ← tagText? c
    some (⟨some handle, suffix⟩, c)

/-- A tag from its sign on. -/
def Tagged.read? (c : Cursor) : Option (Tagged × Cursor) :=
  (Tagged.scan? c).filter fun r => endsWord r.2.peek

/-! ## Directives -/

def directiveNumber (c : Cursor) : Except Error (Nat × Cursor) := do
  let (digits, c) := c.takeWhile Char.isDigit
  match Integer.read digits with
  | .ok n => return (n.toNat, c)
  | .error (.tooLong n) => wrongScalar (.integer (.tooLong n))
  | .error _ => .error .malformed

def directiveVersion (c : Cursor) : Except Error (Directive × Cursor) := do
  let (major, c) ← directiveNumber (c.dropWhile (· = ' '))
  if c.peek != some '.' then .error .malformed
  let (_, c) ← directiveNumber c.next
  if endsWord c.peek then return (.version major, c) else .error .malformed

/-- A handle and what it stands for. -/
def directiveHandle? (c : Cursor) : Option (Directive × Cursor) := do
  let (name, c) ← tagHandle? (c.dropWhile (· = ' '))
  if c.peek != some ' ' then none
  let (stem, c) ← tagText? (c.dropWhile (· = ' '))
  if endsWord c.peek then some (.handle name stem, c) else none

/-- A directive from its sign on, with the place behind its line. -/
def Directive.read (c : Cursor) : Except Error (Directive × Cursor) := do
  let (name, c) := c.next.takeWhile isNameChar
  if name.isEmpty || !endsWord c.peek then .error .malformed
  let (d, c) ←
    if name = "YAML".toList then directiveVersion c
    else if name = "TAG".toList then orMalformed (directiveHandle? c)
    else pure (.other, c.dropWhile (!isBreak ·))
  let c ← orMalformed c.ignoredLine?
  return (d, c)

end ApiFlow.Yaml

import ApiFlow.Json.Basic

/-!
# Reading JSON

A reader for JSON texts with `NaN`, `Infinity` and `-Infinity` as numbers.  An integer literal of more than 4300
digits makes the whole text unreadable.  Of members with one name the last value counts, at the first one's place.

A text is a row of characters, so a string that spells half a pair of code units has no text of its own.  It is read with
the replacement character in that place; what is said about the strings of such a document is said about this reading.

* `decode?` reads a whole text, with blanks around the value.
-/

set_option autoImplicit false

namespace ApiFlow.Json

/-- The four blanks of JSON. -/
def isGap (c : Char) : Bool := c = ' ' || c = '\t' || c = '\n' || c = '\r'

/-- Drops blanks. -/
def skipGap (s : Text) : Text := s.dropWhile isGap

/-- A piece of a string: a character, or a code unit given by its number. -/
inductive Piece where
  | char (c : Char)
  | unit (n : Nat)

/-- The value of a hexadecimal digit. -/
def hexValue? (c : Char) : Option Nat :=
  if '0' ≤ c && c ≤ '9' then some (c.toNat - 48)
  else if 'a' ≤ c && c ≤ 'f' then some (c.toNat - 87)
  else if 'A' ≤ c && c ≤ 'F' then some (c.toNat - 55)
  else none

/-- The number that four hexadecimal digits spell. -/
def unitOf? (a b c d : Char) : Option Nat := do
  some ((((← hexValue? a) * 16 + (← hexValue? b)) * 16 + (← hexValue? c)) * 16 + (← hexValue? d))

def escape? (c : Char) : Option Char :=
  if c = '"' || c = '\\' || c = '/' then some c
  else if c = 'n' then some '\n'
  else if c = 't' then some '\t'
  else if c = 'r' then some '\r'
  else if c = 'b' then some (Char.ofNat 8)
  else if c = 'f' then some (Char.ofNat 12)
  else none

/-- The pieces of a string after its opening quote, and what follows the closing one. -/
def pieces : Text → Option (List Piece × Text)
  | [] => none
  | '"' :: s => some ([], s)
  | '\\' :: 'u' :: a :: b :: c :: d :: s => do
    let n ← unitOf? a b c d
    let (rest, after) ← pieces s
    some (.unit n :: rest, after)
  | '\\' :: e :: s => do
    let c ← escape? e
    let (rest, after) ← pieces s
    some (.char c :: rest, after)
  | c :: s =>
    if c.toNat < 32 || c = '\\' then none
    else do
      let (rest, after) ← pieces s
      some (.char c :: rest, after)

/-- A high code unit, which needs a low one behind it. -/
def isHigh (n : Nat) : Bool := 0xd800 ≤ n && n < 0xdc00

/-- A low code unit, which needs a high one in front. -/
def isLow (n : Nat) : Bool := 0xdc00 ≤ n && n < 0xe000

/-- The character of a unit that stands alone.  Half a pair has none and is replaced. -/
def unitChar (n : Nat) : Char := if isHigh n || isLow n then Char.ofNat 0xfffd else Char.ofNat n

/-- The characters of pieces: a high and a low unit in a row make one character. -/
def joinPieces : List Piece → Text
  | [] => []
  | .char c :: rest => c :: joinPieces rest
  | .unit n :: .unit m :: rest =>
    if isHigh n && isLow m then
      Char.ofNat (0x10000 + (n - 0xd800) * 1024 + (m - 0xdc00)) :: joinPieces rest
    else unitChar n :: joinPieces (.unit m :: rest)
  | .unit n :: rest => unitChar n :: joinPieces rest

/-- A string after its opening quote, and what follows the closing one. -/
def stringBody (s : Text) : Option (Text × Text) := (pieces s).map fun r => (joinPieces r.1, r.2)

def isDigit (c : Char) : Bool := '0' ≤ c && c ≤ '9'

/-- The ASCII digits at the start of a text and the rest. -/
def digitSpan (s : Text) : Text × Text := (s.takeWhile isDigit, s.dropWhile isDigit)

/-- The natural number that ASCII digits spell. -/
def digitsValue (s : Text) : Nat := Integer.valueOf (s.map fun c => c.toNat - 48)

/-- A fraction part, if a point and a digit follow. -/
def fractionPart (s : Text) : Text × Text :=
  match s with
  | '.' :: t => match digitSpan t with
    | ([], _) => ([], s)
    | found => found
  | _ => ([], s)

/-- An exponent, if the letter and a digit follow. -/
def exponentPart (s : Text) : Option Int × Text :=
  match s with
  | c :: t =>
    if c = 'e' || c = 'E' then
      let (negative, body) := Integer.signOf t
      match digitSpan body with
      | ([], _) => (none, s)
      | (digits, rest) => (some (Double.signed negative (digitsValue digits)), rest)
    else (none, s)
  | [] => (none, s)

/-- A number after its sign. -/
def numberBody (negative : Bool) (s : Text) : Option (Json × Text) :=
  let (whole, rest) := match s with
    | '0' :: t => (['0'], t)
    | _ => digitSpan s
  if whole.isEmpty then none
  else
    let (fraction, rest) := fractionPart rest
    let (exponent, rest) := exponentPart rest
    if fraction.isEmpty && exponent.isNone then
      if whole.length > Integer.digitLimit then none
      else some (.int (Double.signed negative (digitsValue whole)), rest)
    else
      some (.real (Double.ofDecimal negative (digitsValue (whole ++ fraction))
        (exponent.getD 0 - fraction.length)), rest)

def after? (start s : Text) : Option Text :=
  if start.isPrefixOf s then some (s.drop start.length) else none

/-- A value without members or items. -/
def scalar (s : Text) : Option (Json × Text) :=
  match s with
  | '"' :: t => (stringBody t).map fun r => (.str r.1, r.2)
  | 'n' :: _ => (after? "null" s).map fun r => (.null, r)
  | 't' :: _ => (after? "true" s).map fun r => (.bool true, r)
  | 'f' :: _ => (after? "false" s).map fun r => (.bool false, r)
  | 'N' :: _ => (after? "NaN" s).map fun r => (.real .nan, r)
  | 'I' :: _ => (after? "Infinity" s).map fun r => (.real (.infinite false), r)
  | '-' :: 'I' :: _ => (after? "-Infinity" s).map fun r => (.real (.infinite true), r)
  | '-' :: t => numberBody true t
  | _ => numberBody false s

mutual

/-- A value at the start of a text, which has no blank in front; `fuel` bounds the nesting and the number of parts. -/
def value : (fuel : Nat) → Text → Option (Json × Text)
  | 0, _ => none
  | fuel + 1, '[' :: s =>
    match skipGap s with
    | ']' :: rest => some (.arr [], rest)
    | t => (items fuel t).map fun r => (.arr r.1, r.2)
  | fuel + 1, '{' :: s =>
    match skipGap s with
    | '}' :: rest => some (.obj [], rest)
    | t => (members fuel t).map fun r => (.obj (Table.ofWrites r.1), r.2)
  | _ + 1, s => scalar s

/-- The items up to the closing bracket. -/
def items : (fuel : Nat) → Text → Option (List Json × Text)
  | 0, _ => none
  | fuel + 1, s => do
    let (item, rest) ← value fuel s
    match skipGap rest with
    | ',' :: t => do
      let (more, rest) ← items fuel (skipGap t)
      some (item :: more, rest)
    | ']' :: t => some ([item], t)
    | _ => none

/-- The members up to the closing brace. -/
def members : (fuel : Nat) → Text → Option (List (Text × Json) × Text)
  | 0, _ => none
  | fuel + 1, '"' :: s => do
    let (name, rest) ← stringBody s
    match skipGap rest with
    | ':' :: t => do
      let (item, rest) ← value fuel (skipGap t)
      match skipGap rest with
      | ',' :: t => do
        let (more, rest) ← members fuel (skipGap t)
        some ((name, item) :: more, rest)
      | '}' :: t => some ([(name, item)], t)
      | _ => none
    | _ => none
  | _ + 1, _ => none

end

def decode? (s : Text) : Option Json := do
  let (v, rest) ← value (s.length + 1) (skipGap s)
  if (skipGap rest).isEmpty then some v else none

end ApiFlow.Json

import ApiFlow.Text.Quoted

/-!
# Binary scalars

Bytes that are written with 64 characters, six bits each.  Characters beyond these count for nothing; equals signs that
fill up a group of four end the bytes, and a group may not be left open.

* `Binary.decode?` reads the bytes.
* `Binary.quoted` is the quoted form of bytes.
-/

set_option autoImplicit false

namespace ApiFlow.Yaml.Binary

def sextet? (c : Char) : Option Nat :=
  if 'A' ≤ c && c ≤ 'Z' then some (c.toNat - 65)
  else if 'a' ≤ c && c ≤ 'z' then some (c.toNat - 71)
  else if '0' ≤ c && c ≤ '9' then some (c.toNat + 4)
  else if c = '+' then some 62
  else if c = '/' then some 63
  else none

/-- The byte that a character of a group completes, and the bits that it leaves over. -/
def complete (place left bits : Nat) : List UInt8 × Nat :=
  match place with
  | 0 => ([], bits)
  | 1 => ([(left * 4 + bits / 16).toUInt8], bits % 16)
  | 2 => ([(left * 16 + bits / 4).toUInt8], bits % 4)
  | _ => ([(left * 64 + bits).toUInt8], 0)

/-- The bytes behind a place in a group of four, given the bits left over and the equals signs passed since the last
character of the group. -/
def decodeFrom : (place left signs : Nat) → Text → Option (List UInt8)
  | place, _, _, [] => if place = 0 then some [] else none
  | place, left, signs, c :: s =>
    if c = '=' then
      if place < 2 then decodeFrom place left signs s
      else if 4 ≤ place + signs + 1 then some []
      else decodeFrom place left (signs + 1) s
    else match sextet? c with
      | none => decodeFrom place left signs s
      | some bits =>
        let (bytes, left) := complete place left bits
        (decodeFrom ((place + 1) % 4) left 0 s).map (bytes ++ ·)

/-- The bytes that a text of ASCII characters spells. -/
def decode? (s : Text) : Option (List UInt8) := if s.all (·.toNat < 128) then decodeFrom 0 0 0 s else none

/-- How one byte stands between the given quotes. -/
def quotedByte (quote : Char) (b : UInt8) : Text :=
  let c := Char.ofNat b.toNat
  if c = quote || c = '\\' then ['\\', c]
  else if c = '\t' then "\\t"
  else if c = '\n' then "\\n"
  else if c = '\r' then "\\r"
  else if 32 ≤ b && b < 127 then [c]
  else "\\x" ++ Text.hex 2 b.toNat

def quoted (bytes : List UInt8) : Text :=
  let quote := if bytes.contains 39 && !bytes.contains 34 then '"' else '\''
  'b' :: quote :: bytes.flatMap (quotedByte quote) ++ [quote]

/-- The text that bytes spell if all of them are ASCII. -/
def ascii? (bytes : List UInt8) : Option Text :=
  if bytes.all (· < 128) then some (bytes.map fun b => Char.ofNat b.toNat) else none

end ApiFlow.Yaml.Binary

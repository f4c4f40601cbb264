import ApiFlow.Address.Basic
import ApiFlow.Text.Utf8

/-!
# Query strings

A query is a row of pairs `name=value` between ampersands, with blanks as plus signs and other characters as percent
signs with the hexadecimal digits of their bytes.  Letters, digits and `_ . - ~` stand for themselves.

* `encode` and `decode` write and read one name or value.
* `pairs` reads a query and `ofPairs` writes one.
* `Address.withEntries` appends the entries `name=value` to the query of an address.
-/

set_option autoImplicit false

namespace ApiFlow.Query

def isPlain (c : Char) : Bool := c.isAlphanum || c = '_' || c = '.' || c = '-' || c = '~'

def hexDigit (n : Nat) : Char := Char.ofNat (if n < 10 then 48 + n else 55 + n)

def percentByte (b : UInt8) : Text := ['%', hexDigit (b.toNat / 16), hexDigit (b.toNat % 16)]

def encodeChar (c : Char) : Text :=
  if isPlain c then [c] else if c = ' ' then ['+'] else (Utf8.encodeChar c).flatMap percentByte

def encode (s : Text) : Text := s.flatMap encodeChar

def hexValue? (c : Char) : Option Nat :=
  if '0' ≤ c && c ≤ '9' then some (c.toNat - 48)
  else if 'a' ≤ c && c ≤ 'f' then some (c.toNat - 87)
  else if 'A' ≤ c && c ≤ 'F' then some (c.toNat - 55)
  else none

/-- The byte that two hexadecimal digits in front of a text spell. -/
def hexByte? : Text → Option UInt8
  | a :: b :: _ => do some (16 * (← hexValue? a) + (← hexValue? b)).toUInt8
  | _ => none

/-- The bytes of ASCII characters behind the next `skip` ones, with percent codes resolved; a percent sign without two
digits behind it stands for itself. -/
def asciiBytes : (skip : Nat) → Text → List UInt8
  | _, [] => []
  | skip + 1, _ :: s => asciiBytes skip s
  | 0, c :: s =>
    if c = '%' then
      match hexByte? s with
      | some b => b :: asciiBytes 2 s
      | none => c.toNat.toUInt8 :: asciiBytes 0 s
    else c.toNat.toUInt8 :: asciiBytes 0 s

/-- The text that a run of ASCII characters stands for. -/
def decodeRun (run : Text) : Text := Utf8.decodeLossy (asciiBytes 0 run)

/-- Decodes run by run: `run` holds the ASCII characters since the last other one, the latest first. -/
def decodeFrom : (run : Text) → Text → Text
  | run, [] => decodeRun run.reverse
  | run, c :: s =>
    if c.toNat < 128 then decodeFrom ((if c = '+' then ' ' else c) :: run) s
    else decodeRun run.reverse ++ c :: decodeFrom [] s

def decode (s : Text) : Text := decodeFrom [] s

/-- The pair in a field of a query; a field without an equals sign is a name with an empty value. -/
def pairOf (field : Text) : Text × Text :=
  let (name, value) := Address.splitOff '=' field
  (decode name, decode value)

/-- The pairs of a query; empty fields are passed over. -/
def pairs (query : Text) : List (Text × Text) :=
  ((Text.splitAt '&' query).filter (!·.isEmpty)).map pairOf

def fieldOf (pair : Text × Text) : Text := encode pair.1 ++ '=' :: encode pair.2

def ofPairs (pairs : List (Text × Text)) : Text := Text.join ['&'] (pairs.map fieldOf)

end ApiFlow.Query

namespace ApiFlow.Address

/-- Appends the entries `name=value` to the query of an address; an entry without an equals sign is passed over. -/
def withEntries (text : Text) (entries : List Text) : Except Error Text :=
  (split text).map fun a =>
    { a with query := Query.ofPairs (Query.pairs a.query ++ entries.filterMap (Text.cutAt? '=')) }.join

end ApiFlow.Address

import ApiFlow.Text.Basic

/-!
# UTF-8

Encoding of texts and decoding of bytes.  A decoder stops at the first place where no character can be read
and says why; the tolerant decoder writes the replacement character for each longest piece that
starts a character without completing it, and goes on behind it.

* `encode` writes one to four bytes for each character.
* `decodeStep` reads one character or names the fault and how many bytes it covers.
* `decode` gives the text or the first fault; `decodeLossy` always gives a text.
-/

set_option autoImplicit false

namespace ApiFlow.Utf8

def encodeChar (c : Char) : List UInt8 :=
  let n := c.toNat
  if n < 0x80 then [n.toUInt8]
  else if n < 0x800 then [(0xc0 + n / 64).toUInt8, (0x80 + n % 64).toUInt8]
  else if n < 0x10000 then
    [(0xe0 + n / 4096).toUInt8, (0x80 + n / 64 % 64).toUInt8, (0x80 + n % 64).toUInt8]
  else
    [(0xf0 + n / 262144).toUInt8, (0x80 + n / 4096 % 64).toUInt8, (0x80 + n / 64 % 64).toUInt8,
      (0x80 + n % 64).toUInt8]

def encode (s : Text) : List UInt8 := s.flatMap encodeChar

/-- What is wrong with bytes that hold no character. -/
inductive FaultKind where
  /-- The first byte starts no character. -/
  | badStart
  /-- A later byte does not continue the character. -/
  | badContinuation
  /-- The bytes end inside the character. -/
  | cutShort
  deriving DecidableEq, Repr

/-- A fault and the number of bytes it covers. -/
structure Fault where
  kind : FaultKind
  width : Nat
  deriving DecidableEq, Repr

/-- The number of continuation bytes after a first byte, the range of the second byte, and the bits the first
byte contributes. -/
def shape? (b : Nat) : Option (Nat × Nat × Nat × Nat) :=
  if b < 0xc2 then none
  else if b < 0xe0 then some (1, 0x80, 0xbf, b - 0xc0)
  else if b = 0xe0 then some (2, 0xa0, 0xbf, 0)
  else if b = 0xed then some (2, 0x80, 0x9f, 0xd)
  else if b < 0xf0 then some (2, 0x80, 0xbf, b - 0xe0)
  else if b = 0xf0 then some (3, 0x90, 0xbf, 0)
  else if b < 0xf4 then some (3, 0x80, 0xbf, b - 0xf0)
  else if b = 0xf4 then some (3, 0x80, 0x8f, 4)
  else none

/-- Reads `need` continuation bytes, the next of them within `lo` and `hi`; `done` bytes have been read. -/
def continuations (lo hi : Nat) : (need done acc : Nat) → List UInt8 → Except Fault Nat
  | 0, _, acc, _ => .ok acc
  | _ + 1, done, _, [] => .error ⟨.cutShort, done⟩
  | need + 1, done, acc, b :: bytes =>
    if lo ≤ b.toNat && b.toNat ≤ hi then
      continuations 0x80 0xbf need (done + 1) (acc * 64 + b.toNat % 64) bytes
    else .error ⟨.badContinuation, done⟩

/-- Reads one character after its first byte: the character and its number of bytes. -/
def decodeStep (first : UInt8) (rest : List UInt8) : Except Fault (Char × Nat) :=
  if first.toNat < 0x80 then .ok (Char.ofNat first.toNat, 1)
  else match shape? first.toNat with
    | none => .error ⟨.badStart, 1⟩
    | some (need, lo, hi, bits) =>
      (continuations lo hi need 1 bits rest).map fun n => (Char.ofNat n, need + 1)

structure Misfit where
  fault : Fault
  position : Nat
  byte : UInt8
  deriving DecidableEq, Repr

/-- Decodes from a position on, after skipping bytes that belong to the last character. -/
def decodeFrom : (skip position : Nat) → List UInt8 → Except Misfit Text
  | _, _, [] => .ok []
  | skip + 1, position, _ :: bytes => decodeFrom skip (position + 1) bytes
  | 0, position, b :: bytes =>
    match decodeStep b bytes with
    | .error fault => .error ⟨fault, position, b⟩
    | .ok (c, width) => (decodeFrom (width - 1) (position + 1) bytes).map (c :: ·)

/-- The text of the bytes, or the first place where they hold none. -/
def decode (bytes : List UInt8) : Except Misfit Text := decodeFrom 0 0 bytes

/-- Decodes with the replacement character in place of each fault. -/
def decodeLossyFrom : (skip : Nat) → List UInt8 → Text
  | _, [] => []
  | skip + 1, _ :: bytes => decodeLossyFrom skip bytes
  | 0, b :: bytes =>
    match decodeStep b bytes with
    | .error fault => Char.ofNat 0xfffd :: decodeLossyFrom (fault.width - 1) bytes
    | .ok (c, width) => c :: decodeLossyFrom (width - 1) bytes

/-- The text of the bytes, with the replacement character for what holds no character. -/
def decodeLossy (bytes : List UInt8) : Text := decodeLossyFrom 0 bytes

end ApiFlow.Utf8

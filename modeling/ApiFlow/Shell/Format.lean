import ApiFlow.Number.Decimal
import ApiFlow.Shell.Arithmetic
import ApiFlow.Text.Utf8

/-!
# Printing in commands

Both commands that print read escapes with a backslash.  One prints its arguments between blanks; the other fills the
places of a format, which is used again until no argument is left.  Widths count bytes.

* `Format.echo` gives the bytes of the first.
* `Format.fill` gives the bytes of the second, with what is wrong with its arguments.
-/

set_option autoImplicit false

namespace ApiFlow.Shell.Format

/-! ## Escapes -/

def letter? (c : Char) : Option UInt8 :=
  match c with
  | 'a' => some 7
  | 'b' => some 8
  | 'e' => some 27
  | 'f' => some 12
  | 'n' => some 10
  | 'r' => some 13
  | 't' => some 9
  | 'v' => some 11
  | '\\' => some 92
  | _ => none

/-- The byte of at most three octal digits, with the rest. -/
def octal (s : Text) : UInt8 × Text :=
  let digits := (s.take 3).takeWhile Arithmetic.isOctalDigit
  ((digits.foldl (fun (n : Nat) (d : Char) => 8 * n + (d.toNat - 48)) 0).toUInt8, s.drop digits.length)

/-- The byte of an escape behind its backslash, with the rest; a backslash that starts none stands for itself. -/
def escape (s : Text) : UInt8 × Text :=
  match s with
  | [] => (92, [])
  | c :: rest =>
    match letter? c with
    | some b => (b, rest)
    | none => if Arithmetic.isOctalDigit c then octal s else (92, s)

/-- The bytes of a text with escapes, and whether printing ends inside it; a zero may stand in front of octal digits. -/
def escapedFrom : (fuel : Nat) → Text → List UInt8 × Bool
  | 0, _ => ([], false)
  | _ + 1, [] => ([], false)
  | fuel + 1, '\\' :: s =>
    match s with
    | 'c' :: _ => ([], true)
    | _ =>
      let s := match s with
        | '0' :: d :: rest => if Arithmetic.isOctalDigit d then d :: rest else s
        | _ => s
      let (b, rest) := escape s
      let (more, ended) := escapedFrom fuel rest
      (b :: more, ended)
  | fuel + 1, c :: s =>
    let (more, ended) := escapedFrom fuel s
    (Utf8.encodeChar c ++ more, ended)

/-- The bytes of a text with escapes, and whether printing ends inside it. -/
def escaped (s : Text) : List UInt8 × Bool := escapedFrom (s.length + 1) s

/-- The bytes of arguments between blanks; a first argument `-n` leaves out the line end. -/
def echo (arguments : List Text) : List UInt8 :=
  let silent := arguments.head? = some "-n".toList
  let (bytes, ended) := escaped (Text.join [' '] (if silent then arguments.tail else arguments))
  if silent || ended then bytes else bytes ++ [10]

/-! ## Places -/

structure Place where
  left : Bool := false
  zeros : Bool := false
  plus : Bool := false
  blank : Bool := false
  marked : Bool := false
  width : Nat := 0
  precision? : Option Nat := none
  deriving DecidableEq, Repr

/-- The number of missing bytes, as zeros or as blanks in front or behind. -/
def pad (p : Place) (bytes : List UInt8) : List UInt8 :=
  let missing := p.width - bytes.length
  if p.left then bytes ++ List.replicate missing 32 else List.replicate missing 32 ++ bytes

/-- A number with what stands in front of its digits, on the width of a place. -/
def padNumber (p : Place) (zeros : Bool) (front digits : Text) : List UInt8 :=
  let missing := if zeros && !p.left then p.width - front.length - digits.length else 0
  pad p (Utf8.encode (front ++ List.replicate missing '0' ++ digits))

def signOf (p : Place) (negative : Bool) : Text :=
  if negative then ['-'] else if p.plus then ['+'] else if p.blank then [' '] else []

/-- The digits of a number, at least as many as asked for; none for zero if none are asked for. -/
def digitsAtLeast (p : Place) (n : Nat) (digits : Text) : Text :=
  match p.precision? with
  | some least => if n = 0 && least = 0 then [] else List.replicate (least - digits.length) '0' ++ digits
  | none => digits

def signedNumber (p : Place) (i : Int) : List UInt8 :=
  padNumber p (p.zeros && p.precision?.isNone) (signOf p (i < 0)) (digitsAtLeast p i.natAbs (Text.ofNat i.natAbs))

/-- A number without a sign in the base of a conversion. -/
def plainNumber (p : Place) (conversion : Char) (n : Nat) : List UInt8 :=
  let digits := match conversion with
    | 'x' => Nat.toDigits 16 n
    | 'X' => (Nat.toDigits 16 n).map Char.toUpper
    | 'o' => Nat.toDigits 8 n
    | _ => Text.ofNat n
  let digits := digitsAtLeast p n digits
  let front : Text := if p.marked && n != 0 && (conversion = 'x' || conversion = 'X') then ['0', conversion] else []
  let digits := if p.marked && conversion = 'o' && digits.head? != some '0' then '0' :: digits else digits
  padNumber p (p.zeros && p.precision?.isNone) front digits

/-! ## Fractions -/

/-- The ratio that a finite double stands for. -/
def ratio (mantissa : Nat) (exponent : Int) : Nat × Nat :=
  (mantissa * twoTo exponent.toNat, twoTo (-exponent).toNat)

/-- A number with some digits behind its point; `marked` keeps the point without any. -/
def withPoint (marked : Bool) (places n : Nat) : Text :=
  let digits := Text.ofNat n
  let digits := List.replicate (places + 1 - digits.length) '0' ++ digits
  let whole := digits.take (digits.length - places)
  if places = 0 then (if marked then whole ++ ['.'] else whole)
  else whole ++ '.' :: digits.drop (digits.length - places)

/-- A ratio with some digits behind its point. -/
def fixed (marked : Bool) (places num den : Nat) : Text :=
  withPoint marked places (Double.roundQuotient (num * tenTo places) den)

/-- The rounded quotient with some digits behind the first, and the power of ten of the first. -/
def leading (places num den : Nat) : Nat × Int :=
  if num = 0 then (0, 0)
  else
    let guess : Int := (Decimal.digitCount num : Int) - Decimal.digitCount den
    let atPower (power : Int) : Nat :=
      let shift := (places : Int) - power
      Double.roundQuotient (num * tenTo shift.toNat) (den * tenTo (-shift).toNat)
    let power := if num * tenTo (-guess).toNat < den * tenTo guess.toNat then guess - 1 else guess
    if atPower power = tenTo (places + 1) then (tenTo places, power + 1) else (atPower power, power)

def power (mark : Char) (i : Int) : Text :=
  let digits := Text.ofNat i.natAbs
  mark :: (if i < 0 then '-' else '+') :: (if digits.length < 2 then '0' :: digits else digits)

/-- A text without zeros behind its point, and without the point if nothing is left behind it. -/
def withoutZeros (s : Text) : Text :=
  if s.contains '.' then Text.dropEndWhile (· = '.') (Text.dropEndWhile (· = '0') s) else s

def fractionDigits (p : Place) (conversion : Char) (num den : Nat) : Text :=
  let places := p.precision?.getD 6
  match conversion.toLower with
  | 'f' => fixed p.marked places num den
  | 'e' =>
    let (n, i) := leading places num den
    withPoint p.marked places n ++ power conversion i
  | _ =>
    let places := if places = 0 then 1 else places
    let (n, i) := leading (places - 1) num den
    let shorten (s : Text) : Text := if p.marked then s else withoutZeros s
    if -4 ≤ i && i < places then shorten (fixed p.marked ((places : Int) - 1 - i).toNat num den)
    else shorten (withPoint p.marked (places - 1) n) ++ power (if conversion = 'G' then 'E' else 'e') i

def fraction (p : Place) (conversion : Char) (x : Double) : List UInt8 :=
  let cased (s : String) : Text := if conversion.isUpper then s.toList.map Char.toUpper else s.toList
  match x with
  | .finite negative m e =>
    let (num, den) := ratio m e
    padNumber p p.zeros (signOf p negative) (fractionDigits p conversion num den)
  | .infinite negative => padNumber p false (signOf p negative) (cased "inf")
  | .nan => padNumber p false (signOf p false) (cased "nan")

/-! ## Arguments -/

/-- What is wrong with an argument of which `rest` is left over. -/
def problem? (argument rest : Text) (inRange : Bool) : Option Text :=
  if rest.isEmpty then if inRange then none else some (argument ++ ": Numerical result out of range".toList)
  else if rest.length = argument.length then some (argument ++ ": expected numeric value".toList)
  else some (argument ++ ": not completely converted".toList)

/-- The byte behind a quote at the start of an argument. -/
def quotedByte? (argument : Text) : Option Nat :=
  match argument with
  | c :: s => if c = '\'' || c = '"' then some (((Utf8.encode s).head?.map UInt8.toNat).getD 0) else none
  | [] => none

/-- The integer of an argument, with what is wrong with it; without a sign it is below two to the sixty-fourth. -/
def integer (signed : Bool) (argument : Text) : Int × Option Text :=
  match quotedByte? argument with
  | some n => (n, none)
  | none =>
    match Arithmetic.scan true argument with
    | none => (0, problem? argument argument true)
    | some (i, rest) =>
      if signed then (Arithmetic.nearest i, problem? argument rest (Arithmetic.fits i))
      else
        let inRange := decide (i.natAbs < twoTo 64)
        (if inRange then i % twoTo 64 else twoTo 64 - 1, problem? argument rest inRange)

/-- A decimal at the start of a text, with the rest. -/
def decimal? (s : Text) : Option (Double × Text) :=
  let whole := s.takeWhile Char.isDigit
  let rest := s.drop whole.length
  let (part, rest) := match rest with
    | '.' :: t => (t.takeWhile Char.isDigit, t.dropWhile Char.isDigit)
    | t => ([], t)
  if whole.isEmpty && part.isEmpty then none
  else
    let (exponent, rest) : Int × Text := match rest with
      | e :: t =>
        let (negative, digits) := match t with
          | '-' :: u => (true, u)
          | '+' :: u => (false, u)
          | u => (false, u)
        let n := Arithmetic.decimal (digits.takeWhile Char.isDigit)
        if (e = 'e' || e = 'E') && (digits.head?.map Char.isDigit).getD false then
          (if negative then -(n : Int) else n, digits.dropWhile Char.isDigit)
        else (0, rest)
      | [] => (0, rest)
    some (Double.ofDecimal false (Arithmetic.decimal (whole ++ part)) (exponent - part.length), rest)

/-- The double at the start of a text without a sign, with the rest. -/
def double? (s : Text) : Option (Double × Text) :=
  let starts (name : String) : Bool := (s.take name.length).map Char.toLower = name.toList
  if starts "infinity" then some (.infinite false, s.drop 8)
  else if starts "inf" then some (.infinite false, s.drop 3)
  else if starts "nan" then some (.nan, s.drop 3)
  else match Arithmetic.baseOf s with
    | (16, digits) =>
      let read := digits.takeWhile Arithmetic.isHexDigit
      some (Double.ofInt (read.foldl (fun n d => 16 * n + Arithmetic.digitValue d) 0), digits.drop read.length)
    | _ => decimal? s

/-- The double of an argument, with what is wrong with it. -/
def number (argument : Text) : Double × Option Text :=
  match quotedByte? argument with
  | some n => (Double.ofInt n, none)
  | none =>
    let s := argument.dropWhile Arithmetic.isSpace
    let (negative, s) := match s with
      | '-' :: t => (true, t)
      | '+' :: t => (false, t)
      | t => (false, t)
    match double? s with
    | none => (Double.zero false, problem? argument argument true)
    | some (x, rest) =>
      let inRange := match x, s.head? with
        | .infinite _, some c => !(c.isDigit || c = '.')
        | _, _ => true
      (if negative then x.neg else x, problem? argument rest inRange)

/-! ## Formats -/

/-- What is printed so far, what is wrong with arguments, what is wrong with the format, and the arguments left. -/
structure Filled where
  bytes : List UInt8 := []
  problems : List Text := []
  refusal? : Option Text := none
  ended : Bool := false
  arguments : List Text := []
  hasPlaces : Bool := false
  deriving Repr

namespace Filled

/-- Takes the next argument; an empty one if none is left. -/
def take (f : Filled) : Text × Filled :=
  (f.arguments.headD [], { f with arguments := f.arguments.tail, hasPlaces := true })

def print (f : Filled) (bytes : List UInt8) : Filled := { f with bytes := f.bytes ++ bytes }

def note (f : Filled) (problem? : Option Text) : Filled := { f with problems := f.problems ++ problem?.toList }

def takeInteger (signed : Bool) (f : Filled) : Int × Filled :=
  if f.arguments.isEmpty then (0, f.take.2)
  else
    let (argument, f) := f.take
    let (i, problem?) := integer signed argument
    (i, f.note problem?)

/-- The number at the start of a text, which a star takes from the arguments, with the rest. -/
def takeNumber (f : Filled) (s : Text) : Int × Text × Filled :=
  match s with
  | '*' :: rest =>
    let (i, f) := f.takeInteger true
    (i, rest, f)
  | _ => (Arithmetic.decimal (s.takeWhile Char.isDigit), s.dropWhile Char.isDigit, f)

/-- Fills a place with the next argument. -/
def put (f : Filled) (p : Place) (conversion : Char) (written : Text) : Filled :=
  match conversion with
  | 's' =>
    let (argument, f) := f.take
    let bytes := Utf8.encode argument
    f.print (pad p (bytes.take (p.precision?.getD bytes.length)))
  | 'b' =>
    let (argument, f) := f.take
    let (bytes, ended) := escaped argument
    { f.print (pad p (bytes.take (p.precision?.getD bytes.length))) with ended }
  | 'c' =>
    let (argument, f) := f.take
    f.print (pad p [(Utf8.encode argument).headD 0])
  | 'd' | 'i' =>
    let (i, f) := f.takeInteger true
    f.print (signedNumber p i)
  | 'u' | 'o' | 'x' | 'X' =>
    let (i, f) := f.takeInteger false
    f.print (plainNumber p conversion i.toNat)
  | 'e' | 'E' | 'f' | 'F' | 'g' | 'G' =>
    let (argument, f) := f.take
    let (x, problem?) := number argument
    (f.note problem?).print (fraction p conversion x)
  | _ => { f with refusal? := some (written ++ ": invalid directive".toList) }

end Filled

/-- A sign that changes how a place is filled. -/
def isFlag (c : Char) : Bool := ("#-+ 0".toList).contains c

/-- Fills a place behind its percent sign; gives the rest of the format. -/
def place (f : Filled) (s : Text) : Filled × Text :=
  let flags := s.takeWhile isFlag
  let (width, rest, f) := f.takeNumber (s.drop flags.length)
  let (precision?, rest, f) : Option Int × Text × Filled := match rest with
    | '.' :: t =>
      let (i, rest, f) := f.takeNumber t
      (some i, rest, f)
    | t => (none, t, f)
  let p : Place := {
    left := flags.contains '-' || width < 0, zeros := flags.contains '0', plus := flags.contains '+',
    blank := flags.contains ' ', marked := flags.contains '#', width := width.natAbs,
    precision? := precision?.bind fun i => if i < 0 then none else some i.toNat }
  match rest with
  | c :: after => (f.put p c ('%' :: s.take (s.length - after.length)), after)
  | [] => ({ f with refusal? := some "missing format character".toList }, [])

def fillOnce : (fuel : Nat) → Filled → Text → Filled
  | 0, f, _ => f
  | fuel + 1, f, format =>
    if f.ended || f.refusal?.isSome then f
    else match format with
      | [] => f
      | '\\' :: s =>
        let (b, rest) := escape s
        fillOnce fuel (f.print [b]) rest
      | '%' :: '%' :: s => fillOnce fuel (f.print [37]) s
      | '%' :: s =>
        let (f, rest) := place f s
        fillOnce fuel f rest
      | c :: s => fillOnce fuel (f.print (Utf8.encodeChar c)) s

/-- Goes through a format until no argument is left. -/
def fillAll : (fuel : Nat) → Filled → Text → Filled
  | 0, f, _ => f
  | fuel + 1, f, format =>
    let f := fillOnce (format.length + 1) f format
    if f.arguments.isEmpty || !f.hasPlaces || f.ended || f.refusal?.isSome then f else fillAll fuel f format

def fill (format : Text) (arguments : List Text) : Filled :=
  fillAll (arguments.length + 1) { arguments } format

end ApiFlow.Shell.Format

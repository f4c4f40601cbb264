import ApiFlow.Text.Quoted

/-!
# Hosts between brackets

The host of an address may stand between brackets if it is a number of eight groups of four hexadecimal digits, or a form of
a later version.  A row of zero groups may be left out once; the last two groups may be written as four decimal numbers, and
a zone may follow a percent sign.

* `isFourNumbers` holds of four decimal numbers with points between them.
* `isEightGroups` holds of eight groups.
* `checkHost` refuses what is not a host between brackets.
-/

set_option autoImplicit false

namespace ApiFlow.Address

inductive Error where
  | loneBracket
  | noHost (host : Text)
  | fourNumbers
  | laterVersion
  | disguisedDelimiter (authority : Text)
  deriving DecidableEq, Repr

def Error.message : Error → Text
  | loneBracket => "Invalid IPv6 URL"
  | noHost host => Text.quoted host ++ " does not appear to be an IPv4 or IPv6 address"
  | fourNumbers => "An IPv4 address cannot be in brackets"
  | laterVersion => "IPvFuture address is invalid"
  | disguisedDelimiter authority =>
    "netloc '" ++ authority ++ "' contains invalid characters under NFKC normalization"

/-- A number below 256 without leading zeros. -/
def isOctet (s : Text) : Bool :=
  !s.isEmpty && s.length ≤ 3 && s.all Char.isDigit && (s = ['0'] || s.head? != some '0')
    && s.foldl (fun n d => 10 * n + (d.toNat - 48)) 0 ≤ 255

def isFourNumbers (s : Text) : Bool :=
  let parts := Text.splitAt '.' s
  parts.length = 4 && parts.all isOctet

def isHexadecimal (c : Char) : Bool := c.isDigit || ('a' ≤ c && c ≤ 'f') || ('A' ≤ c && c ≤ 'F')

/-- A group of one to four hexadecimal digits. -/
def isGroup (s : Text) : Bool := !s.isEmpty && s.length ≤ 4 && s.all isHexadecimal

/-- The parts between colons, with four numbers at the end in the place of two groups; nothing if these are wrong. -/
def groups? (s : Text) : Option (List Text) :=
  let parts := Text.splitAt ':' s
  match parts.getLast? with
  | some last =>
    if last.contains '.' then if isFourNumbers last then some (parts.dropLast ++ [['0'], ['0']]) else none
    else some parts
  | none => some parts

/-- The places of empty parts that are neither the first nor the last one. -/
def innerGaps (parts : List Text) : List Nat :=
  (List.range parts.length).filter fun i => 0 < i && i + 1 < parts.length && (parts[i]?.map List.isEmpty).getD false

/-- Parts without an empty one that stands next to a gap; a single empty part elsewhere stays. -/
def besideGap (parts : List Text) : List Text := if parts = [[]] then [] else parts

/-- Whether parts with at most one gap make eight groups: without a gap all are there, and a gap stands for at least one. -/
def areGroups (parts : List Text) : Bool :=
  match innerGaps parts with
  | [] => parts.length = 8 && parts.all isGroup
  | [gap] =>
    let written := besideGap (parts.take gap) ++ besideGap (parts.drop (gap + 1))
    written.length ≤ 7 && written.all isGroup
  | _ => false

def isEightGroups (s : Text) : Bool :=
  3 ≤ (Text.splitAt ':' s).length && match groups? s with
    | some parts => areGroups parts
    | none => false

/-- Eight groups with a zone, which is not empty and holds no percent sign. -/
def isHostNumber (s : Text) : Bool :=
  !s.contains '/' && match Text.cutAt? '%' s with
    | some (number, zone) => isEightGroups number && !zone.isEmpty && !zone.contains '%'
    | none => isEightGroups s

/-- A host of a later version: its number in hexadecimal digits, a point, and something behind it. -/
def isLaterVersion (s : Text) : Bool :=
  let digits := s.tail.takeWhile isHexadecimal
  match s.tail.drop digits.length with
  | '.' :: _ :: _ => !digits.isEmpty
  | _ => false

/-- Refuses what is not a host between brackets. -/
def checkHost (host : Text) : Except Error Unit :=
  if host.head? = some 'v' then if isLaterVersion host then .ok () else .error .laterVersion
  else if isFourNumbers host then .error .fourNumbers
  else if isHostNumber host then .ok ()
  else .error (.noHost host)

/-- What stands behind the last at sign of an authority. -/
def hostAndPort (authority : Text) : Text := (authority.reverse.takeWhile (· != '@')).reverse

/-- Refuses an authority with brackets anywhere but around its host. -/
def checkBrackets (authority : Text) : Except Error Unit :=
  let place := hostAndPort authority
  match Text.cutAt? '[' place with
  | some (front, inside) =>
    let host := inside.takeWhile (· != ']')
    let port := inside.drop (host.length + 1)
    if !front.isEmpty || (!port.isEmpty && port.head? != some ':') then .error .loneBracket else checkHost host
  | none => checkHost (place.takeWhile (· != ':'))

end ApiFlow.Address

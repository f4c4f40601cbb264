import ApiFlow.Text.Basic

/-!
# Walking through options

A script may take its options one by one: letters behind a hyphen, several of which may stand together; some take a value.
The letters that are known stand in a text, with a colon behind each that takes a value.  A colon in front of them keeps
the walk from complaining.

* `OptionWalk.next` gives the next option and the place behind it.
-/

set_option autoImplicit false

namespace ApiFlow.Shell

/-- Where a walk stands: the argument that is read next, counted from one, and how many characters of the argument before
it are read already. -/
structure OptionPlace where
  index : Nat := 1
  offset? : Option Nat := none
  deriving DecidableEq, Repr

def OptionPlace.ofText (s : Text) : OptionPlace :=
  { index := if s.all Char.isDigit then max 1 (s.foldl (fun n c => n * 10 + (c.toNat - 48)) 0) else 1 }

namespace OptionWalk

/-- What becomes of the value that the option before had. -/
inductive Value where
  | kept
  | gone
  | set (s : Text)
  deriving DecidableEq, Repr

structure Step where
  place : OptionPlace
  letter : Char := '?'
  value : Value := .kept
  complaint? : Option Text := none
  ended : Bool := false
  deriving DecidableEq, Repr

def takesValue? (letter : Char) : (known : Text) → Option Bool
  | [] => none
  | c :: ':' :: known => if c = letter then some true else takesValue? letter known
  | c :: known => if c = letter then some false else takesValue? letter known

def wrong (known : Text) (letter reported : Char) (complaint : Text) (place : OptionPlace) : Step :=
  if known.head? = some ':' then { place, letter := reported, value := .set [letter] }
  else { place, value := .gone, complaint? := some complaint }

/-- A step at a letter, the characters behind which are given, in an argument before the one with the index. -/
def atLetter (known : Text) (arguments : List Text) (index : Nat) (letter : Char) (rest : Text) : Step :=
  let inside : OptionPlace := { index, offset? := arguments[index - 2]?.map fun word => word.length - rest.length }
  match takesValue? letter known, rest with
  | none, _ => wrong known letter '?' ("Illegal option -".toList ++ [letter]) inside
  | some false, _ => { place := inside, letter, value := .set [] }
  | some true, _ :: _ => { place := { index }, letter, value := .set rest }
  | some true, [] =>
    match arguments[index - 1]? with
    | some value => { place := { index := index + 1 }, letter, value := .set value }
    | none => wrong known letter ':' ("No arg for -".toList ++ letter :: " option".toList) { index }

/-- The next step from a place; a place behind all arguments stands for the first one. -/
def next (known : Text) (arguments : List Text) (place : OptionPlace) : Step :=
  let place : OptionPlace := if arguments.length + 1 < place.index then {} else place
  let before? := if place.index ≤ 1 then none else arguments[place.index - 2]?
  match place.offset?.bind fun n => before?.map fun word => word.drop n with
  | some (letter :: rest) => atLetter known arguments place.index letter rest
  | _ =>
    match arguments[place.index - 1]? with
    | some ['-', '-'] => { place := { index := place.index + 1 }, ended := true }
    | some ('-' :: letter :: rest) => atLetter known arguments (place.index + 1) letter rest
    | _ => { place := { index := place.index }, ended := true }

end OptionWalk

end ApiFlow.Shell

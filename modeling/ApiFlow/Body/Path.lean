import ApiFlow.Json.Parser
import ApiFlow.Json.Printer
import ApiFlow.Text.Class

/-!
# Paths into response bodies

A path is a row of object keys and array indices between dots; `#` is the length of an array, and a backslash makes the
next character part of a key.  An index may also stand in brackets, and a path may begin with `$.`; `normalize` brings
both into the dotted form.

* `split` gives the parts of a path.
* `find` follows the parts through a value.
* `inBody` reads a body and follows a path through it.
-/

set_option autoImplicit false

namespace ApiFlow.Body

/-- The digits of an index in brackets, given the text behind the opening one. -/
def bracketIndex? (s : Text) : Option Text :=
  match s.takeWhile Text.isDecimal, s.dropWhile Text.isDecimal with
  | d :: digits, ']' :: _ => some (d :: digits)
  | _, _ => none

/-- Indices in brackets as parts behind a dot, behind the next `skip` characters. -/
def dotIndices : (skip : Nat) → Text → Text
  | _, [] => []
  | skip + 1, _ :: s => dotIndices skip s
  | 0, c :: s =>
    if c = '[' then
      match bracketIndex? s with
      | some digits => '.' :: digits ++ dotIndices (digits.length + 1) s
      | none => c :: dotIndices 0 s
    else c :: dotIndices 0 s

/-- One dot for each run of dots. -/
def singleDots : Text → Text
  | [] => []
  | c :: s => if c = '.' && s.head? = some '.' then singleDots s else c :: singleDots s

/-- A path without the sign for the whole body. -/
def dropRoot (path : Text) : Text :=
  if path = ['$'] then [] else Text.dropStart ['$', '.'] path

def normalize (path : Text) : Text :=
  (dropRoot (singleDots (dotIndices 0 (Text.trim path)))).dropWhile (· = '.')

/-- The parts of a path between dots; a backslash takes the next character as it is. -/
def split : Text → List Text
  | [] => [[]]
  | ['\\'] => [[]]
  | '\\' :: c :: s => Text.pushFirst c (split s)
  | c :: s => if c = '.' then [] :: split s else Text.pushFirst c (split s)

/-- The item of an array that a part of a path names. -/
def itemAt (items : List Json) (part : Text) : Except Integer.ReadError (Option Json) :=
  if part = ['#'] then .ok (some (.int items.length))
  else if !part.isEmpty && part.all Text.isDigit then
    (Integer.read part).map fun n => items[n.toNat]?
  else .ok none

/-- The value that one part of a path leads to. -/
def step (value : Json) (part : Text) : Except Integer.ReadError (Option Json) :=
  match value with
  | .obj members => .ok (Table.get? members part)
  | .arr items => itemAt items part
  | _ => .ok none

def follow : List Text → Json → Except Integer.ReadError (Option Json)
  | [], value => .ok (some value)
  | part :: parts, value =>
    match step value part with
    | .ok (some next) => follow parts next
    | .ok none => .ok none
    | .error e => .error e

/-- The value that a path leads to; an empty path leads to the value itself. -/
def find (value : Json) (path : Text) : Except Integer.ReadError (Option Json) :=
  let path := normalize path
  if path.isEmpty then .ok (some value) else follow (split path) value

/-- The value that a path leads to in a body; nothing where the body cannot be read. -/
def inBody (body path : Text) : Except Integer.ReadError (Option Json) :=
  match Json.decode? body with
  | none => .ok none
  | some value => find value path

end ApiFlow.Body

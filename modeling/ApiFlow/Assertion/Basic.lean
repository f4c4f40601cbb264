import ApiFlow.Assertion.Comparison
import ApiFlow.Body.Path
import ApiFlow.Template.Basic

/-!
# Assertions

An assertion is one line about a response: its status, its duration, its body, or a place in its body.

* `Form.ofText` tells what a line asserts: that a place is there or not, that a text is part of another, or how a value
  or its size compares with an expected text.
* `check` decides a line; the expected text may hold references.
-/

set_option autoImplicit false

namespace ApiFlow.Assertion

structure Subject where
  status : Int
  body : Text
  durationMs : Int
  deriving DecidableEq, Repr

/-- The ways of being part of a text. -/
inductive Containment where
  | inside
  | atStart
  | atEnd
  deriving DecidableEq, Repr

def Containment.symbol : Containment → Text
  | inside => "contains"
  | atStart => "startsWith"
  | atEnd => "endsWith"

def Containment.holds : Containment → (part whole : Text) → Bool
  | inside, part, whole => Text.occursIn part whole
  | atStart, part, whole => part.isPrefixOf whole
  | atEnd, part, whole => part.isSuffixOf whole

/-- What a line asserts, with its sides as they are written. -/
inductive Form where
  | absent (place : Text)
  | present (place : Text)
  | contains (how : Containment) (left right : Text)
  | size (left : Text) (relation? : Option (Relation × Text))
  | relation (left : Text) (r : Relation) (right : Text)
  | unreadable
  deriving DecidableEq, Repr

/-- Splits a text at a word between blanks. -/
def cutWord? (word s : Text) : Option (Text × Text) := Text.cut? (' ' :: word ++ [' ']) s

/-- The containment in a line: `contains` is looked for first. -/
def containmentIn? (s : Text) : Option Form :=
  [Containment.inside, .atStart, .atEnd].findSome? fun how =>
    (cutWord? how.symbol s).map fun p => .contains how p.1 p.2

/-- The relation at the start of a text, and what follows it; a single equals sign means equality. -/
def leadingRelation? (s : Text) : Option (Relation × Text) :=
  match Relation.signs.find? fun r => r.symbol.isPrefixOf s with
  | some r => some (r, s.drop r.symbol.length)
  | none => if s.head? = some '=' then some (.equal, s.drop 1) else none

/-- The relation in a line: between blanks, else anywhere, else a single equals sign. -/
def relationIn? (s : Text) : Option Form :=
  let spaced := Relation.all.findSome? fun r => (cutWord? r.symbol s).map fun p => Form.relation p.1 r p.2
  let bare := Relation.signs.findSome? fun r => (Text.cut? r.symbol s).map fun p => Form.relation p.1 r p.2
  let single := (Text.cutAt? '=' s).map fun p => Form.relation p.1 .equal p.2
  spaced.or (bare.or single)

/-- What a trimmed line asserts. -/
def Form.ofText (s : Text) : Form :=
  match Text.stripEnd? " not exists" s, Text.stripEnd? " exists" s with
  | some place, _ => .absent place
  | none, some place => .present place
  | none, none =>
    match containmentIn? s with
    | some form => form
    | none =>
      match cutWord? "length" s with
      | some (left, rest) => .size left (leadingRelation? (Text.trim rest))
      | none => (relationIn? s).getD .unreadable

/-- The path that a key names in the body. -/
def pathOf (key : Text) : Text := Body.normalize (Text.dropStart "body." key)

/-- A looked-up value under the name that diagnostics use. -/
structure Found where
  key : Text
  value? : Option Json

/-- The value that the left side of an assertion names. -/
def Subject.value (s : Subject) (key : Text) : Except Fault Found :=
  if key = "status".toList then .ok ⟨key, some (.int s.status)⟩
  else if key = "duration".toList then .ok ⟨key, some (.int s.durationMs)⟩
  else if key = "body".toList then .ok ⟨key, some (.str s.body)⟩
  else
    match Body.inBody s.body (pathOf key) with
    | .ok value? => .ok ⟨pathOf key, value?⟩
    | .error e => .error (.integer e)

/-- The number of items, members or characters of a value; of another value, the length of its text. -/
def sizeOf : Json → Nat
  | .arr items => items.length
  | .obj members => members.length
  | .str s => s.length
  | value => value.asText.length

/-- The expected text of an assertion: filled in, and without quotes at its ends. -/
def expectedText (builtins : Builtins) (vars : Table Text) (raw : Text) (d : Draws) : Text × Draws :=
  let (f, d) := Template.fill builtins vars (Text.trim raw) d
  (Text.dropEndWhile Arithmetic.isQuote (f.text.dropWhile Arithmetic.isQuote), d)

/-- Whether a part is in a value: as an item of an array, else in its text. -/
def isPartOf (how : Containment) (part : Text) (value : Json) : Bool :=
  match how, value with
  | .inside, .arr items => items.any fun i => i.asText = part
  | how, value => how.holds part value.asText

/-- The expected text of a comparison with a duration may end in `ms`. -/
def withoutUnit (key expected : Text) : Text :=
  if key = "duration".toList then ((Text.stripEnd? "ms" expected).map Text.trim).getD expected else expected

def checkPresence (s : Subject) (place : Text) (wanted : Bool) : Except Fault Verdict :=
  let path := pathOf (Text.trim place)
  match Body.inBody s.body path with
  | .error e => .error (.integer e)
  | .ok value? =>
    .ok (verdictOf (value?.isSome = wanted) (if wanted then .absent path else .present path))

/-- Decides an assertion about the value that its left side names. -/
def checkValue (s : Subject) (left : Text) (d : Draws)
    (decide : Text → Json → Draws → Except Fault Verdict × Draws) : Except Fault Verdict × Draws :=
  match s.value (Text.trim left) with
  | .error e => (.error e, d)
  | .ok ⟨key, none⟩ => (.ok (.fail (.notFound key)), d)
  | .ok ⟨key, some value⟩ => decide key value d

/-- Decides what a line asserts; `s` is the line itself. -/
def Form.check (builtins : Builtins) (vars : Table Text) (subject : Subject) (line : Text) (d : Draws) :
    Form → Except Fault Verdict × Draws
  | absent place => (checkPresence subject place false, d)
  | present place => (checkPresence subject place true, d)
  | contains how left right => checkValue subject left d fun key value d =>
    let (expected, d) := expectedText builtins vars right d
    (.ok (verdictOf (isPartOf how expected value) (.mismatch key how.symbol expected value.asText)), d)
  | size left relation? => checkValue subject left d fun key value d =>
    match relation? with
    | none => (.ok (.fail (.format line)), d)
    | some (r, right) =>
      let (expected, d) := expectedText builtins vars right d
      (compare (key ++ " length") r.symbol expected (Text.ofNat (sizeOf value)), d)
  | relation left r right => checkValue subject left d fun key value d =>
    let (expected, d) := expectedText builtins vars right d
    (compare key r.symbol (withoutUnit key expected) value.asText, d)
  | unreadable => (.ok (.fail (.format line)), d)

def check (builtins : Builtins) (vars : Table Text) (subject : Subject) (assertion : Text) (d : Draws) :
    Except Fault Verdict × Draws :=
  (Form.ofText (Text.trim assertion)).check builtins vars subject (Text.trim assertion) d

end ApiFlow.Assertion

import ApiFlow.Number.Shortest
import ApiFlow.Yaml.Binary
import ApiFlow.Yaml.Calendar

/-!
# Configuration values

What a configuration file may hold: scalars with bytes, dates and moments among them, lists, pairs, sets, and maps whose
keys are scalars.  A list or map may hold itself: then it has a number, and the number stands for it inside.

* `Value.opened` shows what a list or map holds, with the number inside replaced by the whole.
* `Value.text?` is the text of a value where a text is asked for; `Value.nested?` is its form inside lists and in messages,
  where a list or map inside itself is an ellipsis.  There is no text of an integer with too many digits.
* `Value.isTrue` is its truth: empty, zero, false and nothing are false.
* `Value.same` is the equality of keys; numbers are equal by value, and true counts as one.
-/

set_option autoImplicit false

namespace ApiFlow.Yaml

/-- A configuration value. -/
inductive Value where
  | null
  | bool (b : Bool)
  | int (i : Int)
  | real (x : Double)
  | str (s : Text)
  | bytes (bs : List UInt8)
  | date (d : Date)
  | moment (m : Moment)
  | list (items : List Value)
  | pair (first second : Value)
  | set (members : List Value)
  | map (entries : List (Value × Value))
  /-- A list or map that holds itself, under a number of its own. -/
  | named (id : Nat) (body : Value)
  /-- The list or map around this place with the given number. -/
  | again (id : Nat) (isMap : Bool)

namespace Value

/-! ## Lists and maps that hold themselves -/

mutual

/-- Puts a value in the places of a number. -/
def fill (id : Nat) (whole : Value) : Value → Value
  | again n isMap => if n = id then whole else again n isMap
  | list items => list (fillItems id whole items)
  | pair a b => pair (fill id whole a) (fill id whole b)
  | map entries => map (fillEntries id whole entries)
  | named n body => if n = id then named n body else named n (fill id whole body)
  | value => value

/-- Puts a value in the places of a number inside items. -/
def fillItems (id : Nat) (whole : Value) : List Value → List Value
  | [] => []
  | item :: items => fill id whole item :: fillItems id whole items

/-- Puts a value in the places of a number inside entries. -/
def fillEntries (id : Nat) (whole : Value) : List (Value × Value) → List (Value × Value)
  | [] => []
  | (key, value) :: entries => (key, fill id whole value) :: fillEntries id whole entries

end

/-- A value that shows what it holds: inside a list or map that holds itself, the whole stands for its number. -/
def opened : Value → Value
  | named id body => fill id (named id body) body
  | value => value

/-! ## Texts -/

/-- What stands for a list or map inside itself. -/
def ellipsis (isMap : Bool) : Text := if isMap then "{...}" else "[...]"

def isMap : Value → Bool
  | map _ => true
  | named _ body => body.isMap
  | again _ isMap => isMap
  | _ => false

/-- The members of a set; the empty set has a form of its own. -/
def setText (members : List Text) : Text :=
  if members.isEmpty then "set()" else r"{" ++ Text.join ", " members ++ r"}"

mutual

/-- A value inside a list, and in messages, given the numbers of what is around it. -/
def nestedIn (around : List Nat) : Value → Option Text
  | null => some "None"
  | bool b => some (if b then "True" else "False")
  | int i => Integer.text? i
  | real x => some x.text
  | str s => some (Text.quoted s)
  | bytes bs => some (Binary.quoted bs)
  | date d => some d.nested
  | moment m => some m.nested
  | list items => (nestedItems around items).map fun parts => "[" ++ Text.join ", " parts ++ "]"
  | pair a b => do return "(" ++ (← nestedIn around a) ++ ", " ++ (← nestedIn around b) ++ ")"
  | set members => (nestedItems around members).map setText
  | map entries => (nestedEntries around entries).map fun parts => r"{" ++ Text.join ", " parts ++ r"}"
  | named id body => if around.contains id then some (ellipsis body.isMap) else nestedIn (id :: around) body
  | again _ isMap => some (ellipsis isMap)

def nestedItems (around : List Nat) : List Value → Option (List Text)
  | [] => some []
  | item :: items => do return (← nestedIn around item) :: (← nestedItems around items)

def nestedEntries (around : List Nat) : List (Value × Value) → Option (List Text)
  | [] => some []
  | (key, value) :: entries => do
    return ((← nestedIn around key) ++ ": " ++ (← nestedIn around value)) :: (← nestedEntries around entries)

end

/-- A value inside a list, and in messages. -/
def nested? (value : Value) : Option Text := nestedIn [] value

def text? : Value → Option Text
  | str s => some s
  | date d => some d.text
  | moment m => some m.text
  | value => value.nested?

/-! ## Truth and equality -/

/-- The truth of a value. -/
def isTrue : Value → Bool
  | null => false
  | bool b => b
  | int i => i != 0
  | real (.finite _ m _) => m != 0
  | real _ => true
  | str s => !s.isEmpty
  | bytes bs => !bs.isEmpty
  | date _ => true
  | moment _ => true
  | list items => !items.isEmpty
  | pair _ _ => true
  | set members => !members.isEmpty
  | map entries => !entries.isEmpty
  | named _ _ => true
  | again _ _ => true

def integer? : Value → Option Int
  | bool b => some (if b then 1 else 0)
  | int i => some i
  | real x => if x.isInteger then x.truncate? else none
  | _ => none

/-- Whether two keys are equal; what is no number counts as the same number. -/
def same : Value → Value → Bool
  | null, null => true
  | str s, str t => s = t
  | bytes s, bytes t => s = t
  | date d, date e => d = e
  | moment m, moment n => m.same n
  | real .nan, real .nan => true
  | real x, real y => x.compare? y == some .eq
  | a, b =>
    match a.integer?, b.integer? with
    | some i, some j => i = j
    | _, _ => false

/-- Writes an entry: in place if an equal key is there, which stays as it is. -/
def setEntry {α : Type} (key : Value) (value : α) : List (Value × α) → List (Value × α)
  | [] => [(key, value)]
  | (k, v) :: entries => if same k key then (k, value) :: entries else (k, v) :: setEntry key value entries

def member? (name : Text) (entries : List (Value × Value)) : Option Value :=
  (entries.find? fun e => same e.1 (str name)).map Prod.snd

end Value

abbrev Reader := (text : Text) → Except Error Value

end ApiFlow.Yaml

import ApiFlow.Shell.Arithmetic
import ApiFlow.Files.Tree

/-!
# Conditions

A condition is a row of words: a text is true if it is not empty, an operator in front of a word asks for a property of it,
and one between two words compares them.  Three and four words are understood by their number first, so that a word that
looks like an operator can be compared.

* `Condition.truth` is the truth of words.
-/

set_option autoImplicit false

namespace ApiFlow.Shell.Condition

/-- What an operator asks for. -/
inductive Kind where
  | property
  | comparison
  | negation
  | conjunction
  | disjunction
  | opening
  | closing
  deriving DecidableEq, Repr

/-- Operators in front of a word. -/
def properties : List String :=
  ["-r", "-w", "-x", "-e", "-f", "-d", "-c", "-b", "-p", "-u", "-g", "-k", "-s", "-t", "-z", "-n", "-h", "-L", "-O", "-G",
    "-S"]

/-- Operators between two words. -/
def comparisons : List String :=
  ["=", "!=", "<", ">", "-eq", "-ne", "-ge", "-gt", "-le", "-lt", "-nt", "-ot", "-ef"]

def kind? (s : Text) : Option Kind :=
  let s := String.ofList s
  if properties.contains s then some .property
  else if comparisons.contains s then some .comparison
  else match s with
    | "!" => some .negation
    | "-a" => some .conjunction
    | "-o" => some .disjunction
    | "(" => some .opening
    | ")" => some .closing
    | _ => none

/-- The kind of the operator at the start of words; one that asks for a property is a plain word where it has none to ask
it of. -/
def lead? (words : List Text) : Option Kind :=
  match words with
  | [] => none
  | s :: rest =>
    match kind? s, rest with
    | some .property, [] => none
    | some .property, t :: _ :: _ => if kind? t = some .comparison then none else some .property
    | some .opening, [] => none
    | k, _ => k

def integer (s : Text) : Except Text Int :=
  match Arithmetic.integer? false s with
  | some i => .ok i
  | none => .error ("Illegal number: ".toList ++ s)

/-- Whether two words compare as asked. -/
def compare (operator : String) (a b : Text) : Except Text Bool := do
  match operator with
  | "=" => return a = b
  | "!=" => return a != b
  | "<" => return Text.before a b
  | ">" => return Text.before b a
  | "-eq" => return (← integer a) = (← integer b)
  | "-ne" => return (← integer a) != (← integer b)
  | "-lt" => return (← integer a) < (← integer b)
  | "-le" => return (← integer a) ≤ (← integer b)
  | "-gt" => return (← integer b) < (← integer a)
  | "-ge" => return (← integer b) ≤ (← integer a)
  | "-ef" => return a = b
  | _ => return false

/-- The files that words are asked about, and those of them that can be run. -/
structure Surroundings where
  files : Files.Tree
  programs : List (List Text)

def hasProperty (w : Surroundings) (operator : String) (s : Text) : Bool :=
  let isDevice := s = "/dev/null".toList
  match operator, (w.files.find (w.files.pathOf s)).toOption with
  | "-n", _ => !s.isEmpty
  | "-z", _ => s.isEmpty
  | "-e", found? | "-r", found? | "-w", found? | "-O", found? | "-G", found? => found?.isSome || isDevice
  | "-c", _ => isDevice
  | "-f", some (.file _) => true
  | "-s", some (.file bytes) => !bytes.isEmpty
  | "-s", some .directory => true
  | "-d", some .directory => true
  | "-x", some .directory => true
  | "-x", some (.file _) => w.programs.contains (w.files.placed s).parts
  | _, _ => false

/-- A truth with the words that it ends at, the last one of it first. -/
abbrev Result := Except Text (Bool × List Text)

mutual

/-- The truth of words joined by `-o`. -/
def anyOf (w : Surroundings) : (fuel : Nat) → List Text → Result
  | 0, words => .ok (false, words)
  | fuel + 1, words => do
    let (first, words) ← allOf w fuel words
    if lead? words.tail = some .disjunction then
      let (second, words) ← anyOf w fuel (words.drop 2)
      return (first || second, words)
    else return (first, words)

/-- The truth of words joined by `-a`. -/
def allOf (w : Surroundings) : (fuel : Nat) → List Text → Result
  | 0, words => .ok (false, words)
  | fuel + 1, words => do
    let (first, words) ← turned w fuel words
    if lead? words.tail = some .conjunction then
      let (second, words) ← allOf w fuel (words.drop 2)
      return (first && second, words)
    else return (first, words)

def turned (w : Surroundings) : (fuel : Nat) → List Text → Result
  | 0, words => .ok (false, words)
  | fuel + 1, words => do
    if lead? words = some .negation then
      let (b, words) ← turned w fuel (if words.tail.isEmpty then [] else words.tail)
      return (!b, words)
    else single w fuel words

/-- The truth of a word, of its property, of a comparison or of what stands in parentheses. -/
def single (w : Surroundings) : (fuel : Nat) → List Text → Result
  | 0, words => .ok (false, words)
  | fuel + 1, words => do
    match words, lead? words with
    | [], _ => return (false, [])
    | _ :: rest, some .opening =>
      if lead? rest = some .closing then return (false, rest)
      else
        let (b, words) ← anyOf w fuel rest
        if lead? words.tail = some .closing then return (b, words.tail)
        else throw "closing paren expected".toList
    | operator :: rest, some .property =>
      match rest with
      | [] => throw (operator ++ ": argument expected".toList)
      | s :: _ => return (hasProperty w (String.ofList operator) s, rest)
    | s :: rest, _ =>
      if lead? rest = some .comparison then
        match rest with
        | operator :: t :: others => return (← compare (String.ofList operator) s t, t :: others)
        | _ => throw (rest.headD [] ++ ": argument expected".toList)
      else return (!s.isEmpty, words)

end

/-- The truth of words that are not understood by their number. -/
def general (w : Surroundings) (plain : Bool) (words : List Text) : Except Text Bool := do
  let (b, words) ← match plain, words with
    | true, s :: rest =>
      match rest with
      | operator :: t :: others => do
        let b ← compare (String.ofList operator) s t
        pure (b, t :: others)
      | _ => anyOf w (8 * words.length + 8) words
    | _, _ => anyOf w (8 * words.length + 8) words
  match words with
  | s :: _ :: _ => throw (s ++ ": unexpected operator".toList)
  | _ => return b

def truthFrom (w : Surroundings) : (fuel : Nat) → List Text → Except Text Bool
  | 0, _ => .ok false
  | fuel + 1, words =>
    match words with
    | [] => .ok false
    | [s, operator, t] =>
      if kind? operator = some .comparison then general w true words
      else if s = ['('] && t = [')'] then general w false [operator]
      else if s = ['!'] then (truthFrom w fuel [operator, t]).map (! ·)
      else general w false words
    | [s, t, u, v] =>
      if s = ['('] && v = [')'] then general w false [t, u]
      else if s = ['!'] then (truthFrom w fuel [t, u, v]).map (! ·)
      else general w false words
    | _ => general w false words

def truth (w : Surroundings) (words : List Text) : Except Text Bool := truthFrom w (words.length + 1) words

end ApiFlow.Shell.Condition

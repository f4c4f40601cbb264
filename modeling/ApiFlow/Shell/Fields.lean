import ApiFlow.Files.Tree
import ApiFlow.Text.Basic

/-!
# Wildcards and fields

A pattern stands for texts: a star for any text, a question mark for one character, brackets for one of the characters in
them.  A quoted character, or one behind a backslash, stands for itself.

What an expansion gives outside quotes is cut into fields at separators.  A run of blanks separates once; any other
separator ends a field even if it is empty.

A field that holds a pattern stands for the paths that it matches, one directory after the other.  A name that starts with
a dot is matched only where the pattern has the dot as well.

* `Wildcard.ofLetters` reads a pattern, `Wildcard.fits` compares it with a text.
* `Wildcard.trimFront` and `Wildcard.trimBack` take what a pattern stands for from an end of a text.
* `Names.all` gives the paths that a field stands for.
* `Fields.add` adds letters that stay together, `Fields.cut` letters that are cut.
* `fieldsOfLine` cuts a line into a given number of fields.
-/

set_option autoImplicit false

namespace ApiFlow.Shell

/-- A character that is quoted or not. -/
structure Letter where
  char : Char
  quoted : Bool
  deriving DecidableEq, Repr

namespace Letter

/-- The letters of a text that is quoted or not as a whole. -/
def ofText (quoted : Bool) (s : Text) : List Letter := s.map fun c => ⟨c, quoted⟩

def text (letters : List Letter) : Text := letters.map Letter.char

def isBare (l : Letter) (c : Char) : Bool := !l.quoted && l.char = c

end Letter

/-- What brackets of a pattern hold. -/
inductive Member where
  | range (first last : Char)
  | kind (name : Text)
  deriving DecidableEq, Repr

/-- A part of a pattern. -/
inductive Wildcard where
  | itself (c : Char)
  | one
  | many
  | among (negated : Bool) (members : List Member)
  deriving DecidableEq, Repr

namespace Wildcard

def isVisible (c : Char) : Bool := 0x21 ≤ c.toNat && c.toNat ≤ 0x7e

def isOfKind (name : Text) (c : Char) : Bool :=
  match String.ofList name with
  | "alpha" => c.isAlpha
  | "digit" => c.isDigit
  | "alnum" => c.isAlphanum
  | "upper" => c.isUpper
  | "lower" => c.isLower
  | "space" => c = ' ' || (9 ≤ c.toNat && c.toNat ≤ 13)
  | "blank" => c = ' ' || c = '\t'
  | "punct" => isVisible c && !c.isAlphanum
  | "print" => isVisible c || c = ' '
  | "graph" => isVisible c
  | "cntrl" => c.toNat < 32 || c.toNat = 127
  | "xdigit" => c.isDigit || ('a' ≤ c.toLower && c.toLower ≤ 'f')
  | _ => false

/-- Whether a character is what a member of brackets stands for. -/
def Member.covers (c : Char) : Member → Bool
  | .range first last => first ≤ c && c ≤ last
  | .kind name => isOfKind name c

/-- The name of a kind behind its opening bracket and colon, with the letters behind it. -/
def kind? (letters : List Letter) : Option (Text × List Letter) :=
  let name := letters.takeWhile fun l => l.char.isAlpha
  match letters.drop name.length with
  | ⟨':', _⟩ :: ⟨']', _⟩ :: rest => some (Letter.text name, rest)
  | _ => none

/-- The members of brackets up to the closing one, with the letters behind it; a closing bracket in the first place stands
for itself. -/
def members? : (fuel : Nat) → (first : Bool) → List Letter → Option (List Member × List Letter)
  | 0, _, _ => none
  | _ + 1, _, [] => none
  | fuel + 1, first, l :: rest =>
    if l.isBare ']' && !first then some ([], rest)
    else
      match if l.isBare '[' && rest.head?.map Letter.char = some ':' then kind? rest.tail else none with
      | some (name, rest) => (members? fuel false rest).map fun r => (.kind name :: r.1, r.2)
      | none =>
        let (c, rest) := match l.isBare '\\', rest with
          | true, d :: rest => (d.char, rest)
          | _, _ => (l.char, rest)
        match rest with
        | dash :: last :: others =>
          if dash.isBare '-' && !last.isBare ']' then
            let (d, others) := match last.isBare '\\', others with
              | true, e :: others => (e.char, others)
              | _, _ => (last.char, others)
            (members? fuel false others).map fun r => (.range c d :: r.1, r.2)
          else (members? fuel false rest).map fun r => (.range c c :: r.1, r.2)
        | _ => (members? fuel false rest).map fun r => (.range c c :: r.1, r.2)

/-- The parts of a pattern; there are no more parts than letters. -/
def ofLettersFrom : (fuel : Nat) → List Letter → List Wildcard
  | 0, _ => []
  | _ + 1, [] => []
  | fuel + 1, l :: rest =>
    if l.isBare '*' then .many :: ofLettersFrom fuel rest
    else if l.isBare '?' then .one :: ofLettersFrom fuel rest
    else if l.isBare '[' then
      let negated := (rest.head?.map fun l => l.isBare '!').getD false
      match members? (rest.length + 1) true (if negated then rest.tail else rest) with
      | some (members, rest) => .among negated members :: ofLettersFrom fuel rest
      | none => .itself '[' :: ofLettersFrom fuel rest
    else
      match l.isBare '\\', rest with
      | true, d :: rest => .itself d.char :: ofLettersFrom fuel rest
      | _, _ => .itself l.char :: ofLettersFrom fuel rest

/-- The parts of a pattern. -/
def ofLetters (letters : List Letter) : List Wildcard := ofLettersFrom (letters.length + 1) letters

/-- Whether letters are more than a plain text. -/
def isActive (letters : List Letter) : Bool :=
  letters.any fun l => l.isBare '*' || l.isBare '?' || l.isBare '['

/-- Whether a part stands for a character. -/
def covers (w : Wildcard) (c : Char) : Bool :=
  match w with
  | .itself d => c = d
  | .one => true
  | .many => false
  | .among negated members => members.any (Member.covers c) != negated

/-- Whether a pattern stands for a text. -/
def fits : List Wildcard → Text → Bool
  | [], s => s.isEmpty
  | .many :: p, [] => fits p []
  | .many :: p, c :: s => fits p (c :: s) || fits (.many :: p) s
  | _ :: _, [] => false
  | w :: p, c :: s => w.covers c && fits p s
termination_by p s => (p.length, s.length)

/-- What is left of a text without what a pattern stands for at its front: the least or the most that it can be. -/
def trimFront (longest : Bool) (p : List Wildcard) (s : Text) : Text :=
  let sizes := List.range (s.length + 1)
  match (if longest then sizes.reverse else sizes).find? fun n => fits p (s.take n) with
  | some n => s.drop n
  | none => s

/-- What is left of a text without what a pattern stands for at its back: the least or the most that it can be. -/
def trimBack (longest : Bool) (p : List Wildcard) (s : Text) : Text :=
  let sizes := List.range (s.length + 1)
  match (if longest then sizes else sizes.reverse).find? fun n => fits p (s.drop n) with
  | some n => s.take n
  | none => s

end Wildcard

end ApiFlow.Shell

/-! ## Names of files -/

namespace ApiFlow.Shell.Names

/-- The parts of a field between slashes. -/
def components : List Letter → List (List Letter)
  | [] => [[]]
  | l :: letters =>
    if l.char = '/' then [] :: components letters
    else match components letters with
      | first :: others => (l :: first) :: others
      | [] => [[l]]

/-- The names in the directory that a path leads to. -/
def inside (t : Files.Tree) (path : Text) : List Text :=
  if t.isDirectory (t.pathOf path) then ['.'] :: ['.', '.'] :: t.namesIn (t.placed path).parts
  else []

def isThere (t : Files.Tree) (path : Text) : Bool := (t.find (t.pathOf path)).toOption.isSome

/-- Whether a name is one that a part of a pattern stands for. -/
def isNamed (part : List Letter) (name : Text) : Bool :=
  (name.head? != some '.' || part.head?.map Letter.char = some '.') && Wildcard.fits (Wildcard.ofLetters part) name

/-- The paths from a start that the parts of a pattern stand for. -/
def paths (t : Files.Tree) : (start : Text) → List (List Letter) → List Text
  | start, [] => [start]
  | start, [part] =>
    if Wildcard.isActive part then ((inside t start).filter (isNamed part)).map (start ++ ·)
    else if isThere t (start ++ Letter.text part) then [start ++ Letter.text part] else []
  | start, part :: parts =>
    if Wildcard.isActive part then
      ((inside t start).filter fun name => isNamed part name && t.isDirectory (t.pathOf (start ++ name))).flatMap
        fun name => paths t (start ++ name ++ ['/']) parts
    else paths t (start ++ Letter.text part ++ ['/']) parts

/-- The paths that a field stands for in order; one that matches nothing stands for itself. -/
def all (t : Files.Tree) (field : List Letter) : List Text :=
  if Wildcard.isActive field then
    match paths t [] (components field) with
    | [] => [Letter.text field]
    | found => Text.sort found
  else [Letter.text field]

end ApiFlow.Shell.Names

/-! ## Fields -/

namespace ApiFlow.Shell

/-- The fields that words are cut into: those that are finished, and the one that is not. -/
structure Fields where
  finished : List (List Letter) := []
  open? : Option (List Letter) := none
  deriving DecidableEq, Repr

inductive Separated where
  | no
  | byBlank
  | bySign
  deriving DecidableEq, Repr

def usualSeparators : Text := [' ', '\t', '\n']

def isBlank (c : Char) : Bool := usualSeparators.contains c

namespace Fields

def add (f : Fields) (letters : List Letter) : Fields := { f with open? := some (f.open?.getD [] ++ letters) }

def finish (f : Fields) : Fields := { finished := f.finished ++ f.open?.toList }

/-- Finishes the last field, which is empty if there is none. -/
def close (f : Fields) : Fields := { finished := f.finished ++ [f.open?.getD []] }

def cut (separators : Text) : Separated → Fields → List Letter → Fields
  | _, f, [] => f
  | state, f, l :: letters =>
    if l.quoted || !separators.contains l.char then cut separators .no (f.add [l]) letters
    else if isBlank l.char then
      if f.open?.isSome then cut separators .byBlank f.close letters else cut separators state f letters
    else
      match state with
      | .byBlank => cut separators .bySign f letters
      | _ => cut separators .bySign f.close letters

def all (f : Fields) : List (List Letter) := f.finish.finished

end Fields

/-! ## Lines -/

def dropBlanksBehind (separators : Text) (letters : List Letter) : List Letter :=
  (letters.reverse.dropWhile fun l => !l.quoted && separators.contains l.char && isBlank l.char).reverse

/-- Letters without separators in front of them that are blanks. -/
def dropBlanks (separators : Text) (letters : List Letter) : List Letter :=
  letters.dropWhile fun l => !l.quoted && separators.contains l.char && isBlank l.char

/-- What stands behind the separator at the start of letters: blanks, with one other sign among them at most. -/
def behindSeparator (separators : Text) (letters : List Letter) : List Letter :=
  match dropBlanks separators letters with
  | l :: rest =>
    if !l.quoted && separators.contains l.char then dropBlanks separators rest else l :: rest
  | [] => []

/-- A line cut into so many fields; the last one is what is left, without a separator behind it if it holds no other. -/
def fieldsOfLine (separators : Text) : (count : Nat) → List Letter → List Text
  | 0, _ => []
  | count + 1, letters =>
    let isSeparator (l : Letter) : Bool := !l.quoted && separators.contains l.char
    let letters := dropBlanks separators letters
    let first := letters.takeWhile fun l => !isSeparator l
    let rest := behindSeparator separators (letters.drop first.length)
    match count with
    | 0 => [Letter.text (if rest.isEmpty then first else dropBlanksBehind separators letters)]
    | _ => if letters.isEmpty then [] else Letter.text first :: fieldsOfLine separators count rest

end ApiFlow.Shell

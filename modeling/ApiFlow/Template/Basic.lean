import ApiFlow.Template.Builtin
import ApiFlow.Text.Class

/-!
# Templates

A template is text with references `{{name}}` or `{{name | default: "text"}}`.  The name holds no bar and no brace, and
the default no closing brace; what does not have this form is plain text.  Each reference stands for the value of a
built-in, else of a variable, else for its default, and else for itself.

* `pieces` splits a template into characters and references.
* `fill` puts the values in, from left to right, and names the references that have none.
* `fillStrict` fails if there are any such, each named once in order of appearance.
* `names` and `requiredNames` are the names that a template mentions, and those that only a variable can give.
-/

set_option autoImplicit false

namespace ApiFlow.Template

/-- A reference: how it is written, the name, and the default as it is written between its quotes. -/
structure Reference where
  source : Text
  name : Text
  fallback : Option Text
  deriving DecidableEq, Repr

inductive Piece where
  | char (c : Char)
  | reference (r : Reference)
  deriving DecidableEq, Repr

/-- A character that a name may hold. -/
def isNameChar (c : Char) : Bool := c != '|' && c != '{' && c != '}'

/-- What stands between the quotes of a default, given the text up to the closing braces. -/
def quotedPart? (inside : Text) : Option Text := do
  let body ← Text.stripEnd? ['"'] (Text.trimRight inside)
  some ((Text.stripEnd? ['\\'] body).getD body)

/-- A default behind the bar of a reference, and what follows the reference. -/
def fallbackTail? (s : Text) : Option (Text × Text) :=
  let mark : Text := "default:"
  let s := Text.trimLeft s
  if !mark.isPrefixOf s then none
  else
    match Text.dropStart ['\\'] (Text.trimLeft (s.drop mark.length)) with
    | '"' :: s =>
      match s.dropWhile (· != '}') with
      | '}' :: '}' :: rest => (quotedPart? (s.takeWhile (· != '}'))).map fun q => (q, rest)
      | _ => none
    | _ => none

def reference? (s : Text) : Option Reference :=
  match s with
  | '{' :: '{' :: body =>
    let name := body.takeWhile isNameChar
    if name.isEmpty then none
    else match body.dropWhile isNameChar with
      | '}' :: '}' :: rest => some ⟨s.take (s.length - rest.length), Text.trim name, none⟩
      | '|' :: tail =>
        (fallbackTail? tail).map fun r => ⟨s.take (s.length - r.2.length), Text.trim name, some r.1⟩
      | _ => none
  | _ => none

/-- The pieces of a template behind its next `skip` characters. -/
def piecesFrom : (skip : Nat) → Text → List Piece
  | _, [] => []
  | skip + 1, _ :: s => piecesFrom skip s
  | 0, c :: s =>
    match reference? (c :: s) with
    | some r => .reference r :: piecesFrom (r.source.length - 1) s
    | none => .char c :: piecesFrom 0 s

def pieces (template : Text) : List Piece := piecesFrom 0 template

def unescape (written : Text) : Text := Text.replaceAll "\\\\" ['\\'] (Text.replaceAll "\\\"" ['"'] written)

/-- A filled template and the names of the references left in it, one for each occurrence. -/
structure Filled where
  text : Text := []
  unresolved : List Text := []
  deriving DecidableEq, Repr

/-- Text in front of a filled template. -/
def Filled.after (front : Text) (f : Filled) : Filled := { f with text := front ++ f.text }

/-- The value that a reference stands for, and the draws behind it; nothing where it stands for itself. -/
def Reference.value (r : Reference) (builtins : Builtins) (vars : Table Text) (d : Draws) : Option Text × Draws :=
  if builtins.has r.name then
    let (value, d) := builtins.resolve r.name d
    (some value, d)
  else match vars.get? r.name with
    | some value => (some value, d)
    | none => (r.fallback.map unescape, d)

/-- Fills pieces from left to right. -/
def fillPieces (builtins : Builtins) (vars : Table Text) : List Piece → Draws → Filled × Draws
  | [], d => ({}, d)
  | .char c :: pieces, d =>
    let (f, d) := fillPieces builtins vars pieces d
    (f.after [c], d)
  | .reference r :: pieces, d =>
    if r.name.isEmpty then
      let (f, d) := fillPieces builtins vars pieces d
      (f.after r.source, d)
    else
      let (value, d) := r.value builtins vars d
      let (f, d) := fillPieces builtins vars pieces d
      match value with
      | some v => (f.after v, d)
      | none => ({ f.after r.source with unresolved := r.name :: f.unresolved }, d)

/-- Fills a template; references without a value stay as they are written. -/
def fill (builtins : Builtins) (vars : Table Text) (template : Text) (d : Draws) : Filled × Draws :=
  fillPieces builtins vars (pieces template) d

/-- Fills a template, or names the references without a value. -/
def fillStrict (builtins : Builtins) (vars : Table Text) (template : Text) (d : Draws) :
    Except (List Text) Text × Draws :=
  let (f, d) := fill builtins vars template d
  if f.unresolved.isEmpty then (.ok f.text, d) else (.error (Text.unique f.unresolved), d)

def references (template : Text) : List Reference :=
  (pieces template).filterMap fun p => match p with
    | .char _ => none
    | .reference r => if r.name.isEmpty then none else some r

def names (template : Text) : List Text := Text.unique ((references template).map (·.name))

/-- The names that only a variable can give, each once. -/
def requiredNames (builtins : Builtins) (template : Text) : List Text :=
  Text.unique (((references template).filter fun r => r.fallback.isNone && !builtins.has r.name).map (·.name))

end ApiFlow.Template

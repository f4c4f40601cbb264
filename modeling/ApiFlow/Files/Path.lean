import ApiFlow.Text.Basic

/-!
# File paths

A path is relative, or absolute below an anchor: the empty anchor is the usual root.  Parts that are empty or a single
dot are dropped when a path is read; two dots are kept, because only a look at the directories can tell what they mean.

* `Path.ofText` reads a path and `Path.text` writes it.
* `Path.flat` removes two dots together with the part before them.
-/

set_option autoImplicit false

namespace ApiFlow

/-- A file path; `anchor` is what stands before the first slash of an absolute one. -/
structure Path where
  anchor : Option Text := none
  parts : List Text := []
  deriving DecidableEq, Repr

namespace Path

/-- Whether a part says something. -/
def isProper (part : Text) : Bool := !part.isEmpty && part != ['.']

/-- The proper parts of a text between slashes. -/
def partsOf (text : Text) : List Text := (Text.splitAt '/' text).filter isProper

/-- Reads a path; exactly two slashes in front are a root of their own. -/
def ofText (text : Text) : Path :=
  match text with
  | '/' :: '/' :: '/' :: _ => ⟨some [], partsOf text⟩
  | '/' :: '/' :: _ => ⟨some ['/'], partsOf text⟩
  | '/' :: _ => ⟨some [], partsOf text⟩
  | _ => ⟨none, partsOf text⟩

/-- An anchor that cannot be seen without the slash behind it. -/
def needsSlash (anchor : Text) : Bool := anchor.isEmpty || anchor = ['/']

/-- Writes a path; the empty relative path is a dot. -/
def text (p : Path) : Text :=
  match p.anchor with
  | some anchor =>
    if p.parts.isEmpty && !needsSlash anchor then anchor else anchor ++ '/' :: Text.join ['/'] p.parts
  | none => if p.parts.isEmpty then ['.'] else Text.join ['/'] p.parts

/-- The last part. -/
def name (p : Path) : Text := p.parts.getLast?.getD []

/-- The path without its last part. -/
def parent (p : Path) : Path := { p with parts := p.parts.dropLast }

def child (p : Path) (part : Text) : Path := { p with parts := p.parts ++ [part] }

/-- The end of the name from its last dot on; a dot at either end of the name starts no ending. -/
def ending (p : Path) : Text :=
  let tail := p.name.reverse.takeWhile (· != '.')
  if tail.isEmpty || p.name.length ≤ tail.length + 1 then [] else '.' :: tail.reverse

def within (directory p : Path) : Path :=
  match p.anchor with
  | some _ => p
  | none => { directory with parts := directory.parts ++ p.parts }

/-- Appends a part, where two dots remove the last one. -/
def flatStep (done : List Text) (part : Text) : List Text :=
  if part = "..".toList then done.dropLast else done ++ [part]

/-- An absolute path without two dots. -/
def flat (p : Path) : Path := { p with parts := p.parts.foldl flatStep [] }

/-- The path itself and the directories around it, innermost first. -/
def ancestors (p : Path) : List Path :=
  (List.range (p.parts.length + 1)).map fun n => { p with parts := p.parts.take (p.parts.length - n) }

end Path

end ApiFlow

import ApiFlow.Files.Path
import ApiFlow.Text.Quoted
import ApiFlow.Text.Utf8

/-!
# A tree of files

Files and directories at their places below one root.  The directories on the way to an entry are there without being
listed.  Looking up a path walks through its parts, so every directory on the way must exist.

* `Tree.pathOf` gives the path that a text spells, and `Tree.placed` where it leads to.
* `Tree.find` gives what a path leads to or the error that stops the walk.
* `Tree.read` gives the bytes of a file.
* `Tree.makeDirectory` checks whether a directory is there or can be made.
* `Tree.put` and `Tree.remove` change what is at a place.
-/

set_option autoImplicit false

namespace ApiFlow.Files

/-- What is at a place. -/
inductive Entry where
  | file (bytes : List UInt8)
  | directory
  deriving DecidableEq, Repr

/-- Why the system refuses a path. -/
inductive Refusal where
  | missing
  | exists
  | notDirectory
  | isDirectory
  | nameTooLong
  deriving DecidableEq, Repr

/-- The number and the wording of a refusal. -/
def Refusal.wording : Refusal → Nat × Text
  | missing => (2, "No such file or directory")
  | .exists => (17, "File exists")
  | notDirectory => (20, "Not a directory")
  | isDirectory => (21, "Is a directory")
  | nameTooLong => (36, "File name too long")

/-- Why a path gives nothing: it cannot be a path at all, or the system refuses it. -/
inductive Error where
  | nullCharacter
  | refused (r : Refusal) (path : Path)
  deriving DecidableEq, Repr

/-- The wording of a file error. -/
def Error.message : Error → Text
  | nullCharacter => "embedded null byte"
  | refused r path =>
    "[Errno " ++ Text.ofNat r.wording.1 ++ "] " ++ r.wording.2 ++ ": " ++ Text.quoted path.text

/-- Files and directories, the directory that relative paths start from, and the home directory. -/
structure Tree where
  entries : List (List Text × Entry) := []
  work : Path := { anchor := some [] }
  home : Path := { anchor := some [] }
  deriving Repr

namespace Tree

/-- What is at a place given by its parts; a listed entry wins over a directory that is only on the way to others. -/
def entry? (t : Tree) (place : List Text) : Option Entry :=
  match t.entries.find? fun e => e.1 = place with
  | some e => some e.2
  | none =>
    if place.isPrefixOf t.work.parts || place.isPrefixOf t.home.parts
        || t.entries.any fun e => place.isPrefixOf e.1
    then some .directory else none

/-- The path that a text spells.  The directory that relative paths start from may lie below a named anchor; a text may
start with that name as well. -/
def pathOf (t : Tree) (text : Text) : Path :=
  let anchor := t.work.anchor.getD []
  let rest := text.drop anchor.length
  if !anchor.isEmpty && anchor.isPrefixOf text && (rest.isEmpty || rest.head? = some '/') then
    { anchor := some anchor, parts := Path.partsOf rest }
  else Path.ofText text

/-- The full path that a text leads to. -/
def placed (t : Tree) (text : Text) : Path := (t.work.within (t.pathOf text)).flat

def longestPart : Nat := 255

/-- Walks from a place through further parts. -/
def walk (t : Tree) : (place : List Text) → Entry → List Text → Except Refusal Entry
  | _, entry, [] => .ok entry
  | _, .file _, _ :: _ => .error .notDirectory
  | place, .directory, part :: parts =>
    if part = "..".toList then walk t place.dropLast .directory parts
    else if longestPart < (Utf8.encode part).length then .error .nameTooLong
    else match t.entry? (place ++ [part]) with
      | none => .error .missing
      | some entry => walk t (place ++ [part]) entry parts

def find (t : Tree) (p : Path) : Except Error Entry :=
  if p.text.any (·.toNat = 0) then .error .nullCharacter
  else
    match t.walk [] .directory (t.work.within p).parts with
    | .ok entry => .ok entry
    | .error r => .error (.refused r p)

/-- Whether a path leads to a file; only a refusal for other reasons than absence is an error. -/
def isFile (t : Tree) (p : Path) : Except Error Bool :=
  match t.find p with
  | .ok (.file _) => .ok true
  | .ok .directory => .ok false
  | .error (.refused .nameTooLong q) => .error (.refused .nameTooLong q)
  | .error _ => .ok false

def isDirectory (t : Tree) (p : Path) : Bool :=
  match t.find p with
  | .ok .directory => true
  | _ => false

def read (t : Tree) (p : Path) : Except Error (List UInt8) :=
  match t.find p with
  | .ok (.file bytes) => .ok bytes
  | .ok .directory => .error (.refused .isDirectory p)
  | .error e => .error e

/-- Tells whether a directory is there or can be made, with the directories around it. -/
def makeDirectory (t : Tree) (p : Path) : Except Error Unit :=
  match t.find p with
  | .ok .directory => .ok ()
  | .ok (.file _) => .error (.refused .exists p)
  | .error (.refused .missing _) => .ok ()
  | .error e => .error e

/-! ## Changes -/

/-- A tree with something at a place. -/
def put (t : Tree) (place : List Text) (entry : Entry) : Tree :=
  { t with entries := (place, entry) :: t.entries.filter fun e => e.1 != place }

/-- A tree without what is at a place and below it; the directory around it stays. -/
def remove (t : Tree) (place : List Text) : Tree :=
  let kept := { t with entries := t.entries.filter fun e => !place.isPrefixOf e.1 }
  if place.dropLast.isEmpty then kept else kept.put place.dropLast .directory

/-- The names in a directory in order. -/
def namesIn (t : Tree) (place : List Text) : List Text :=
  let places := t.work.parts :: t.home.parts :: t.entries.map Prod.fst
  Text.sort (Text.unique (places.filterMap fun e =>
    if place.isPrefixOf e then (e.drop place.length).head? else none))

end Tree

/-- A carriage return, alone or before a line feed, as a line feed. -/
def plainLineEnds : Text → Text
  | [] => []
  | '\r' :: '\n' :: s => '\n' :: plainLineEnds s
  | c :: s => (if c = '\r' then '\n' else c) :: plainLineEnds s

end ApiFlow.Files

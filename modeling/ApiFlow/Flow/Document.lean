import ApiFlow.Flow.Basic
import ApiFlow.Flow.Directive
import ApiFlow.Flow.Fence
import ApiFlow.Flow.Step

/-!
# Reading documents

The kind of a block says what it is: metadata, a step, an edge, or a plain request; blocks of other kinds are prose.
A `flow` block holds metadata if every line that is neither blank nor a comment is a directive; the last directive of a
key counts, and headers add up.  One that holds more is a plain request.  Steps without an id are numbered by their place.

* `Meta.ofBlock` reads metadata.
* `Reading.ofText` reads a document with its plain requests and the notes for the log.
-/

set_option autoImplicit false

namespace ApiFlow.Flow

/-! ## Metadata -/

/-- Whether a block holds nothing but directives, comments and blank lines. -/
def isMetaBlock (raw : Text) : Bool :=
  (Text.splitAt '\n' raw).all fun line =>
    let trimmed := Text.trim line
    trimmed.isEmpty || isComment trimmed || isDirective trimmed

def directives (raw : Text) : List (Text × Text) :=
  (((Text.splitAt '\n' raw).map Text.trim).filter isDirective).map directive

def Meta.apply (m : Meta) : Text × Text → Meta
  | (key, value) =>
    if key = "flow".toList then
      let id := inlineValue value "id"
      { m with id := if id.isEmpty then value else id }
    else if key = "name".toList then { m with name := value }
    else if key = "version".toList then { m with version := value }
    else if key = "env".toList then { m with env := value }
    else if key = "tags".toList then { m with tags := Text.sort (Text.unique (commaFields value)) }
    else if key = "header".toList then
      match Text.cutAt? ':' value with
      | some (name, content) =>
        let name := Text.trim name
        if name.isEmpty then m else { m with headers := Table.set m.headers name (Text.trim content) }
      | none => m
    else m

def Meta.ofBlock (raw : Text) : Meta := (directives raw).foldl Meta.apply {}

/-! ## Documents -/

/-- A document with the plain requests beside it and the notes taken while reading. -/
structure Reading where
  document : Document := {}
  plain : List PlainRequest := []
  notes : List Note := []
  deriving DecidableEq, Repr

/-- Why a document cannot be read, with the notes taken before. -/
structure ReadingStopped where
  error : Integer.ReadError
  notes : List Note
  deriving DecidableEq, Repr

/-- A warning for the log. -/
def warningNote (message : Text) : Note := ⟨.warning, .documents, message⟩

def isPlainKind (kind : Text) : Bool :=
  kind = "kest".toList || kind = "http".toList || kind = "json".toList

def Reading.addPlain (r : Reading) (b : Block) : Reading := { r with plain := r.plain ++ [⟨b.line, b.raw, true⟩] }

/-- A reading with one more edge, if it has both ends. -/
def Reading.addEdge (r : Reading) (e : Edge) : Reading :=
  if e.source.isEmpty || e.target.isEmpty then
    { r with notes := r.notes ++
        [⟨.debug, .documents, "Dropping incomplete edge at line " ++ Text.ofNat e.line⟩] }
  else { r with document := { r.document with edges := r.document.edges ++ [e] } }

def Reading.addStep (r : Reading) (s : Step) (warnings : List Text) : Reading :=
  { r with
    document := { r.document with
      steps := r.document.steps ++ [s]
      warnings := r.document.warnings ++ warnings }
    notes := r.notes ++ warnings.map warningNote }

def Reading.block (r : Reading) (b : Block) : Except ReadingStopped Reading :=
  if b.kind = "flow".toList then
    if isMetaBlock b.raw then
      .ok { r with document := { r.document with info := r.document.info.merge (Meta.ofBlock b.raw) } }
    else .ok (r.addPlain b)
  else if b.kind = "step".toList then
    match Step.ofBlock b.raw b.line with
    | .ok (s, warnings) => .ok (r.addStep s warnings)
    | .error e => .error ⟨e.error, r.notes ++ e.warnings.map warningNote⟩
  else if b.kind = "edge".toList then .ok (r.addEdge (Edge.ofBlock b.raw b.line))
  else if isPlainKind b.kind then .ok (r.addPlain b)
  else .ok r

/-- A step with an id: its own, or `step-` and its place. -/
def Step.numbered (s : Step) (place : Nat) : Step :=
  if s.id.isEmpty then { s with id := "step-" ++ Text.ofNat place } else s

def numberSteps (steps : List Step) : List Step :=
  (steps.zipIdx 1).map fun p => p.1.numbered p.2

def Reading.ofText (content : Text) : Except ReadingStopped Reading :=
  ((blocks content).foldlM Reading.block { notes := fenceNotes content }).map fun r =>
    { r with document := { r.document with steps := numberSteps r.document.steps } }

end ApiFlow.Flow

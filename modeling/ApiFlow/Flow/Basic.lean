import ApiFlow.Table

/-!
# Flow documents

A flow is a list of steps with metadata and edges.  A step sends a request or runs a command; an edge says that one
step comes before another.  A document may also hold plain requests, which belong to no flow.
-/

set_option autoImplicit false

namespace ApiFlow.Flow

/-- A fenced block of a document: the first word behind the fence in lower case, the rest of that line, the number of
that line, and the lines up to the closing fence. -/
structure Block where
  kind : Text
  info : Text
  line : Nat
  raw : Text
  deriving DecidableEq, Repr

/-- A request outside a flow: a block of a document, or one line of a scenario. -/
structure PlainRequest where
  line : Nat
  raw : Text
  isBlock : Bool := true
  deriving DecidableEq, Repr

def PlainRequest.name (r : PlainRequest) : Text :=
  (if r.isBlock then "Block at line ".toList else "Line ".toList) ++ Text.ofNat r.line

/-- What a flow says about itself; the tags are sorted, each once. -/
structure Meta where
  id : Text := []
  name : Text := []
  version : Text := []
  env : Text := []
  tags : List Text := []
  headers : Table Text := []
  deriving DecidableEq, Repr

/-- The second text unless it is empty. -/
def orElse (earlier later : Text) : Text := if later.isEmpty then earlier else later

/-- Metadata with every non-empty field of later metadata in place of the earlier one; headers are joined. -/
def Meta.merge (earlier later : Meta) : Meta where
  id := orElse earlier.id later.id
  name := orElse earlier.name later.name
  version := orElse earlier.version later.version
  env := orElse earlier.env later.env
  tags := if later.tags.isEmpty then earlier.tags else later.tags
  headers := Table.setAll earlier.headers later.headers

/-- A request as written: its texts still hold references to variables. -/
structure RequestTemplate where
  method : Text := []
  url : Text := []
  headers : List Text := []
  queries : List Text := []
  body : Text := []
  captures : List Text := []
  asserts : List Text := []
  deriving DecidableEq, Repr

/-- A request needs a method and an address. -/
def RequestTemplate.isComplete (r : RequestTemplate) : Bool := !r.method.isEmpty && !r.url.isEmpty

structure CommandTemplate where
  command : Text := []
  captures : List Text := []
  asserts : List Text := []
  deriving DecidableEq, Repr

/-- What a step does. -/
inductive Action where
  | send (request : RequestTemplate)
  | run (command : CommandTemplate)
  deriving DecidableEq, Repr

/-- What the directives of a step set. -/
structure StepHeader where
  id : Text := []
  name : Text := []
  retry : Int := 0
  retryWaitMs : Int := 0
  maxDurationMs : Int := 0
  waitMs : Nat := 0
  pollTimeoutMs : Nat := 0
  pollIntervalMs : Nat := 0
  timeoutMs : Nat := 0
  onFail : Text := []
  deriving DecidableEq, Repr

/-- A step of a flow. -/
structure Step extends StepHeader where
  line : Nat := 0
  raw : Text := []
  action : Action := .send {}
  deriving DecidableEq, Repr

namespace Step

/-- The name under which a step is reported: its own, else its id. -/
def displayName (s : Step) : Text :=
  if !s.name.isEmpty then s.name else if !s.id.isEmpty then s.id else "step"

def isCommand (s : Step) : Bool :=
  match s.action with
  | .send _ => false
  | .run _ => true

/-- The request of a step; a command step has an empty one. -/
def request (s : Step) : RequestTemplate :=
  match s.action with
  | .send r => r
  | .run _ => {}

/-- The command of a step; a request step has an empty one. -/
def command (s : Step) : CommandTemplate :=
  match s.action with
  | .send _ => {}
  | .run c => c

def captures (s : Step) : List Text :=
  match s.action with
  | .send r => r.captures
  | .run c => c.captures

def asserts (s : Step) : List Text :=
  match s.action with
  | .send r => r.asserts
  | .run c => c.asserts

end Step

/-- One step comes before another; the condition is shown in diagrams only. -/
structure Edge where
  source : Text
  target : Text
  condition : Text := []
  line : Nat := 0
  deriving DecidableEq, Repr

/-- A flow with its steps and edges. -/
structure Document where
  info : Meta := {}
  steps : List Step := []
  edges : List Edge := []
  warnings : List Text := []
  deriving DecidableEq, Repr

namespace Document

/-- Whether the document says anything about a flow. -/
def isFlow (d : Document) : Bool := !d.steps.isEmpty || !d.edges.isEmpty || !d.info.id.isEmpty

/-- The first step with an id. -/
def step? (d : Document) (id : Text) : Option Step := d.steps.find? fun s => s.id = id

end Document

end ApiFlow.Flow

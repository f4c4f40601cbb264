import ApiFlow.Table

/-!
# Variables of a run

A run keeps the value of each variable together with where it came from: who wrote it last, in which step, and whether
that step has failed since.  Value and source are one entry, so they cannot disagree.

A store keeps variables for each project and environment from run to run, and the history of requests.

* `Context.write` makes an entry.
* `Context.markFailed` flags what a step wrote and changes nothing else.
* `Context.values` are the variables without their sources.
* `Store.save` writes one variable and leaves those of other projects and environments alone.
* `Store.append` adds a record to the history; the records are numbered from one.
-/

set_option autoImplicit false

namespace ApiFlow

/-- Who wrote a variable. -/
inductive Origin where
  | commandLine
  | capture
  | config
  | builtin
  deriving DecidableEq, Repr

/-- What became of the step that wrote a variable. -/
inductive Standing where
  | good
  | failed
  deriving DecidableEq, Repr

/-- A value and where it came from; the step is empty if no step wrote it. -/
structure Source where
  value : Text
  step : Text := []
  standing : Standing := .good
  origin : Origin := .capture
  deriving DecidableEq, Repr

abbrev Context := Table Source

namespace Context

/-- The variables that the command line gives. -/
def ofCommandLine (vars : Table Text) : Context :=
  vars.map fun v => (v.1, { value := v.2, origin := .commandLine })

def write (c : Context) (name : Text) (source : Source) : Context := Table.set c name source

/-- Writes a variable without naming a step. -/
def assign (c : Context) (name value : Text) : Context := c.write name { value }

def value? (c : Context) (name : Text) : Option Text := (Table.get? c name).map (·.value)

/-- A source, flagged if the step wrote it. -/
def flag (step : Text) (s : Source) : Source := if s.step = step then { s with standing := .failed } else s

/-- Flags every variable that a step wrote. -/
def markFailed (c : Context) (step : Text) : Context := c.map fun entry => (entry.1, flag step entry.2)

def values (c : Context) : Table Text := c.map fun entry => (entry.1, entry.2.value)

end Context

/-! ## What outlives a run -/

/-- A request of the past with its response. -/
structure Record where
  method : Text
  url : Text
  requestHeaders : Table Text := []
  requestBody : Text := []
  status : Int
  responseHeaders : Table Text := []
  responseBody : Text := []
  durationMs : Int := 0
  environment : Text := []
  project : Text := []
  deriving DecidableEq, Repr

/-- Variables by project and environment, and the history. -/
structure Store where
  tables : List ((Text × Text) × Table Text) := []
  records : List Record := []
  deriving DecidableEq, Repr

namespace Store

/-- Changes the table of a place, an empty one if there is none yet. -/
def update (place : Text × Text) (change : Table Text → Table Text) :
    List ((Text × Text) × Table Text) → List ((Text × Text) × Table Text)
  | [] => [(place, change [])]
  | (p, table) :: tables =>
    if p = place then (p, change table) :: tables else (p, table) :: update place change tables

/-- The variables of a project and environment. -/
def values (s : Store) (project env : Text) : Table Text :=
  ((s.tables.find? fun t => t.1 = (project, env)).map Prod.snd).getD []

/-- Writes a variable of a project and environment. -/
def save (s : Store) (project env name value : Text) : Store :=
  { s with tables := update (project, env) (fun table => table.set name value) s.tables }

/-- Adds a record to the history, and gives its number. -/
def append (s : Store) (r : Record) : Nat × Store := (s.records.length + 1, { s with records := s.records ++ [r] })

end Store

end ApiFlow

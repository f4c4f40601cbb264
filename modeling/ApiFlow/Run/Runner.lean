import ApiFlow.Flow.Diagram
import ApiFlow.Flow.Document
import ApiFlow.Flow.Order
import ApiFlow.Run.Check
import ApiFlow.Run.Step

/-!
# Whole runs

A flow runs its steps in their order, one after the other; plain requests run in the order of the document, or all at
once.  A failed step does not end a run, unless the run is to stop at the first failure: then the rest is skipped and
named in the summary.  A file whose name ends in `.md` is a document; every other file is a scenario.

* `runDocument` runs a flow.
* `runPlainRequests` runs plain requests.
* `runFile` runs a file.
-/

set_option autoImplicit false

namespace ApiFlow

structure RunOptions where
  parallel : Bool := false
  jobs : Int := 4
  failFast : Bool := false
  strict : Bool := false
  deriving DecidableEq, Repr

namespace Running

open ApiFlow.Flow

/-- Writes where a step is in its life. -/
def markStep (id : Text) (state : StepState) : Running Unit :=
  modify fun s => { s with stepStates := s.stepStates.set id state }

/-- The state of a step that has a result. -/
def stateOf (r : StepResult) : StepState := if r.success then .succeeded else .failed

/-- Begins a run of the named steps. -/
def begin (names : List Text) : Running Unit :=
  modify fun s =>
    { s with phase := .running, stepStates := Table.ofWrites (names.map fun n => (n, StepState.pending)) }

def finishedNote (s : Summary) : Note :=
  ⟨.info, .runs, "Run finished: " ++ Text.ofNat s.passed ++ " passed, " ++ Text.ofNat s.failed ++ " failed, "
    ++ Text.ofNat s.skipped.length ++ " skipped"⟩

def finish (setup : Setup) (summary : Summary) : Running Summary := do
  let summary ← guard (summary.close (← now))
  modify fun s => { s with phase := if summary.allPassed then .allPassed else .someFailed }
  noteAll [finishedNote summary]
  say setup (Report.summary summary)
  return summary

/-- What is known while a flow runs: the summary so far and the names of the failed steps. -/
structure Course where
  summary : Summary
  failed : List Text := []

/-- The line behind the name of a step. -/
def detail (s : Step) : Text :=
  match s.action with
  | .send t => t.method ++ ' ' :: t.url
  | .run _ => "(exec)"

def rejected (setup : Setup) (s : Step) (problem : Text) : StepResult where
  name := s.displayName
  method := if s.isCommand then "EXEC" else Text.upper s.request.method
  url := s.request.url
  error := problem
  start := setup.startTime

/-- Runs a step of a flow: its wait, the check of its variables, and the step itself. -/
def flowStep (setup : Setup) (headers origins : Table Text) (failed : List Text) (s : Step) : Running StepResult := do
  say setup (Report.stepStarted s.displayName (detail s) s.line)
  waitBefore setup s
  let vars := (← get).chain setup.settings
  match preflight? setup.builtins vars s origins failed with
  | some problem => return rejected setup s problem
  | none => runStep setup s true headers

def takeStep (setup : Setup) (headers origins : Table Text) (course : Course) (s : Step) :
    Running (StepResult × Course) := do
  markStep s.id .running
  let r ← flowStep setup headers origins course.failed s
  say setup (Report.stepFinished r)
  markStep s.id (stateOf r)
  return (r, { summary := course.summary.add r, failed := if r.success then course.failed else course.failed ++ [s.displayName] })

/-- Runs the steps of a flow in order. -/
def takeSteps (setup : Setup) (options : RunOptions) (headers origins : Table Text) :
    List Step → Course → Running Summary
  | [], course => return course.summary
  | s :: rest, course => do
    let (r, course) ← takeStep setup headers origins course s
    if !r.success && options.failFast then
      say setup (Report.stopped s.displayName r.error rest.length)
      return course.summary.skip (rest.map (·.displayName))
    else takeSteps setup options headers origins rest course

/-- What a flow says when it is to run in parallel. -/
def sequentialNotice : Text := "Parallel mode is ignored for flow steps; running sequentially"

/-- Prints what comes before the steps of a flow. -/
def announce (setup : Setup) (options : RunOptions) (d : Document) (count : Nat) (source : Text) : Running Unit := do
  d.warnings.forM fun w => say setup (Report.notice w)
  say setup (Report.runStarted count source "sequential")
  if options.parallel then
    noteAll [⟨.warning, .runs, sequentialNotice⟩]
    say setup (Report.notice (sequentialNotice ++ "."))
  if !d.edges.isEmpty && setup.verbose then say setup (Report.flowchart (diagram d))

def runDocument (setup : Setup) (options : RunOptions) (d : Document) (source : Text) : Running Summary := do
  let (steps, notes) := order d
  noteAll notes
  let started ← now
  begin (steps.map (·.id))
  announce setup options d steps.length source
  finish setup (← takeSteps setup options d.info.headers (captureOrigins steps) steps { summary := { started } })

/-- Takes a plain request into the summary. -/
def takePlain (setup : Setup) (options : RunOptions) (summary : Summary) (p : PlainRequest) :
    Running (StepResult × Summary) := do
  markStep p.name .running
  let r ← runPlain setup p options.strict
  markStep r.name (stateOf r)
  say setup (Report.stepFinished r)
  return (r, summary.add r)

def takePlains (setup : Setup) (options : RunOptions) : List PlainRequest → Summary → Running Summary
  | [], summary => return summary
  | p :: rest, summary => do
    let (r, summary) ← takePlain setup options summary p
    if !r.success && options.failFast then
      say setup (Report.stopped r.name r.error rest.length)
      return summary.skip (rest.map (·.name))
    else takePlains setup options rest summary

/-- Runs a plain request without printing; a fault is an outcome here. -/
def plainAside (setup : Setup) (options : RunOptions) (p : PlainRequest) : Running (Except Fault StepResult) :=
  tryCatch (do return .ok (← runPlain { setup with quiet := true } p options.strict)) fun f => return .error f

/-- Runs plain requests all at once: none waits for the outcome of another, and a fault of one comes up when all are
done. -/
def plainsAtOnce (setup : Setup) (options : RunOptions) (plains : List PlainRequest) : Running (List StepResult) := do
  let outcomes ← plains.mapM (plainAside setup options)
  outcomes.mapM guard

/-- Takes a result into the summary. -/
def takeResult (summary : Summary) (r : StepResult) : Running Summary := do
  markStep r.name (stateOf r)
  return summary.add r

/-- How many requests may be under way at once. -/
def workers (options : RunOptions) : Int := max 1 options.jobs

def runPlainRequests (setup : Setup) (options : RunOptions) (plains : List PlainRequest) (source : Text) :
    Running Summary := do
  let started ← now
  begin (plains.map (·.name))
  if options.parallel then
    say setup (Report.runStarted plains.length source ("parallel (" ++ Text.ofInt (workers options) ++ " workers)"))
    let results ← plainsAtOnce setup options plains
    finish setup (← results.foldlM takeResult { started })
  else
    say setup (Report.runStarted plains.length source "sequential")
    finish setup (← takePlains setup options plains { started })

end Running

/-! ## Files -/

/-- The text of a file, with plain line ends. -/
def readText (files : Files.Tree) (path : Path) : Except Fault Text :=
  match files.read path with
  | .error e => .error (.file e)
  | .ok bytes =>
    match Utf8.decode bytes with
    | .error m => .error (.encoding m)
    | .ok text => .ok (Files.plainLineEnds text)

/-- Whether a path names a document. -/
def isDocument (path : Path) : Bool := Text.lower path.ending = ".md".toList

namespace Running

/-- Reads a document; the notes taken while reading stay if it cannot be read to its end. -/
def readDocument (content : Text) : Running Flow.Reading := do
  match Flow.Reading.ofText content with
  | .ok r => do
    noteAll r.notes
    return r
  | .error e => do
    noteAll e.notes
    throw (.integer e.error)

def runFile (setup : Setup) (options : RunOptions) (path : Path) : Running Summary := do
  let content ← guard (readText setup.files path)
  if isDocument path then
    let r ← readDocument content
    if r.document.isFlow then runDocument setup options r.document path.text
    else runPlainRequests setup options r.plain path.text
  else runPlainRequests setup options (Scenario.requests content) path.text

end Running

end ApiFlow

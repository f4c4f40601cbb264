import ApiFlow.Run.Check
import ApiFlow.Run.Retry

/-!
# Request steps

A request step prepares its request and sends it in rounds.  A round sends, with retries; on a response it captures and
decides the assertions.  Without polling there is one round.  With polling, rounds go on until one passes or the
deadline is reached, with a sleep between them.  The result has an error exactly when the last round has left one.

* `round` makes one round.
* `rounds` repeats it; each sleep moves the clock towards the deadline, so the doubles between the two bound the rounds,
  and the deadline counts as reached when there are no more of them.
* `requestStep` gives the result of a step.
-/

set_option autoImplicit false

namespace ApiFlow.Running

open ApiFlow.Flow

/-- What stays the same in all rounds of a step; no round may follow a closing one, whatever the clock says. -/
structure Plan where
  step : Step
  template : RequestTemplate
  request : Request
  record : Bool
  interval : Double
  deadline : Double
  closing : Bool := false

/-- Whether another round may follow before the deadline. -/
def Plan.polling (p : Plan) : Bool := !p.closing && decide (0 < p.step.pollTimeoutMs)

/-- The state of a step after a round: the result so far, the assertions of the round, and whether it was the last. -/
structure Round where
  result : StepResult
  checked : List (Text × Assertion.Verdict) := []
  settled : Bool := false

/-- The milliseconds between two rounds of a step that does not set them. -/
def defaultPollIntervalMs : Nat := 500

/-- The milliseconds between two rounds. -/
def pollIntervalMs (s : Step) : Nat := if s.pollIntervalMs = 0 then defaultPollIntervalMs else s.pollIntervalMs

/-- Whether no further round may follow. -/
def isOver (p : Plan) : Running Bool := return !p.polling || p.deadline.le (← now)

/-- The history record of a response. -/
def recordOf (settings : Settings) (request : Request) (r : Response) : Record where
  method := request.method
  url := request.url
  requestHeaders := request.headers
  requestBody := Utf8.decodeLossy request.body
  status := r.status
  responseHeaders := r.headers
  responseBody := r.body
  durationMs := r.durationMs
  environment := settings.activeEnv
  project := settings.projectId

/-- Adds a response to the history, if there is one to be kept. -/
def keep (setup : Setup) (p : Plan) (r : Response) : Running Unit :=
  if p.record && setup.keepHistory then inStore fun store => (store.append (recordOf setup.settings p.request r)).2
  else return

/-- Stores a captured value. -/
def store (setup : Setup) (o : Capture.Outcome) : Running Unit :=
  match o.value? with
  | none => return
  | some value => inStore fun s => s.save setup.settings.projectId setup.settings.activeEnv o.name value

/-- Prints captured values, and stores them if the step has passed. -/
def settleCaptures (setup : Setup) (passed : Bool) (outcomes : List Capture.Outcome) : Running Unit :=
  outcomes.forM fun o => do
    sayCaptured setup o
    if passed then store setup o

/-- The result with what a response says. -/
def withResponse (result : StepResult) (r : Response) (attempts : Nat) : StepResult :=
  { result with
    attempts := result.attempts + attempts
    status := r.status
    durationMs := r.durationMs
    body := r.body
    error := [] }

/-- The end of a round with a response: history, captures, assertions. -/
def answered (setup : Setup) (p : Plan) (result : StepResult) (r : Response) (attempts : Nat) : Running Round := do
  let result := withResponse result r attempts
  keep setup p r
  let outcomes ← capture (.body r.body) p.step.displayName p.template.captures
  let vars := (← get).chain setup.settings
  let checked ← checkAll setup ⟨r.status, r.body, r.durationMs⟩ vars p.template.asserts
  match firstFailure? checked with
  | none => do
    settleCaptures setup true outcomes
    return { result, checked, settled := true }
  | some failed => do
    let result := { result with error := assertionError failed }
    if ← isOver p then
      settleCaptures setup false outcomes
      markFailed p.step.displayName
      return { result, checked, settled := true }
    else return { result, checked }

/-- The end of a round without an acceptable response. -/
def unanswered (result : StepResult) (e : SendError) : StepResult :=
  match e with
  | .noResponse _ => { result with error := e.message }
  | .overBudget durationMs _ => { result with error := e.message, durationMs }

def faultNote (step : Text) (fault : Fault) : Note :=
  ⟨.error, .steps, "Step " ++ step ++ " failed unexpectedly: " ++ fault.message⟩

/-- The note before a further round. -/
def pollNote (step : Text) (intervalMs : Nat) : Note :=
  ⟨.debug, .steps, "Step " ++ step ++ " not ready, polling again in " ++ Duration.secondsText intervalMs ++ "s"⟩

/-- What a round's sends may come to. -/
inductive Sent where
  | answer (r : Response) (attempts : Nat)
  | failure (e : SendError)
  | fault (f : Fault)

/-- The sends of a round; a fault is an outcome here. -/
def sendRound (setup : Setup) (p : Plan) : Running Sent :=
  tryCatch
    (do
      match ← send setup p.request ⟨p.step.retry, p.step.retryWaitMs⟩ p.step.maxDurationMs with
      | (.ok r, attempts) => return .answer r attempts
      | (.error e, _) => return .failure e)
    fun f => return .fault f

/-- One round. -/
def round (setup : Setup) (p : Plan) (result : StepResult) : Running Round := do
  match ← sendRound setup p with
  | .answer r attempts => answered setup p result r attempts
  | .failure e => return { result := unanswered result e }
  | .fault f => do
    noteAll [faultNote p.step.displayName f]
    return { result := { result with error := "unexpected error: " ++ f.message } }

/-- Rounds until one settles the step or the deadline is reached; at most `left` more rounds follow the first, and the
last of these is a closing one. -/
def rounds (setup : Setup) (p : Plan) : (left : Nat) → StepResult → Running Round
  | 0, result => round setup { p with closing := true } result
  | left + 1, result => do
    let r ← round setup p result
    if r.settled then return r
    if ← isOver p then return r
    noteAll [pollNote p.step.displayName (pollIntervalMs p.step)]
    sleep p.interval
    rounds setup p left r.result

def incompleteError (line : Nat) : Text := "invalid step (missing METHOD/URL) at line " ++ Text.ofNat line

/-- Prepares a request with the variables of the run; a preparation error is an outcome here. -/
def prepare (setup : Setup) (t : RequestTemplate) (vars : Table Text) (strict : Bool) (flowHeaders : Table Text)
    (maxDurationMs : Int) : Running (Except PrepareError Request) := do
  let request := Preparing.request setup.settings setup.files ⟨setup.builtins, vars, strict⟩ flowHeaders maxDurationMs t
  match ← draw request.run.run with
  | .ok r => return .ok r
  | .error (.refused e) => return .error e
  | .error (.fault f) => throw f

/-- Sends a prepared request in rounds and reports the assertions of the last one. -/
def poll (setup : Setup) (step : Step) (t : RequestTemplate) (record : Bool) (request : Request)
    (result : StepResult) : Running StepResult := do
  let interval ← guard (Duration.seconds (pollIntervalMs step))
  let start ← now
  let deadline := start.add (← guard (Duration.seconds step.pollTimeoutMs))
  let p : Plan := { step, template := t, request, record, interval, deadline }
  let last ← rounds setup p (start.gap deadline + 1) result
  last.checked.forM (sayChecked setup)
  return last.result.judged

/-- Runs a request step; `record` tells whether its responses belong into the history. -/
def requestStep (setup : Setup) (step : Step) (t : RequestTemplate) (strict : Bool) (flowHeaders : Table Text)
    (record : Bool) : Running StepResult := do
  let result : StepResult :=
    { name := step.displayName, method := Text.upper t.method, url := t.url, start := setup.startTime }
  if !t.isComplete then return { result with error := incompleteError step.line }
  let s ← get
  let vars := s.chain setup.settings
  if setup.showVariables then say setup (Report.resolution vars s.context)
  match ← prepare setup t vars strict flowHeaders step.maxDurationMs with
  | .error e => return { result with error := e.message }
  | .ok request => poll setup step t record request { result with url := request.url }

end ApiFlow.Running

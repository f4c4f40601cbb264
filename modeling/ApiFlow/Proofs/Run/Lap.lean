import ApiFlow.Proofs.Run.Frame
import ApiFlow.Proofs.Run.Hazard

/-!
# One round of a step

A round makes one call that sends, with its retries.  A response that is accepted goes into the history, its values are
captured and every assertion is decided on it, in the order of the step; captures are reported in the round that ends
the step, and stored if it has passed.

* `Lap` : what a round comes to, with `Lap.passed`, `Lap.isEnd` and what it adds to the result, `Lap.onto`.
* `afterAnswer`, `afterFailure` : the state behind a round.
* `Lap.Leads` : a round from one state to another.
* `round_leads` : what one round returns.
-/

set_option autoImplicit false

namespace ApiFlow.Running

open ApiFlow.Flow

variable {setup : Setup} {p : Plan} {s t u : RunState} {result : StepResult}

/-! ## What a round comes to -/

/-- What one round of a step comes to. -/
structure Lap where
  /-- What the one call comes to that sends, with its retries. -/
  sends : Except Fault (Except SendError Response × Nat)
  /-- The state behind that call. -/
  sent : RunState
  /-- The assertions with their verdicts, if a response was accepted. -/
  checked : List (Text × Assertion.Verdict) := []

/-- The accepted response of a round, with the number of sends. -/
def Lap.accepted? (l : Lap) : Option (Response × Nat) :=
  match l.sends with
  | .ok (.ok r, attempts) => some (r, attempts)
  | _ => none

/-- The round has got an accepted response, and every assertion holds of it. -/
def Lap.passed (l : Lap) : Bool := l.accepted?.isSome && l.checked.all (·.2.passed)

/-- No round follows this one: there is no polling, the round has passed, or the deadline is reached. -/
def Lap.isEnd (p : Plan) (l : Lap) : Bool :=
  decide (p.step.pollTimeoutMs = 0) || l.passed || p.deadline.le l.sent.clock

/-- The result of a step with what one more round says. -/
def Lap.onto (result : StepResult) (l : Lap) : StepResult :=
  match l.sends with
  | .ok (.ok r, attempts) =>
    { withResponse result r attempts with error := ((firstFailure? l.checked).map assertionError).getD [] }
  | .ok (.error e, _) => unanswered result e
  | .error f => { result with error := "unexpected error: " ++ f.message }

/-! ## The state behind a round -/

/-- The state with a text printed, unless the run is quiet. -/
def afterSaying (setup : Setup) (text : Text) (s : RunState) : RunState :=
  { s with printed := if setup.quiet then s.printed else s.printed ++ text }

/-- The state with a response in the history, if it belongs there. -/
def afterKeeping (setup : Setup) (p : Plan) (r : Response) (s : RunState) : RunState :=
  { s with
    store? :=
      if p.record && setup.keepHistory then
        s.store?.map fun store => (store.append (recordOf setup.settings p.request r)).2
      else s.store? }

/-- The line about a capture. -/
def captureLine (o : Capture.Outcome) : Text :=
  match o.value? with
  | none => Report.captureMissing o.name
  | some value => Report.captured o.name value

/-- The store with a captured value. -/
def saveCaptured (settings : Settings) (store : Store) (o : Capture.Outcome) : Store :=
  match o.value? with
  | none => store
  | some value => store.save settings.projectId settings.activeEnv o.name value

/-- The state with captures reported, and stored if the step has passed. -/
def afterSettling (setup : Setup) (passed : Bool) (outcomes : List Capture.Outcome) (s : RunState) : RunState :=
  { afterSaying setup (outcomes.flatMap captureLine) s with
    store? := if passed then s.store?.map fun store => outcomes.foldl (saveCaptured setup.settings) store else s.store? }

/-- The state behind an accepted round: the response is in the history, its values are captured and its assertions have
left these draws.  Captures are reported in the last round only. -/
def afterAnswer (setup : Setup) (p : Plan) (l : Lap) (r : Response) (d : Draws) : RunState :=
  let kept := afterKeeping setup p r l.sent
  let decided := { afterCapture (.body r.body) p.step.displayName p.template.captures kept with draws := d }
  let outcomes := (Capture.harvest (.body r.body) p.step.displayName kept.context p.template.captures).outcomes
  if l.passed then afterSettling setup true outcomes decided
  else if l.isEnd p then
    { afterSettling setup false outcomes decided with context := decided.context.markFailed p.step.displayName }
  else decided

/-- The state behind a round without an accepted response. -/
def afterFailure (p : Plan) (l : Lap) : RunState :=
  match l.sends with
  | .error f => { l.sent with notes := l.sent.notes ++ [faultNote p.step.displayName f] }
  | .ok _ => l.sent

/-- How a round ends behind its sends: without an accepted response nothing is checked, and on an accepted one every
assertion is decided, in the order of the step. -/
inductive Lap.Ended (setup : Setup) (p : Plan) (l : Lap) (t : RunState) : Prop
  | unanswered (failed : l.accepted? = none) (unchecked : l.checked = []) (left : t = afterFailure p l)
  | answered {r : Response} {attempts : Nat} {d : Draws} (accepted : l.accepted? = some (r, attempts))
      (checks : Checks setup.builtins
        ((afterCapture (.body r.body) p.step.displayName p.template.captures (afterKeeping setup p r l.sent)).chain
          setup.settings) (subjectOf r) p.template.asserts l.sent.draws l.checked d)
      (left : t = afterAnswer setup p l r d)

/-- A round from one state to another: one call that sends, and what is done with the response. -/
structure Lap.Leads (setup : Setup) (p : Plan) (l : Lap) (s t : RunState) : Prop where
  sends : ends (send setup p.request ⟨p.step.retry, p.step.retryWaitMs⟩ p.step.maxDurationMs) s = (l.sends, l.sent)
  ended : l.Ended setup p t

/-! ## What the computations of a round return -/

variable {l : Lap} {r : Round}

theorem returns_say (setup : Setup) (text : Text) (s : RunState) :
    Returns (say setup text) s () (afterSaying setup text s) := by
  refine returns_modify.mpr ?_
  cases quiet : setup.quiet <;> simp [afterSaying, quiet]

@[simp] theorem afterSaying_nil (setup : Setup) (s : RunState) : afterSaying setup [] s = s := by
  simp [afterSaying]

theorem afterSaying_append (setup : Setup) (text more : Text) (s : RunState) :
    afterSaying setup more (afterSaying setup text s) = afterSaying setup (text ++ more) s := by
  cases quiet : setup.quiet <;> simp [afterSaying, quiet]

theorem returns_keep (setup : Setup) (p : Plan) (r : Response) (s : RunState) :
    Returns (keep setup p r) s () (afterKeeping setup p r s) := by
  unfold keep afterKeeping
  cases p.record && setup.keepHistory with
  | true => exact returns_modify.mpr rfl
  | false => exact returns_pure.mpr ⟨rfl, rfl⟩

theorem returns_sayCaptured (setup : Setup) (o : Capture.Outcome) (s : RunState) :
    Returns (sayCaptured setup o) s () (afterSaying setup (captureLine o) s) := by
  unfold sayCaptured captureLine
  cases o.value? <;> exact returns_say setup _ s

theorem returns_store (setup : Setup) (o : Capture.Outcome) (s : RunState) :
    Returns (store setup o) s () { s with store? := s.store?.map fun store => saveCaptured setup.settings store o } := by
  unfold store saveCaptured
  cases o.value? with
  | none => exact returns_pure.mpr ⟨rfl, by simp⟩
  | some value => exact returns_modify.mpr rfl

theorem afterSettling_cons (setup : Setup) (passed : Bool) (o : Capture.Outcome) (outcomes : List Capture.Outcome)
    (s : RunState) :
    afterSettling setup passed (o :: outcomes) s = afterSettling setup passed outcomes (afterSettling setup passed [o] s) := by
  cases passed <;> cases quiet : setup.quiet <;> simp [afterSettling, afterSaying, quiet, Option.map_map, Function.comp_def]

theorem returns_settleCaptures (setup : Setup) (passed : Bool) (outcomes : List Capture.Outcome) (s : RunState) :
    Returns (settleCaptures setup passed outcomes) s () (afterSettling setup passed outcomes s) := by
  induction outcomes generalizing s with
  | nil =>
      refine returns_pure.mpr ⟨rfl, ?_⟩
      cases passed <;> simp [afterSettling]
  | cons o rest ih =>
      rw [afterSettling_cons]
      refine returns_bind.mpr ⟨(), _, returns_bind.mpr ⟨(), _, returns_sayCaptured setup o s, ?_⟩, ih _⟩
      cases passed with
      | true =>
          have saved := returns_store setup o (afterSaying setup (captureLine o) s)
          simpa [afterSettling, afterSaying] using saved
      | false =>
          refine returns_pure.mpr ⟨rfl, ?_⟩
          simp [afterSettling, afterSaying]

/-- What settling a round returns: it reports captures if the round ends the step, and stores them if it has passed. -/
theorem returns_settle {outcomes : List Capture.Outcome} {checked : List (Text × Assertion.Verdict)} {due : Bool}
    (returned : Returns (settle setup p result outcomes checked) s r t)
    (asked : due = (!p.polling || p.deadline.le s.clock)) :
    r.checked = checked ∧
      r.result = { result with error := ((firstFailure? checked).map assertionError).getD result.error } ∧
      (r.settled = true ↔ firstFailure? checked = none ∨ due = true) ∧
      t = if firstFailure? checked = none then afterSettling setup true outcomes s
        else if due = true then
          { afterSettling setup false outcomes s with context := s.context.markFailed p.step.displayName }
        else s := by
  unfold settle at returned
  cases first : firstFailure? checked with
  | none =>
      rw [first] at returned
      obtain ⟨_, u, settled, ended⟩ := returns_bind.mp returned
      obtain ⟨rfl, rfl⟩ := returns_pure.mp ended
      obtain ⟨-, rfl⟩ := settled.unique (returns_settleCaptures setup true outcomes s)
      exact ⟨rfl, rfl, by simp, by simp⟩
  | some failed =>
      rw [first] at returned
      obtain ⟨isEnd, u, looked, rest⟩ := returns_bind.mp returned
      obtain ⟨same, rfl⟩ := returns_isOver.mp looked
      obtain rfl := asked.trans same.symm
      cases due with
      | true =>
          obtain ⟨_, v, settled, rest⟩ := returns_bind.mp rest
          obtain ⟨_, w, marked, ended⟩ := returns_bind.mp rest
          obtain ⟨rfl, rfl⟩ := returns_pure.mp ended
          obtain ⟨-, rfl⟩ := settled.unique (returns_settleCaptures setup false outcomes u)
          rw [returns_modify.mp marked]
          exact ⟨rfl, rfl, by simp, by simp [afterSettling, afterSaying]⟩
      | false =>
          obtain ⟨rfl, rfl⟩ := returns_pure.mp rest
          exact ⟨rfl, rfl, by simp, by simp⟩

/-! ## One round -/

theorem passed_iff {response : Response} {attempts : Nat} (accepted : l.accepted? = some (response, attempts)) :
    l.passed = true ↔ firstFailure? l.checked = none := by
  rw [Lap.passed, accepted, Option.isSome_some, Bool.true_and, List.all_eq_true, firstFailure?_eq_none]

theorem isEnd_iff (going : p.closing = false) :
    l.isEnd p = true ↔ l.passed = true ∨ (!p.polling || p.deadline.le l.sent.clock) = true := by
  simp only [Lap.isEnd, Plan.polling, going, Bool.or_eq_true, decide_eq_true_eq, Bool.not_false, Bool.true_and,
    Bool.not_eq_true', decide_eq_false_iff_not, Nat.not_lt, Nat.le_zero]
  rw [or_comm (a := p.step.pollTimeoutMs = 0), or_assoc]

/-- What is done with an accepted response. -/
theorem answered_ended (going : p.closing = false) {response : Response} {attempts : Nat}
    (returned : Returns (answered setup p result response attempts) s r t) {l : Lap}
    (same : l = ⟨.ok (.ok response, attempts), s, r.checked⟩) :
    l.Ended setup p t ∧ r.result = l.onto result ∧ (r.settled = true ↔ l.isEnd p = true) := by
  rw [answered_eq] at returned
  obtain ⟨_, kept, keeping, rest⟩ := returns_bind.mp returned
  obtain ⟨-, rfl⟩ := keeping.unique (returns_keep setup p response s)
  obtain ⟨outcomes, v, captured, rest⟩ := returns_bind.mp rest
  obtain ⟨-, rfl, rfl⟩ := returns_capture.mp captured
  obtain ⟨_, w, got, rest⟩ := returns_bind.mp rest
  obtain ⟨rfl, rfl⟩ := returns_get.mp got
  obtain ⟨checked, x, decided, settled⟩ := returns_bind.mp rest
  obtain ⟨d, checks, rfl⟩ := returns_checkAll.mp decided
  obtain ⟨verdicts, error, ends, left⟩ :=
    returns_settle settled (show (!p.polling || p.deadline.le s.clock) = _ from rfl)
  have sends : l.sends = .ok (.ok response, attempts) := by rw [same]
  have accepted : l.accepted? = some (response, attempts) := by rw [Lap.accepted?, sends]
  have verdict := passed_iff accepted
  have due := isEnd_iff (l := l) going
  obtain rfl : checked = l.checked := by rw [same, verdicts]
  obtain rfl : s = l.sent := by rw [same]
  refine ⟨.answered accepted checks ?_, ?_, ?_⟩
  · rw [left, afterAnswer]
    by_cases passed : l.passed = true
    · rw [if_pos (verdict.mp passed), if_pos passed]
    · rw [if_neg (mt verdict.mpr passed), if_neg passed]
      by_cases finished : l.isEnd p = true
      · rw [if_pos ((due.mp finished).resolve_left passed), if_pos finished]
      · rw [if_neg fun late => finished (due.mpr (.inr late)), if_neg finished]
  · rw [error, Lap.onto, sends]
    rfl
  · rw [ends, due, verdict]

/-- **One round** leads to a state with its result; it settles the step if it is accepted and ends the rounds. -/
theorem round_leads (going : p.closing = false) (returned : Returns (round setup p result) s r t) :
    ∃ l : Lap, l.Leads setup p s t ∧ r.result = l.onto result ∧ r.checked = l.checked ∧
      (r.settled = true ↔ l.accepted?.isSome = true ∧ l.isEnd p = true) := by
  obtain ⟨o, v, sends⟩ : ∃ o v,
      ends (send setup p.request ⟨p.step.retry, p.step.retryWaitMs⟩ p.step.maxDurationMs) s = (o, v) := ⟨_, _, rfl⟩
  obtain ⟨sent, w, sending, rest⟩ := returns_bind.mp returned
  rcases o with f | ⟨e | response, attempts⟩
  · obtain ⟨rfl, rfl⟩ := sending.unique (returns_sendRound 0 (.error f) sends)
    obtain ⟨_, x, noted, ended⟩ := returns_bind.mp rest
    obtain ⟨rfl, rfl⟩ := returns_pure.mp ended
    exact ⟨⟨.error f, w, []⟩, ⟨sends, .unanswered rfl rfl (returns_modify.mp noted)⟩, rfl, rfl, by simp [Lap.accepted?]⟩
  · obtain ⟨rfl, rfl⟩ := sending.unique (returns_sendRound attempts (.ok (.error e)) sends)
    obtain ⟨rfl, rfl⟩ := returns_pure.mp rest
    exact ⟨⟨.ok (.error e, attempts), t, []⟩, ⟨sends, .unanswered rfl rfl rfl⟩, rfl, rfl, by simp [Lap.accepted?]⟩
  · obtain ⟨rfl, rfl⟩ := sending.unique (returns_sendRound attempts (.ok (.ok response)) sends)
    obtain ⟨ended, onto, settled⟩ := answered_ended going rest rfl
    exact ⟨_, ⟨sends, ended⟩, onto, rfl, by simpa [Lap.accepted?] using settled⟩

end ApiFlow.Running

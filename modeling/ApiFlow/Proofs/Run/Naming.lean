import ApiFlow.Proofs.Run.Command
import ApiFlow.Run.Runner

/-!
# The names of results

Whatever becomes of a step, its result bears the name of the step.

* `named_requestStep`, `named_commandStep` : the two kinds of steps.
* `named_flowStep`, `named_runPlain` : steps of a flow, and plain requests.
-/

set_option autoImplicit false

namespace ApiFlow.Running

open ApiFlow.Flow

variable {setup : Setup}

/-- Every result of the computation bears the name. -/
abbrev Named (name : Text) (m : Running StepResult) : Prop := Yields (fun r => r.name = name) m

/-- Every round of the computation has a result that bears the name. -/
abbrev RoundNamed (name : Text) (m : Running Round) : Prop := Yields (fun r => r.result.name = name) m

theorem named_settle (p : Plan) (result : StepResult) (outcomes : List Capture.Outcome)
    (checked : List (Text × Assertion.Verdict)) : RoundNamed result.name (settle setup p result outcomes checked) := by
  unfold settle
  split
  · exact Yields.bind fun _ => Yields.pure rfl
  · refine Yields.bind fun isEnd => ?_
    split
    · exact Yields.bind fun _ => Yields.bind fun _ => Yields.pure rfl
    · exact Yields.pure rfl

theorem named_answered (p : Plan) (result : StepResult) (r : Response) (attempts : Nat) :
    RoundNamed result.name (answered setup p result r attempts) := by
  rw [answered_eq]
  exact Yields.bind fun _ => Yields.bind fun _ => Yields.bind fun _ => Yields.bind fun _ =>
    named_settle p (withResponse result r attempts) _ _

theorem named_round (p : Plan) (result : StepResult) : RoundNamed result.name (round setup p result) := by
  refine Yields.bind fun sent => ?_
  cases sent with
  | answer r attempts => exact named_answered p result r attempts
  | failure e => cases e <;> exact Yields.pure rfl
  | fault f => exact Yields.bind fun _ => Yields.pure rfl

theorem named_rounds (p : Plan) (left : Nat) (result : StepResult) :
    RoundNamed result.name (rounds setup p left result) := by
  induction left generalizing result with
  | zero => exact named_round _ result
  | succ left ih =>
      intro s last t returned
      obtain ⟨r, u, tried, rest⟩ := returns_bind.mp returned
      have name : r.result.name = result.name := named_round p result tried
      by_cases settled : r.settled = true
      · rw [if_pos settled] at rest
        obtain ⟨rfl, -⟩ := returns_pure.mp rest
        exact name
      · rw [if_neg settled] at rest
        obtain ⟨isEnd, v, -, rest⟩ := returns_bind.mp rest
        cases isEnd with
        | true =>
            obtain ⟨rfl, -⟩ := returns_pure.mp rest
            exact name
        | false =>
            obtain ⟨_, w, -, rest⟩ := returns_bind.mp rest
            obtain ⟨_, x, -, rest⟩ := returns_bind.mp rest
            exact (ih r.result rest).trans name

theorem named_poll (step : Step) (template : RequestTemplate) (record : Bool) (request : Request)
    (result : StepResult) : Named result.name (poll setup step template record request result) := by
  refine Yields.bind fun interval => Yields.bind fun start => Yields.bind fun span => ?_
  intro s r t returned
  obtain ⟨last, u, tried, rest⟩ := returns_bind.mp returned
  obtain ⟨_, v, -, ended⟩ := returns_bind.mp rest
  obtain ⟨rfl, -⟩ := returns_pure.mp ended
  exact named_rounds _ _ result tried

/-- **The result of a request step** bears its name. -/
theorem named_requestStep (step : Step) (template : RequestTemplate) (strict : Bool) (flowHeaders : Table Text)
    (record : Bool) : Named step.displayName (requestStep setup step template strict flowHeaders record) := by
  cases complete : template.isComplete with
  | false =>
      rw [requestStep_of_incomplete complete]
      exact Yields.pure rfl
  | true =>
      rw [requestStep_of_complete complete]
      refine Yields.bind fun s => Yields.bind fun _ => Yields.bind fun outcome => ?_
      cases outcome with
      | error e => exact Yields.pure rfl
      | ok request => exact named_poll step template record request { blank setup step template with url := request.url }

theorem named_succeeded (step : Step) (c : CommandTemplate) (result : StepResult) (o : Output) :
    Named result.name (succeeded setup step c result o) := by
  rw [succeeded_eq]
  refine Yields.bind fun _ => Yields.bind fun _ => Yields.bind fun outcomes => ?_
  refine Yields.bind fun _ => Yields.bind fun _ => Yields.bind fun checked => ?_
  unfold decided
  split
  · exact Yields.pure rfl
  · exact Yields.bind fun _ => Yields.pure rfl

/-- **The result of a command step** bears its name. -/
theorem named_commandStep (step : Step) (c : CommandTemplate) :
    Named step.displayName (commandStep setup step c) := by
  by_cases given : c.command = []
  · simp only [commandStep, given, List.isEmpty_nil, if_true]
    exact Yields.pure rfl
  · intro s r t returned
    obtain ⟨limit, outcome, u, -, -, concluding⟩ := (returns_commandStep_iff given).mp returned
    cases outcome with
    | error e =>
        obtain ⟨-, _, rfl⟩ := returns_conclude_error concluding
        rfl
    | ok o => exact named_succeeded step c (begun setup step c s) o concluding

theorem named_flowStep (headers origins : Table Text) (failed : List Text) (step : Step) :
    Named step.displayName (flowStep setup headers origins failed step) := by
  refine Yields.bind fun _ => Yields.bind fun _ => Yields.bind fun s => ?_
  dsimp only
  split
  · exact Yields.pure rfl
  · unfold runStep
    split
    · exact named_requestStep step _ true headers true
    · exact named_commandStep step _

theorem name_lineRead {raw : Text} {number : Nat} {l : Scenario.Line} (read : Scenario.Line.read raw number = .ok l) :
    l.step.name = "Line " ++ Text.ofNat number := by
  unfold Scenario.Line.read at read
  split at read
  · split at read
    · cases read
    · cases read
    · split at read
      · cases read
        rfl
      · cases read
  · cases read

/-- A plain request that can be read is a step of its name. -/
theorem displayName_readPlain {p : PlainRequest} {step : Step} {t : RequestTemplate} {record : Bool}
    (read : readPlain p = .ok (step, t, record)) : step.displayName = p.name := by
  have own {s : Step} (name : s.name = p.name) : s.displayName = p.name := by
    have some : p.name.isEmpty = false := by
      unfold PlainRequest.name
      split <;> rfl
    rw [Step.displayName, name, some]
    rfl
  unfold readPlain at read
  by_cases block : p.isBlock = true
  · rw [if_pos block] at read
    cases parsed : RequestTemplate.ofBlock p.raw with
    | error e => simp [parsed] at read
    | ok template =>
        simp only [parsed, Except.ok.injEq, Prod.mk.injEq] at read
        obtain ⟨rfl, -⟩ := read
        exact own rfl
  · rw [if_neg block] at read
    cases parsed : Scenario.Line.read p.raw p.line with
    | error e => simp [parsed] at read
    | ok l =>
        simp only [parsed, Except.ok.injEq, Prod.mk.injEq] at read
        obtain ⟨rfl, -⟩ := read
        refine own ?_
        rw [name_lineRead parsed, PlainRequest.name, if_neg block]

theorem named_runPlain (p : PlainRequest) (strict : Bool) : Named p.name (runPlain setup p strict) := by
  unfold runPlain
  split
  · exact Yields.pure rfl
  · rename_i step t record read
    rw [← displayName_readPlain read]
    exact Yields.bind fun _ => named_requestStep step t strict [] record

end ApiFlow.Running

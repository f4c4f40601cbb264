import ApiFlow.Proofs.Run.Hazard

/-!
# What can go wrong in a command step

A command that exits badly, is refused or takes too long has a failed step as its result.  A command whose shell breaks
down has none: unlike a service that breaks down, a broken shell stops the run.

* `CommandHazard` : all the ways in which a command step stops.
* `stops_commandStep_iff` : a command step stops exactly if it meets one of them.
-/

set_option autoImplicit false

namespace ApiFlow.Running

open ApiFlow.Flow

variable {setup : Setup} {s t u : RunState}

/-- The command of a step with its references filled in. -/
def commandText (setup : Setup) (c : CommandTemplate) (s : RunState) : Text :=
  (Template.fill setup.builtins (s.chain setup.settings) c.command s.draws).1.text

/-- The state in which the first try of a command begins. -/
def beforeCommand (setup : Setup) (c : CommandTemplate) (s : RunState) : RunState :=
  { s with
    draws := (Template.fill setup.builtins (s.chain setup.settings) c.command s.draws).2
    printed := if setup.quiet then s.printed else s.printed ++ Report.command (commandText setup c s) }

/-- The tries of a command step. -/
def tries (setup : Setup) (step : Step) (c : CommandTemplate) (limit : Double) (s : RunState) :
    Running (Except CommandError Output) :=
  runCommand setup (commandText setup c s) limit ⟨step.retry, step.retryWaitMs⟩

/-- What assertions read of an output. -/
def outputSubject (o : Output) : Assertion.Subject := ⟨o.code, Text.trim o.stdout, o.durationMs⟩

/-- What can go wrong in a command step. -/
inductive CommandHazard (setup : Setup) (step : Step) (c : CommandTemplate) (s : RunState) : Fault → Prop
  /-- The time limit is too long. -/
  | limit {f : Fault} (given : c.command ≠ []) (tooLong : commandLimit setup step = .error f) :
      CommandHazard setup step c s f
  /-- The wait between two tries is too long. -/
  | wait {f : Fault} {limit : Double} (given : c.command ≠ []) (fits : commandLimit setup step = .ok limit)
      (tooLong : retryWait step = .error f) : CommandHazard setup step c s f
  /-- The shell breaks down in one of the tries. -/
  | broken {limit wait : Double} {number : Nat} {t : RunState} {message : Text} (given : c.command ≠ [])
      (fits : commandLimit setup step = .ok limit) (waits : retryWait step = .ok wait)
      (reached : Retry.TryAt (runOnce setup (commandText setup c s) limit)
        (Retry.pause ⟨step.retry, step.retryWaitMs⟩ setup wait) (max step.retry 0).toNat 1 (beforeCommand setup c s)
        number t)
      (bad : (setup.shell t.commands.length (commandText setup c s) limit).outcome = .broken message) :
      CommandHazard setup step c s (.service message)
  /-- The command has failed, and the time that it took is no number. -/
  | clock {f : Fault} {limit : Double} {e : CommandError} {t : RunState} (given : c.command ≠ [])
      (fits : commandLimit setup step = .ok limit)
      (ran : Returns (tries setup step c limit s) (beforeCommand setup c s) (.error e) t)
      (bad : elapsedMs s.clock t.clock = .error f) : CommandHazard setup step c s f
  /-- A capture has a query that stops. -/
  | capture {f : Fault} {limit : Double} {o : Output} {t : RunState} (given : c.command ≠ [])
      (fits : commandLimit setup step = .ok limit)
      (ran : Returns (tries setup step c limit s) (beforeCommand setup c s) (.ok o) t)
      (bad : Capture.faultIn? (.output (Text.trim o.stdout)) c.captures = some f) : CommandHazard setup step c s f
  /-- An assertion cannot be decided. -/
  | assertion {f : Fault} {limit : Double} {o : Output} {t : RunState} (given : c.command ≠ [])
      (fits : commandLimit setup step = .ok limit)
      (ran : Returns (tries setup step c limit s) (beforeCommand setup c s) (.ok o) t)
      (captured : Capture.faultIn? (.output (Text.trim o.stdout)) c.captures = none)
      (bad : CheckStops setup.builtins
        ((afterCapture (.output (Text.trim o.stdout)) step.displayName c.captures t).chain setup.settings)
        (outputSubject o) c.asserts t.draws f) : CommandHazard setup step c s f

theorem stops_runOnce_iff {command : Text} {limit : Double} {f : Fault} :
    Stops (runOnce setup command limit) s f ↔
      ∃ message, (setup.shell s.commands.length command limit).outcome = .broken message ∧ f = .service message := by
  rw [Stops, ends_runOnce]
  cases (setup.shell s.commands.length command limit).outcome <;> simp [brought, eq_comm]

theorem safe_sayOutput (setup : Setup) (label text : Text) : Safe (sayOutput setup label text) := by
  unfold sayOutput
  split
  · exact safe_say setup _
  · exact fun _ _ => stops_pure

theorem keeps_sayOutput (setup : Setup) (label text : Text) : Keeps knowledge (sayOutput setup label text) := by
  unfold sayOutput
  split
  · exact keeps_say setup knowledge (fun _ _ => rfl) _
  · exact Keeps.pure

theorem keeps_sayCaptured (setup : Setup) (o : Capture.Outcome) : Keeps knowledge (sayCaptured setup o) := by
  unfold sayCaptured
  split <;> exact keeps_say setup knowledge (fun _ _ => rfl) _

/-- The variables that a step sees follow from what it is judged by. -/
theorem chain_eq_of_knowledge (same : knowledge t = knowledge s) : t.chain setup.settings = s.chain setup.settings := by
  simp only [knowledge, Prod.mk.injEq] at same
  obtain ⟨context, store, -⟩ := same
  exact chain_congr (by rw [RunState.stored, store, RunState.stored]) context

/-- The result of a command step that was decided. -/
def decided (step : Step) (result : StepResult) (checked : List (Text × Assertion.Verdict)) : Running StepResult :=
  match firstFailure? checked with
  | none => return result.judged
  | some failed => do
    markFailed step.displayName
    return { result with error := assertionError failed }.judged

theorem safe_decided (step : Step) (result : StepResult) (checked : List (Text × Assertion.Verdict)) :
    Safe (decided step result checked) := by
  unfold decided
  split
  · exact fun _ _ => stops_pure
  · exact Safe.bind (fun _ _ => stops_modify) fun _ _ _ => stops_pure

/-- What a command step does with its captured values. -/
def concluded (setup : Setup) (step : Step) (c : CommandTemplate) (result : StepResult) (o : Output)
    (outcomes : List Capture.Outcome) : Running StepResult := do
  outcomes.forM (sayCaptured setup)
  let checked ← c.asserts.mapM (checkAloud setup (outputSubject o) ((← get).chain setup.settings))
  decided step { result with durationMs := o.durationMs, status := o.code, body := Text.trim o.stdout } checked

theorem stops_concluded_iff {step : Step} {c : CommandTemplate} {result : StepResult} {o : Output}
    {outcomes : List Capture.Outcome} {f : Fault} :
    Stops (concluded setup step c result o outcomes) s f ↔
      CheckStops setup.builtins (s.chain setup.settings) (outputSubject o) c.asserts s.draws f := by
  obtain ⟨⟨⟩, t, said⟩ := (Safe.forM (safe_sayCaptured setup) outcomes).returns s
  have same : knowledge t = knowledge s := Keeps.forM (keeps_sayCaptured setup) outcomes said
  have draws : t.draws = s.draws := congrArg (fun k => k.2.2) same
  rw [concluded, said.stops_bind_iff, (returns_get.mpr ⟨rfl, rfl⟩).stops_bind_iff, stops_bind_safe (safe_decided step _),
    stops_checkAllAloud, chain_eq_of_knowledge same, draws]

theorem succeeded_eq (step : Step) (c : CommandTemplate) (result : StepResult) (o : Output) :
    succeeded setup step c result o = (do
      sayOutput setup "stdout" (Text.trim o.stdout)
      sayOutput setup "stderr" (Text.trim o.stderr)
      let outcomes ← capture (.output (Text.trim o.stdout)) step.displayName c.captures
      concluded setup step c result o outcomes) :=
  rfl

/-- A command that has succeeded stops if a capture does or, with what was captured, an assertion does. -/
theorem stops_succeeded_iff {step : Step} {c : CommandTemplate} {result : StepResult} {o : Output} {f : Fault} :
    Stops (succeeded setup step c result o) s f ↔
      Capture.faultIn? (.output (Text.trim o.stdout)) c.captures = some f ∨
        Capture.faultIn? (.output (Text.trim o.stdout)) c.captures = none ∧
        CheckStops setup.builtins
          ((afterCapture (.output (Text.trim o.stdout)) step.displayName c.captures s).chain setup.settings)
          (outputSubject o) c.asserts s.draws f := by
  obtain ⟨⟨⟩, t, said⟩ := (safe_sayOutput setup "stdout" (Text.trim o.stdout)).returns s
  obtain ⟨⟨⟩, u, said'⟩ := (safe_sayOutput setup "stderr" (Text.trim o.stderr)).returns t
  have same : knowledge u = knowledge s := (keeps_sayOutput _ _ _ said').trans (keeps_sayOutput _ _ _ said)
  have captured : knowledge (afterCapture (.output (Text.trim o.stdout)) step.displayName c.captures u) =
      knowledge (afterCapture (.output (Text.trim o.stdout)) step.displayName c.captures s) := by
    simp only [knowledge, Prod.mk.injEq] at same ⊢
    simp only [afterCapture, same, and_self]
  rw [succeeded_eq, said.stops_bind_iff, said'.stops_bind_iff, stops_bind, stops_capture]
  refine or_congr_right ⟨?_, ?_⟩
  · rintro ⟨outcomes, v, taken, stopped⟩
    obtain ⟨fits, -, rfl⟩ := returns_capture.mp taken
    rw [stops_concluded_iff, chain_eq_of_knowledge captured] at stopped
    have draws : u.draws = s.draws := congrArg (fun k => k.2.2) same
    exact ⟨fits, draws ▸ stopped⟩
  · rintro ⟨fits, stopped⟩
    refine ⟨_, _, returns_capture.mpr ⟨fits, rfl, rfl⟩, stops_concluded_iff.mpr ?_⟩
    rw [chain_eq_of_knowledge captured]
    have draws : u.draws = s.draws := congrArg (fun k => k.2.2) same
    exact draws ▸ stopped

theorem returns_announce (setup : Setup) (c : CommandTemplate) (s : RunState) :
    Returns (say setup (Report.command (commandText setup c s)))
      { s with draws := (Template.fill setup.builtins (s.chain setup.settings) c.command s.draws).2 } ()
      (beforeCommand setup c s) := by
  refine returns_modify.mpr ?_
  unfold beforeCommand
  split <;> rfl

/-- The result of a command step before its command is run. -/
def begun (setup : Setup) (step : Step) (c : CommandTemplate) (s : RunState) : StepResult :=
  { name := step.displayName, method := "EXEC", start := setup.startTime
    url := (Text.lines (commandText setup c s)).head?.getD [] }

/-- What a command step does after its tries. -/
def conclude (setup : Setup) (step : Step) (c : CommandTemplate) (begun : StepResult) (start : Double) :
    Except CommandError Output → Running StepResult
  | .error e => do
    let durationMs ← guard (elapsedMs start (← now))
    return { begun with durationMs, error := e.message }
  | .ok o => succeeded setup step c begun o

theorem ends_commandStep {step : Step} {c : CommandTemplate} (given : c.command ≠ []) (s : RunState) :
    ends (commandStep setup step c) s =
      ends (do
        let limit ← guard (commandLimit setup step)
        let start ← now
        conclude setup step c (begun setup step c s) start (← tries setup step c limit s)) (beforeCommand setup c s) := by
  have some : c.command.isEmpty = false := by simpa using given
  simp only [commandStep, some, Bool.false_eq_true, if_false]
  rw [(returns_get.mpr ⟨rfl, rfl⟩).ends_bind, (returns_draw.mpr ⟨rfl, rfl⟩).ends_bind]
  exact (returns_announce setup c s).ends_bind _

theorem stops_tries_iff {step : Step} {c : CommandTemplate} {limit : Double} {f : Fault} :
    Stops (tries setup step c limit s) t f ↔ retryWait step = .error f ∨
      ∃ wait number u message, retryWait step = .ok wait ∧
        Retry.TryAt (runOnce setup (commandText setup c s) limit)
          (Retry.pause ⟨step.retry, step.retryWaitMs⟩ setup wait) (max step.retry 0).toNat 1 t number u ∧
        (setup.shell u.commands.length (commandText setup c s) limit).outcome = .broken message ∧
        f = .service message := by
  rw [tries, runCommand, bind_pure_comp, stops_map, Retry.stops_run_iff]
  refine or_congr_right ?_
  simp only [stops_runOnce_iff, exists_and_left]
  rfl

theorem stops_conclude_error_iff {step : Step} {c : CommandTemplate} {begun : StepResult} {start : Double}
    {e : CommandError} {f : Fault} :
    Stops (conclude setup step c begun start (.error e)) s f ↔ elapsedMs start s.clock = .error f := by
  rw [conclude, (returns_now.mpr ⟨rfl, rfl⟩).stops_bind_iff, stops_bind_safe (fun _ _ _ => stops_pure), stops_guard]

/-- A command that has failed says nothing but that. -/
theorem returns_conclude_error {step : Step} {c : CommandTemplate} {result r : StepResult} {start : Double}
    {e : CommandError} (returned : Returns (conclude setup step c result start (.error e)) s r t) :
    t = s ∧ ∃ durationMs, r = { result with durationMs, error := e.message } := by
  obtain ⟨_, u, read, measuring⟩ := returns_bind.mp returned
  obtain ⟨durationMs, v, guarded, last⟩ := returns_bind.mp measuring
  obtain ⟨-, rfl⟩ := returns_now.mp read
  obtain ⟨-, rfl⟩ := returns_guard.mp guarded
  obtain ⟨rfl, rfl⟩ := returns_pure.mp last
  exact ⟨rfl, durationMs, rfl⟩

/-- A command step returns if its tries come to an outcome and it can be concluded. -/
theorem returns_commandStep_iff {step : Step} {c : CommandTemplate} {r : StepResult} (given : c.command ≠ []) :
    Returns (commandStep setup step c) s r t ↔
      ∃ limit outcome u, commandLimit setup step = .ok limit ∧
        Returns (tries setup step c limit s) (beforeCommand setup c s) outcome u ∧
        Returns (conclude setup step c (begun setup step c s) s.clock outcome) u r t := by
  rw [Returns, ends_commandStep given]
  constructor
  · intro returned
    obtain ⟨limit, u, guarded, timing⟩ := returns_bind.mp returned
    obtain ⟨start, v, read, trying⟩ := returns_bind.mp timing
    obtain ⟨outcome, w, ran, concluding⟩ := returns_bind.mp trying
    obtain ⟨fits, rfl⟩ := returns_guard.mp guarded
    obtain ⟨rfl, rfl⟩ := returns_now.mp read
    exact ⟨limit, outcome, w, fits, ran, concluding⟩
  · rintro ⟨limit, outcome, u, fits, ran, concluding⟩
    exact returns_bind.mpr ⟨limit, _, returns_guard.mpr ⟨fits, rfl⟩, returns_bind.mpr
      ⟨_, _, returns_now.mpr ⟨rfl, rfl⟩, returns_bind.mpr ⟨outcome, u, ran, concluding⟩⟩⟩

/-- **A command step stops exactly if it meets a hazard.** -/
theorem stops_commandStep_iff {step : Step} {c : CommandTemplate} {f : Fault} :
    Stops (commandStep setup step c) s f ↔ CommandHazard setup step c s f := by
  by_cases given : c.command = []
  · simp only [commandStep, given, List.isEmpty_nil, if_true]
    refine iff_of_false stops_pure ?_
    rintro (⟨some, -⟩ | ⟨some, -⟩ | ⟨some, -⟩ | ⟨some, -⟩ | ⟨some, -⟩ | ⟨some, -⟩) <;> exact some given
  · have start : Stops (commandStep setup step c) s f ↔ Stops (do
        let limit ← guard (commandLimit setup step)
        let start ← now
        conclude setup step c (begun setup step c s) start (← tries setup step c limit s))
          (beforeCommand setup c s) f := by
      rw [Stops, ends_commandStep given, Stops]
    rw [start]
    constructor
    · intro stopped
      obtain tooLong | ⟨limit, t, guarded, rest⟩ := stops_bind.mp stopped
      · exact .limit given tooLong
      obtain ⟨fits, rfl⟩ := returns_guard.mp guarded
      rw [(returns_now.mpr ⟨rfl, rfl⟩).stops_bind_iff] at rest
      obtain broke | ⟨outcome, u, ran, rest⟩ := stops_bind.mp rest
      · rcases stops_tries_iff.mp broke with tooLong | ⟨wait, number, u, message, waits, reached, bad, rfl⟩
        · exact .wait given fits tooLong
        · exact .broken given fits waits reached bad
      · cases outcome with
        | error e => exact .clock given fits ran (stops_conclude_error_iff.mp rest)
        | ok o =>
            rcases stops_succeeded_iff.mp rest with bad | ⟨captured, bad⟩
            · exact .capture given fits ran bad
            · exact .assertion given fits ran captured bad
    · -- Each hazard lies behind what it says has gone well.
      have after {limit : Double} (fits : commandLimit setup step = .ok limit)
          (rest : Stops (do
            conclude setup step c (begun setup step c s) s.clock (← tries setup step c limit s))
            (beforeCommand setup c s) f) :
          Stops (do
            let limit ← guard (commandLimit setup step)
            let start ← now
            conclude setup step c (begun setup step c s) start (← tries setup step c limit s))
            (beforeCommand setup c s) f := by
        rw [(returns_guard.mpr ⟨fits, rfl⟩).stops_bind_iff, (returns_now.mpr ⟨rfl, rfl⟩).stops_bind_iff]
        exact rest
      intro hazard
      cases hazard with
      | limit _ tooLong => exact stops_bind.mpr (.inl tooLong)
      | wait _ fits tooLong => exact after fits (stops_bind.mpr (.inl (stops_tries_iff.mpr (.inl tooLong))))
      | broken _ fits waits reached bad =>
          refine after fits (stops_bind.mpr (.inl (stops_tries_iff.mpr (.inr ?_))))
          exact ⟨_, _, _, _, waits, reached, bad, rfl⟩
      | clock _ fits ran bad => exact after fits (ran.stops_bind_iff.mpr (stops_conclude_error_iff.mpr bad))
      | capture _ fits ran bad => exact after fits (ran.stops_bind_iff.mpr (stops_succeeded_iff.mpr (.inl bad)))
      | assertion _ fits ran captured bad =>
          exact after fits (ran.stops_bind_iff.mpr (stops_succeeded_iff.mpr (.inr ⟨captured, bad⟩)))

end ApiFlow.Running

import ApiFlow.Proofs.Run.Preparing
import ApiFlow.Proofs.Run.Verdict
import ApiFlow.Run.Step

/-!
# What can go wrong in a step

A step that fails has a result that says so.  A step can also stop without a result, and the hazards below are all the
ways to that: each tells where it is met and what it is.  The list is complete under what is taken for granted of a run:
sleeps return, what is printed is accepted, decimals do not overflow, and strings of replies can be encoded again.

* `RoundHazard` : a response from which a value cannot be captured, or on which an assertion cannot be decided.
* `RequestHazard`, `CommandHazard` : the hazards of the two kinds of steps.
* `stops_requestStep_iff`, `stops_commandStep_iff` : a step stops exactly if it meets a hazard, with the fault of that
  hazard.
-/

set_option autoImplicit false

namespace ApiFlow.Running

open ApiFlow.Flow

variable {setup : Setup} {s t u : RunState}

/-! ## Captures and assertions on a response -/

theorem safe_keep (setup : Setup) (p : Plan) (r : Response) : Safe (keep setup p r) := by
  unfold keep
  split
  · exact safe_inStore _
  · exact fun _ _ => stops_pure

theorem safe_sayCaptured (setup : Setup) (o : Capture.Outcome) : Safe (sayCaptured setup o) := by
  unfold sayCaptured
  split <;> exact safe_say setup _

theorem safe_settleCaptures (setup : Setup) (passed : Bool) (outcomes : List Capture.Outcome) :
    Safe (settleCaptures setup passed outcomes) := by
  refine Safe.forM (fun o => Safe.bind (safe_sayCaptured setup o) fun _ => ?_) outcomes
  split
  · unfold store
    split
    · exact fun _ _ => stops_pure
    · exact safe_inStore _
  · exact fun _ _ => stops_pure

theorem safe_isOver (p : Plan) : Safe (isOver p) := by
  intro s f stopped
  obtain never | ⟨_, _, -, never⟩ := stops_bind.mp stopped
  · exact stops_now never
  · exact stops_pure never

/-- The end of a round whose assertions have been decided. -/
def settle (setup : Setup) (p : Plan) (result : StepResult) (outcomes : List Capture.Outcome)
    (checked : List (Text × Assertion.Verdict)) : Running Round :=
  match firstFailure? checked with
  | none => do
    settleCaptures setup true outcomes
    return { result, checked, settled := true }
  | some failed => do
    if ← isOver p then
      settleCaptures setup false outcomes
      markFailed p.step.displayName
      return { result := { result with error := assertionError failed }, checked, settled := true }
    else return { result := { result with error := assertionError failed }, checked }

theorem answered_eq (p : Plan) (result : StepResult) (r : Response) (attempts : Nat) :
    answered setup p result r attempts = (do
      keep setup p r
      let outcomes ← capture (.body r.body) p.step.displayName p.template.captures
      let s ← get
      let checked ← checkAll setup (subjectOf r) (s.chain setup.settings) p.template.asserts
      settle setup p (withResponse result r attempts) outcomes checked) :=
  rfl

theorem safe_settle (p : Plan) (result : StepResult) (outcomes : List Capture.Outcome)
    (checked : List (Text × Assertion.Verdict)) : Safe (settle setup p result outcomes checked) := by
  have never {r : Round} : Safe (pure r : Running Round) := fun _ _ => stops_pure
  unfold settle
  split
  · exact Safe.bind (safe_settleCaptures setup true outcomes) fun _ => never
  · refine Safe.bind (safe_isOver p) fun isEnd => ?_
    split
    · exact Safe.bind (safe_settleCaptures setup false outcomes) fun _ =>
        Safe.bind (fun _ _ => stops_modify) fun _ => never
    · exact never

/-- An answered round stops if a capture does or, with what was captured, an assertion does. -/
theorem stops_answered_iff {p : Plan} {result : StepResult} {r : Response} {attempts : Nat} {f : Fault} :
    Stops (answered setup p result r attempts) s f ↔
      Capture.faultIn? (.body r.body) p.template.captures = some f ∨
        Capture.faultIn? (.body r.body) p.template.captures = none ∧
        CheckStops setup.builtins
          ((afterCapture (.body r.body) p.step.displayName p.template.captures s).chain setup.settings) (subjectOf r)
          p.template.asserts s.draws f := by
  obtain ⟨⟨⟩, kept, keeping⟩ := (safe_keep setup p r).returns s
  have same := keeps_keep setup p r keeping
  simp only [Prod.mk.injEq] at same
  obtain ⟨-, context, draws, stored⟩ := same
  have vars : (afterCapture (.body r.body) p.step.displayName p.template.captures kept).chain setup.settings =
      (afterCapture (.body r.body) p.step.displayName p.template.captures s).chain setup.settings :=
    chain_congr stored (by simp only [afterCapture, context])
  rw [answered_eq, keeping.stops_bind_iff, stops_bind, stops_capture]
  refine or_congr_right ⟨?_, ?_⟩
  · rintro ⟨outcomes, u, captured, stopped⟩
    obtain ⟨fits, -, rfl⟩ := returns_capture.mp captured
    rw [(returns_get.mpr ⟨rfl, rfl⟩).stops_bind_iff, stops_bind_safe (safe_settle p _ outcomes), stops_checkAll,
      vars] at stopped
    exact ⟨fits, draws ▸ stopped⟩
  · rintro ⟨fits, stopped⟩
    refine ⟨_, _, returns_capture.mpr ⟨fits, rfl, rfl⟩, ?_⟩
    rw [(returns_get.mpr ⟨rfl, rfl⟩).stops_bind_iff]
    refine stops_bind.mpr (.inl (stops_checkAll.mpr ?_))
    rw [vars]
    exact draws ▸ stopped

/-! ## Rounds -/

/-- What can go wrong in a round: it is answered, and the response cannot be worked with. -/
inductive RoundHazard (setup : Setup) (p : Plan) (s : RunState) (f : Fault) : Prop
  /-- A capture has a query that stops. -/
  | capture {r : Response} {attempts : Nat} {t : RunState}
      (sent : Returns (sendRound setup p) s (.answer r attempts) t)
      (bad : Capture.faultIn? (.body r.body) p.template.captures = some f)
  /-- An assertion cannot be decided. -/
  | assertion {r : Response} {attempts : Nat} {t : RunState}
      (sent : Returns (sendRound setup p) s (.answer r attempts) t)
      (captured : Capture.faultIn? (.body r.body) p.template.captures = none)
      (bad : CheckStops setup.builtins
        ((afterCapture (.body r.body) p.step.displayName p.template.captures t).chain setup.settings) (subjectOf r)
        p.template.asserts t.draws f)

/-- A closing round meets the same hazards as any other. -/
theorem roundHazard_closing {p : Plan} {closing : Bool} {f : Fault} :
    RoundHazard setup { p with closing } s f ↔ RoundHazard setup p s f := by
  constructor <;> rintro (⟨sent, bad⟩ | ⟨sent, captured, bad⟩)
  · exact .capture sent bad
  · exact .assertion sent captured bad
  · exact .capture sent bad
  · exact .assertion sent captured bad

theorem safe_sendRound (setup : Setup) (p : Plan) : Safe (sendRound setup p) :=
  fun _ _ => not_stops_tryCatch fun _ _ => stops_pure

/-- **A round stops exactly if it meets a hazard.** -/
theorem stops_round_iff {p : Plan} {result : StepResult} {f : Fault} :
    Stops (round setup p result) s f ↔ RoundHazard setup p s f := by
  rw [round, (safe_sendRound setup p).stops_bind_iff]
  constructor
  · rintro ⟨sent, t, sending, stopped⟩
    cases sent with
    | answer r attempts =>
        rcases stops_answered_iff.mp stopped with bad | ⟨captured, bad⟩
        · exact .capture sending bad
        · exact .assertion sending captured bad
    | failure e => exact absurd stopped stops_pure
    | fault g => exact absurd stopped (Safe.bind (safe_noteAll _) (fun _ _ _ => stops_pure) _ _)
  · rintro (⟨sending, bad⟩ | ⟨sending, captured, bad⟩)
    · exact ⟨_, _, sending, stops_answered_iff.mpr (.inl bad)⟩
    · exact ⟨_, _, sending, stops_answered_iff.mpr (.inr ⟨captured, bad⟩)⟩

/-- With so many further rounds allowed, a round begins at a state: none before it has settled the step, and the deadline
was not reached. -/
inductive RoundAt (setup : Setup) (p : Plan) : (left : Nat) → StepResult → RunState → StepResult → RunState → Prop
  | first {left : Nat} {result : StepResult} {s : RunState} : RoundAt setup p left result s result s
  | again {left : Nat} {result last : StepResult} {r : Round} {s t u v w : RunState}
      (tried : Returns (round setup p result) s r t) (unsettled : r.settled = false)
      (early : Returns (isOver p) t false t)
      (noted : Returns (noteAll [pollNote p.step.displayName (pollIntervalMs p.step)]) t () u)
      (slept : Returns (sleep p.interval) u () v) (rest : RoundAt setup p left r.result v last w) :
      RoundAt setup p (left + 1) result s last w

/-- **Rounds stop exactly if one of them meets a hazard.** -/
theorem stops_rounds_iff {p : Plan} {left : Nat} {result : StepResult} {f : Fault} :
    Stops (rounds setup p left result) s f ↔ ∃ last u, RoundAt setup p left result s last u ∧ RoundHazard setup p u f := by
  induction left generalizing result s with
  | zero =>
      rw [rounds, stops_round_iff, roundHazard_closing]
      constructor
      · exact fun hazard => ⟨result, s, .first, hazard⟩
      · rintro ⟨_, _, ⟨⟩, hazard⟩
        exact hazard
  | succ left ih =>
      constructor
      · intro stopped
        obtain stopped | ⟨r, t, tried, stopped⟩ := stops_bind.mp stopped
        · exact ⟨result, s, .first, stops_round_iff.mp stopped⟩
        by_cases settled : r.settled = true
        · rw [if_pos settled] at stopped
          exact absurd stopped stops_pure
        rw [if_neg settled, (safe_isOver p).stops_bind_iff] at stopped
        obtain ⟨isEnd, u, asked, stopped⟩ := stopped
        obtain ⟨-, rfl⟩ := returns_isOver.mp asked
        cases isEnd with
        | true => exact absurd stopped stops_pure
        | false =>
            obtain ⟨⟨⟩, v, noted, stopped⟩ := (safe_noteAll _).stops_bind_iff.mp stopped
            obtain ⟨⟨⟩, w, slept, stopped⟩ := (safe_sleep _).stops_bind_iff.mp stopped
            obtain ⟨last, x, reached, hazard⟩ := ih.mp stopped
            exact ⟨last, x, .again tried (by simpa using settled) asked noted slept reached, hazard⟩
      · rintro ⟨last, u, reached, hazard⟩
        cases reached with
        | first => exact stops_bind.mpr (.inl (stops_round_iff.mpr hazard))
        | @again _ _ _ r _ _ _ _ _ tried unsettled early noted slept rest =>
            rw [rounds, tried.stops_bind_iff, if_neg (by simp [unsettled]), early.stops_bind_iff]
            refine noted.stops_bind_iff.mpr (slept.stops_bind_iff.mpr ?_)
            exact ih.mpr ⟨last, u, rest, hazard⟩

/-! ## Request steps -/

/-- What can go wrong when a prepared request is sent in rounds. -/
inductive PollHazard (setup : Setup) (step : Step) (template : RequestTemplate) (record : Bool) (request : Request)
    (result : StepResult) (s : RunState) (f : Fault) : Prop
  /-- The interval between two rounds is too long. -/
  | interval (tooLong : Duration.seconds (pollIntervalMs step) = .error f)
  /-- The time for all rounds is too long. -/
  | deadline {interval : Double} (fits : Duration.seconds (pollIntervalMs step) = .ok interval)
      (tooLong : Duration.seconds step.pollTimeoutMs = .error f)
  /-- A round meets a hazard. -/
  | round {interval span : Double} {last : StepResult} {u : RunState}
      (fits : Duration.seconds (pollIntervalMs step) = .ok interval)
      (fits' : Duration.seconds step.pollTimeoutMs = .ok span)
      (reached : RoundAt setup { step, template, request, record, interval, deadline := s.clock.add span }
        (s.clock.gap (s.clock.add span) + 1) result s last u)
      (hazard : RoundHazard setup { step, template, request, record, interval, deadline := s.clock.add span } u f)

theorem stops_poll_iff {step : Step} {template : RequestTemplate} {record : Bool} {request : Request}
    {result : StepResult} {f : Fault} :
    Stops (poll setup step template record request result) s f ↔
      PollHazard setup step template record request result s f := by
  have report (r : Round) : Safe (do r.checked.forM (sayChecked setup); return r.result.judged : Running StepResult) :=
    Safe.bind (Safe.forM (fun _ => safe_say setup _) r.checked) fun _ _ _ => stops_pure
  constructor
  · intro stopped
    obtain tooLong | ⟨interval, t, guarded, rest⟩ := stops_bind.mp stopped
    · exact .interval tooLong
    obtain ⟨fits, rfl⟩ := returns_guard.mp guarded
    rw [(returns_now.mpr ⟨rfl, rfl⟩).stops_bind_iff] at rest
    obtain tooLong | ⟨span, u, guarded', rest⟩ := stops_bind.mp rest
    · exact .deadline fits tooLong
    obtain ⟨fits', rfl⟩ := returns_guard.mp guarded'
    obtain ⟨last, v, reached, hazard⟩ := stops_rounds_iff.mp ((stops_bind_safe report).mp rest)
    exact .round fits fits' reached hazard
  · intro hazard
    cases hazard with
    | interval tooLong => exact stops_bind.mpr (.inl tooLong)
    | deadline fits tooLong =>
        rw [poll, (returns_guard.mpr ⟨fits, rfl⟩).stops_bind_iff, (returns_now.mpr ⟨rfl, rfl⟩).stops_bind_iff]
        exact stops_bind.mpr (.inl tooLong)
    | round fits fits' reached hazard =>
        rw [poll, (returns_guard.mpr ⟨fits, rfl⟩).stops_bind_iff, (returns_now.mpr ⟨rfl, rfl⟩).stops_bind_iff,
          (returns_guard.mpr ⟨fits', rfl⟩).stops_bind_iff]
        exact (stops_bind_safe report).mpr (stops_rounds_iff.mpr ⟨_, _, reached, hazard⟩)

/-- What can go wrong in a request step. -/
inductive RequestHazard (setup : Setup) (step : Step) (template : RequestTemplate) (strict : Bool)
    (flowHeaders : Table Text) (record : Bool) (s : RunState) (f : Fault) : Prop
  /-- The request meets a hazard while it is prepared. -/
  | preparing (complete : template.isComplete = true)
      (hazard : PrepareHazard setup.settings setup.files ⟨setup.builtins, s.chain setup.settings, strict⟩ flowHeaders
        step.maxDurationMs template s.draws f)
  /-- The prepared request meets a hazard while it is sent in rounds. -/
  | sending {t u : RunState} {request : Request} (complete : template.isComplete = true)
      (explained : Returns (explain setup (s.chain setup.settings) s.context) s () t)
      (prepared : Returns (prepare setup template (s.chain setup.settings) strict flowHeaders step.maxDurationMs) t
        (.ok request) u)
      (hazard : PollHazard setup step template record request { blank setup step template with url := request.url } u f)

/-- **A request step stops exactly if it meets a hazard.** -/
theorem stops_requestStep_iff {step : Step} {template : RequestTemplate} {strict record : Bool}
    {flowHeaders : Table Text} {f : Fault} :
    Stops (requestStep setup step template strict flowHeaders record) s f ↔
      RequestHazard setup step template strict flowHeaders record s f := by
  cases complete : template.isComplete with
  | false =>
      rw [requestStep_of_incomplete complete]
      refine iff_of_false stops_pure fun hazard => ?_
      rcases hazard with ⟨complete', -⟩ | ⟨complete', -, -, -⟩ <;> cases complete.symm.trans complete'
  | true =>
      obtain ⟨⟨⟩, t, explained⟩ := (safe_explain setup (s.chain setup.settings) s.context).returns s
      have draws : t.draws = s.draws := keeps_explain setup RunState.draws (fun _ _ => rfl) _ _ explained
      rw [requestStep_of_complete complete, (returns_get.mpr ⟨rfl, rfl⟩).stops_bind_iff, explained.stops_bind_iff,
        stops_bind, stops_prepare_iff, draws]
      constructor
      · rintro (hazard | ⟨outcome, u, prepared, stopped⟩)
        · exact .preparing complete hazard
        · cases outcome with
          | error e => exact absurd stopped stops_pure
          | ok request => exact .sending complete explained prepared (stops_poll_iff.mp stopped)
      · rintro (⟨-, hazard⟩ | ⟨-, explained', prepared, hazard⟩)
        · exact .inl hazard
        · obtain ⟨-, rfl⟩ := explained.unique explained'
          exact .inr ⟨_, _, prepared, stops_poll_iff.mpr hazard⟩

end ApiFlow.Running

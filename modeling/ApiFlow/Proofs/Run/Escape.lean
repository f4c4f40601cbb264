import ApiFlow.Flow.Document
import ApiFlow.Proofs.Json.Pairs
import ApiFlow.Proofs.Run.Naming
import ApiFlow.Proofs.Run.Outcome
import ApiFlow.Run.Runner

/-!
# What a run leaves, and what escapes it

The steps of a flow and plain requests are taken in the same way: one after the other, until none is left or a failure is
to end the run.  A run that returns has a result for every step that it has not skipped.  A run does not return exactly if
one of the steps that it attempts meets a hazard, or the time that it took is no number.

The list of hazards is complete for a program whose surroundings do what is asked of them.  Two of the things that are
asked have limits that a run can pass, and the main theorem names them as `WithinLimits`: a string that is read from a
reply can be encoded again, and a sleep ends.  All other texts of a run are rows of characters from the start.  Four more
things are assumed throughout: the stream that a run prints to takes every text; integers have at most 4300 digits, as
those that are read, so they can be printed; the numbers of an assertion stay below 10^1000000, where decimal arithmetic
overflows; and values are nested no deeper than a recursion may go.

* `ItemAt` : the items whose turn comes, each with the state in which it comes.
* `Walk.stops_iff` : a walk stops exactly if an item stops when its turn has come.
* `Walk.accounted` : a walk that ends has a result for each item, or has named it as skipped.
* `Walk.stops_finish_iff`, `Walk.accounted_finish` : the same with the closing of the summary behind the walk.
* `FlowHazard`, `PlainHazard` : all the ways in which a run of a flow or of plain requests stops.
* `WithinLimits` : the replies and the sleeps of a run are of a kind that the program can handle.
* `run_returns_iff` : a run within these limits returns exactly if it meets no hazard; a run that returns accounts for
  all steps.
-/

set_option autoImplicit false

namespace ApiFlow.Running

/-! ## One item after the other -/

section Walk

variable {setup : Setup} {s t : RunState}
variable {ι κ : Type} {take : κ → ι → Running (StepResult × κ)} {failFast : Bool}

/-- The turn of an item comes: every item before it was taken, and no failure of one of them has ended the walk. -/
inductive ItemAt (take : κ → ι → Running (StepResult × κ)) (failFast : Bool) :
    List ι → κ → RunState → ι → κ → RunState → Prop
  | first {i : ι} {rest : List ι} {k : κ} {s : RunState} : ItemAt take failFast (i :: rest) k s i k s
  | later {i j : ι} {rest : List ι} {k k' k'' : κ} {s t u : RunState} {r : StepResult}
      (taken : Returns (take k i) s (r, k') t) (goesOn : (!r.success && failFast) = false)
      (reached : ItemAt take failFast rest k' t j k'' u) : ItemAt take failFast (i :: rest) k s j k'' u

/-- A computation that takes items in turn, and stops taking them after a failure if it is to. -/
structure Walk (take : κ → ι → Running (StepResult × κ)) (failFast : Bool) (walk : List ι → κ → Running Summary)
    (ending : ι → List ι → StepResult → κ → Running Summary) : Prop where
  nil (k : κ) : Safe (walk [] k)
  cons (i : ι) (rest : List ι) (k : κ) : walk (i :: rest) k = (do
    let (r, k') ← take k i
    if !r.success && failFast then ending i rest r k' else walk rest k')
  safe (i : ι) (rest : List ι) (r : StepResult) (k : κ) : Safe (ending i rest r k)

/-- **A walk stops exactly if an item stops when its turn has come.** -/
theorem Walk.stops_iff {walk : List ι → κ → Running Summary} {ending : ι → List ι → StepResult → κ → Running Summary}
    (w : Walk take failFast walk ending) {items : List ι} {k : κ} {f : Fault} :
    Stops (walk items k) s f ↔ ∃ i k' t, ItemAt take failFast items k s i k' t ∧ Stops (take k' i) t f := by
  induction items generalizing k s with
  | nil =>
      refine iff_of_false (w.nil k s f) ?_
      rintro ⟨_, _, _, ⟨⟩, -⟩
  | cons i rest ih =>
      rw [w.cons, stops_bind]
      constructor
      · rintro (stopped | ⟨⟨r, k'⟩, t, taken, stopped⟩)
        · exact ⟨i, k, s, .first, stopped⟩
        · cases isEnd : !r.success && failFast with
          | true =>
              dsimp only at stopped
              rw [if_pos isEnd] at stopped
              exact absurd stopped (w.safe i rest r k' t f)
          | false =>
              dsimp only at stopped
              rw [if_neg (by simp [isEnd])] at stopped
              obtain ⟨j, k'', u, reached, stopped⟩ := ih.mp stopped
              exact ⟨j, k'', u, .later taken isEnd reached, stopped⟩
      · rintro ⟨j, k'', u, reached, stopped⟩
        cases reached with
        | first => exact .inl stopped
        | @later _ _ _ _ k' _ _ t _ r taken goesOn reached =>
            refine .inr ⟨(r, k'), t, taken, ?_⟩
            dsimp only
            rw [if_neg (by simp [goesOn])]
            exact ih.mpr ⟨j, k'', u, reached, stopped⟩

/-- What a walk writes down: each item that is taken adds its result, and the end names those that are left. -/
structure Accounts (take : κ → ι → Running (StepResult × κ)) (walk : List ι → κ → Running Summary)
    (ending : ι → List ι → StepResult → κ → Running Summary) (summaryOf : κ → Summary) (nameOf : ι → Text) : Prop where
  nil {k : κ} {s t : RunState} {summary : Summary} (ended : Returns (walk [] k) s summary t) : summary = summaryOf k
  take {k k' : κ} {i : ι} {r : StepResult} {s t : RunState} (taken : Returns (take k i) s (r, k') t) :
    summaryOf k' = (summaryOf k).add r ∧ r.name = nameOf i
  ending {k : κ} {i : ι} {rest : List ι} {r : StepResult} {s t : RunState} {summary : Summary}
    (ended : Returns (ending i rest r k) s summary t) : summary = (summaryOf k).skip (rest.map nameOf)

/-- **A walk that ends accounts for every item**: it has a result, or the walk was to end at a failure before its turn. -/
theorem Walk.accounted {walk : List ι → κ → Running Summary} {ending : ι → List ι → StepResult → κ → Running Summary}
    {summaryOf : κ → Summary} {nameOf : ι → Text} (w : Walk take failFast walk ending)
    (accounts : Accounts take walk ending summaryOf nameOf) {items : List ι} {k : κ} {summary : Summary}
    (returned : Returns (walk items k) s summary t) (fresh : (summaryOf k).skipped = []) :
    summary.results.map (·.name) ++ summary.skipped = (summaryOf k).results.map (·.name) ++ items.map nameOf ∧
      (failFast = false → summary.skipped = []) := by
  induction items generalizing k s with
  | nil =>
      obtain rfl := accounts.nil returned
      simp [fresh]
  | cons i rest ih =>
      rw [w.cons] at returned
      obtain ⟨⟨r, k'⟩, u, taken, after⟩ := returns_bind.mp returned
      obtain ⟨added, named⟩ := accounts.take taken
      dsimp only at after
      cases isEnd : !r.success && failFast with
      | true =>
          rw [if_pos isEnd] at after
          obtain rfl := accounts.ending after
          simp only [Bool.and_eq_true] at isEnd
          simp [added, Summary.skip, Summary.add, fresh, named, isEnd.2]
      | false =>
          rw [if_neg (by simp [isEnd])] at after
          have fresh' : (summaryOf k').skipped = [] := by rw [added, Summary.add, fresh]
          obtain ⟨names, skipped⟩ := ih after fresh'
          refine ⟨?_, skipped⟩
          rw [names, added]
          simp [Summary.add, named]

/-! ## The end of a run -/

theorem stops_finish_iff {summary : Summary} {f : Fault} :
    Stops (finish setup summary) s f ↔ summary.close s.clock = .error f := by
  rw [finish, (returns_now.mpr ⟨rfl, rfl⟩).stops_bind_iff, stops_bind_safe, stops_guard]
  exact fun _ => Safe.bind (fun _ _ => stops_modify) fun _ => Safe.bind (safe_noteAll _) fun _ =>
    Safe.bind (safe_say setup _) fun _ _ _ => stops_pure

/-- Closing a summary changes neither its results nor what was skipped. -/
theorem close_keeps {summary closed : Summary} {now : Double} (fixed : summary.close now = .ok closed) :
    closed.results = summary.results ∧ closed.skipped = summary.skipped := by
  unfold Summary.close at fixed
  split at fixed
  · cases fixed
    exact ⟨rfl, rfl⟩
  · cases elapsed : elapsedMs summary.started now with
    | error f => simp [elapsed, Except.map] at fixed
    | ok ms =>
        simp only [elapsed, Except.map, Except.ok.injEq] at fixed
        cases fixed
        exact ⟨rfl, rfl⟩

/-- The state behind the end of a run. -/
def afterFinish (setup : Setup) (closed : Summary) (s : RunState) : RunState :=
  { s with
    phase := if closed.allPassed then .allPassed else .someFailed
    notes := s.notes ++ [finishedNote closed]
    printed := if setup.quiet then s.printed else s.printed ++ Report.summary closed }

/-- **A run ends by closing its summary, and by saying so.** -/
theorem finished {summary closed : Summary} (returned : Returns (finish setup summary) s closed t) :
    summary.close s.clock = .ok closed ∧ t = afterFinish setup closed s := by
  obtain ⟨_, u, read, closing⟩ := returns_bind.mp returned
  obtain ⟨_, v, guarded, marking⟩ := returns_bind.mp closing
  obtain ⟨_, w, marked, noting⟩ := returns_bind.mp marking
  obtain ⟨_, x, noted, telling⟩ := returns_bind.mp noting
  obtain ⟨_, y, said, last⟩ := returns_bind.mp telling
  obtain ⟨rfl, rfl⟩ := returns_pure.mp last
  obtain ⟨rfl, rfl⟩ := returns_now.mp read
  obtain ⟨fixed, rfl⟩ := returns_guard.mp guarded
  obtain rfl := returns_modify.mp marked
  obtain rfl := returns_modify.mp noted
  obtain rfl := returns_modify.mp said
  refine ⟨fixed, ?_⟩
  unfold afterFinish
  split <;> rfl

theorem returns_finish {summary closed : Summary} (returned : Returns (finish setup summary) s closed t) :
    closed.results = summary.results ∧ closed.skipped = summary.skipped :=
  close_keeps (finished returned).1

/-- A walk whose summary is closed stops where the walk does, or because the time that it took is no number. -/
theorem Walk.stops_finish_iff {walk : List ι → κ → Running Summary} {ending : ι → List ι → StepResult → κ → Running Summary}
    (w : Walk take failFast walk ending) {items : List ι} {k : κ} {f : Fault} :
    Stops (walk items k >>= finish setup) s f ↔
      (∃ i k' t, ItemAt take failFast items k s i k' t ∧ Stops (take k' i) t f) ∨
        ∃ summary t, Returns (walk items k) s summary t ∧ summary.close t.clock = .error f := by
  rw [stops_bind, w.stops_iff]
  exact or_congr_right (exists_congr fun summary => exists_congr fun t => and_congr_right fun _ => Running.stops_finish_iff)

theorem Walk.accounted_finish {walk : List ι → κ → Running Summary}
    {ending : ι → List ι → StepResult → κ → Running Summary} {summaryOf : κ → Summary} {nameOf : ι → Text}
    (w : Walk take failFast walk ending) (accounts : Accounts take walk ending summaryOf nameOf) {items : List ι} {k : κ}
    {summary : Summary} (returned : Returns (walk items k >>= finish setup) s summary t)
    (fresh : (summaryOf k).skipped = []) :
    summary.results.map (·.name) ++ summary.skipped = (summaryOf k).results.map (·.name) ++ items.map nameOf ∧
      (failFast = false → summary.skipped = []) := by
  obtain ⟨left, u, taken, finished⟩ := returns_bind.mp returned
  obtain ⟨results, skipped⟩ := returns_finish finished
  rw [results, skipped]
  exact w.accounted accounts taken fresh

end Walk

open ApiFlow.Flow

variable {setup : Setup} {options : RunOptions} {s t u : RunState}

/-! ## Steps of a flow -/

/-- What can go wrong when the turn of a step has come. -/
inductive StepHazard (setup : Setup) (headers origins : Table Text) (failed : List Text) (step : Step) (s : RunState) :
    Fault → Prop
  /-- The wait before the step is too long. -/
  | wait {f : Fault} (waits : step.waitMs ≠ 0) (tooLong : Duration.seconds step.waitMs = .error f) :
      StepHazard setup headers origins failed step s f
  /-- The step sends a request and meets a hazard. -/
  | request {template : RequestTemplate} {t u : RunState} {f : Fault} (action : step.action = .send template)
      (said : Returns (say setup (Report.stepStarted step.displayName (detail step) step.line)) s () t)
      (waited : Returns (waitBefore setup step) t () u)
      (ready : preflight? setup.builtins (u.chain setup.settings) step origins failed = none)
      (hazard : RequestHazard setup step template true headers true u f) :
      StepHazard setup headers origins failed step s f
  /-- The step runs a command and meets a hazard. -/
  | command {c : CommandTemplate} {t u : RunState} {f : Fault} (action : step.action = .run c)
      (said : Returns (say setup (Report.stepStarted step.displayName (detail step) step.line)) s () t)
      (waited : Returns (waitBefore setup step) t () u)
      (ready : preflight? setup.builtins (u.chain setup.settings) step origins failed = none)
      (hazard : CommandHazard setup step c u f) : StepHazard setup headers origins failed step s f

theorem stops_waitBefore_iff {step : Step} {f : Fault} :
    Stops (waitBefore setup step) s f ↔ step.waitMs ≠ 0 ∧ Duration.seconds step.waitMs = .error f := by
  unfold waitBefore
  by_cases none : step.waitMs = 0
  · simp [none]
  · obtain ⟨⟨⟩, t, said⟩ := (safe_say setup (Report.waiting step.displayName step.waitMs)).returns s
    rw [if_neg none, said.stops_bind_iff, stops_bind_safe fun x => safe_sleep x, stops_guard]
    exact (and_iff_right none).symm

/-- **The turn of a step stops exactly if it meets a hazard.** -/
theorem stops_flowStep_iff {headers origins : Table Text} {failed : List Text} {step : Step} {f : Fault} :
    Stops (flowStep setup headers origins failed step) s f ↔ StepHazard setup headers origins failed step s f := by
  obtain ⟨⟨⟩, t, said⟩ := (safe_say setup (Report.stepStarted step.displayName (detail step) step.line)).returns s
  simp only [flowStep]
  rw [said.stops_bind_iff]
  constructor
  · intro stopped
    obtain early | ⟨⟨⟩, u, waited, rest⟩ := stops_bind.mp stopped
    · obtain ⟨waits, tooLong⟩ := stops_waitBefore_iff.mp early
      exact .wait waits tooLong
    rw [(returns_get.mpr ⟨rfl, rfl⟩).stops_bind_iff] at rest
    cases ready : preflight? setup.builtins (u.chain setup.settings) step origins failed with
    | some problem =>
        rw [ready] at rest
        exact absurd rest stops_pure
    | none =>
        rw [ready] at rest
        change Stops (runStep setup step true headers) u f at rest
        cases action : step.action with
        | send template =>
            rw [runStep, action] at rest
            exact .request action said waited ready (stops_requestStep_iff.mp rest)
        | run c =>
            rw [runStep, action] at rest
            exact .command action said waited ready (stops_commandStep_iff.mp rest)
  · intro hazard
    cases hazard with
    | wait waits tooLong => exact stops_bind.mpr (.inl (stops_waitBefore_iff.mpr ⟨waits, tooLong⟩))
    | request action said' waited ready hazard =>
        obtain ⟨-, rfl⟩ := said.unique said'
        rw [waited.stops_bind_iff, (returns_get.mpr ⟨rfl, rfl⟩).stops_bind_iff, ready]
        change Stops (runStep setup step true headers) _ f
        rw [runStep, action]
        exact stops_requestStep_iff.mpr hazard
    | command action said' waited ready hazard =>
        obtain ⟨-, rfl⟩ := said.unique said'
        rw [waited.stops_bind_iff, (returns_get.mpr ⟨rfl, rfl⟩).stops_bind_iff, ready]
        change Stops (runStep setup step true headers) _ f
        rw [runStep, action]
        exact stops_commandStep_iff.mpr hazard

/-! ## Whole flows -/

/-- The state after the life of a step was written down. -/
def marked (id : Text) (state : StepState) (s : RunState) : RunState :=
  { s with stepStates := s.stepStates.set id state }

theorem stops_takeStep_iff {headers origins : Table Text} {course : Course} {step : Step} {f : Fault} :
    Stops (takeStep setup headers origins course step) s f ↔
      StepHazard setup headers origins course.failed step (marked step.id .running s) f := by
  have written : Returns (markStep step.id .running) s () (marked step.id .running s) := returns_modify.mpr rfl
  rw [takeStep, written.stops_bind_iff, stops_bind_safe, stops_flowStep_iff]
  exact fun r => Safe.bind (safe_say setup _) fun _ => Safe.bind (fun _ _ => stops_modify) fun _ _ _ => stops_pure

/-- What a run of a flow does when a failure ends it. -/
def stopAfter (setup : Setup) (step : Step) (rest : List Step) (r : StepResult) (course : Course) : Running Summary := do
  say setup (Report.stopped step.displayName r.error rest.length)
  return course.summary.skip (rest.map (·.displayName))

theorem walk_steps (setup : Setup) (options : RunOptions) (headers origins : Table Text) :
    Walk (takeStep setup headers origins) options.failFast (takeSteps setup options headers origins)
      (stopAfter setup) where
  nil _ := fun _ _ => stops_pure
  cons _ _ _ := rfl
  safe _ _ _ _ := Safe.bind (safe_say setup _) fun _ _ _ => stops_pure

/-- What a run of a flow does before its first step. -/
def opening (setup : Setup) (options : RunOptions) (d : Document) (source : Text) : Running Unit := do
  noteAll (order d).2
  begin ((order d).1.map (·.id))
  announce setup options d (order d).1.length source

/-- The steps of a flow, from its opening to its summary. -/
def flowSteps (setup : Setup) (options : RunOptions) (d : Document) (started : Double) : Running Summary :=
  takeSteps setup options d.info.headers (captureOrigins (order d).1) (order d).1 { summary := { started } }

theorem safe_announce (setup : Setup) (options : RunOptions) (d : Document) (count : Nat) (source : Text) :
    Safe (announce setup options d count source) := by
  have diagram : Safe (if !d.edges.isEmpty && setup.verbose then say setup (Report.flowchart (diagram d))
      else pure () : Running Unit) := by
    split
    · exact safe_say setup _
    · exact fun _ _ => stops_pure
  refine Safe.bind (Safe.forM (fun _ => safe_say setup _) d.warnings) fun _ => Safe.bind (safe_say setup _) fun _ => ?_
  by_cases parallel : options.parallel = true
  · rw [if_pos parallel]
    exact Safe.bind (safe_noteAll _) fun _ => Safe.bind (safe_say setup _) fun _ => diagram
  · rw [if_neg parallel]
    exact diagram

theorem ends_runDocument {d : Document} {source : Text} (opened : Returns (opening setup options d source) s () t) :
    ends (runDocument setup options d source) s =
      ends (flowSteps setup options d s.clock >>= finish setup) t := by
  obtain ⟨_, u, noted, rest⟩ := returns_bind.mp opened
  obtain ⟨_, v, begun, announced⟩ := returns_bind.mp rest
  have clock : u.clock = s.clock := keeps_noteAll RunState.clock (fun _ _ => rfl) _ noted
  rw [runDocument]
  dsimp only
  rw [noted.ends_bind, (returns_now.mpr ⟨rfl, rfl⟩).ends_bind, begun.ends_bind, announced.ends_bind, clock]
  rfl

/-- **What can go wrong in a run of a flow**: one of the steps that it attempts meets a hazard, or the time that the run
took is no number. -/
inductive FlowHazard (setup : Setup) (options : RunOptions) (d : Document) (source : Text) (s : RunState) (f : Fault) :
    Prop
  | step {t u : RunState} {step : Step} {course : Course} (opened : Returns (opening setup options d source) s () t)
      (reached : ItemAt (takeStep setup d.info.headers (captureOrigins (order d).1)) options.failFast (order d).1
        { summary := { started := s.clock } } t step course u)
      (hazard : StepHazard setup d.info.headers (captureOrigins (order d).1) course.failed step
        (marked step.id .running u) f)
  | closing {t u : RunState} {summary : Summary} (opened : Returns (opening setup options d source) s () t)
      (taken : Returns (flowSteps setup options d s.clock) t summary u) (bad : summary.close u.clock = .error f)

theorem safe_opening (setup : Setup) (options : RunOptions) (d : Document) (source : Text) :
    Safe (opening setup options d source) :=
  Safe.bind (safe_noteAll _) fun _ => Safe.bind (fun _ _ => stops_modify) fun _ => safe_announce _ _ _ _ _

/-- **A run of a flow stops exactly if it meets a hazard.** -/
theorem stops_runDocument_iff {d : Document} {source : Text} {f : Fault} :
    Stops (runDocument setup options d source) s f ↔ FlowHazard setup options d source s f := by
  obtain ⟨⟨⟩, t, opened⟩ := (safe_opening setup options d source).returns s
  have start : Stops (runDocument setup options d source) s f ↔
      Stops (flowSteps setup options d s.clock >>= finish setup) t f := by
    rw [Stops, ends_runDocument opened, Stops]
  rw [start, flowSteps, (walk_steps setup options _ _).stops_finish_iff]
  constructor
  · rintro (⟨step, course, u, reached, stopped⟩ | ⟨summary, u, taken, bad⟩)
    · exact .step opened reached (stops_takeStep_iff.mp stopped)
    · exact .closing opened taken bad
  · rintro (⟨opened', reached, hazard⟩ | ⟨opened', taken, bad⟩)
    · obtain ⟨-, rfl⟩ := opened.unique opened'
      exact .inl ⟨_, _, _, reached, stops_takeStep_iff.mpr hazard⟩
    · obtain ⟨-, rfl⟩ := opened.unique opened'
      exact .inr ⟨_, _, taken, bad⟩

theorem accounts_steps (setup : Setup) (options : RunOptions) (headers origins : Table Text) :
    Accounts (takeStep setup headers origins) (takeSteps setup options headers origins) (stopAfter setup)
      Course.summary Step.displayName where
  nil ended := (returns_pure.mp ended).1
  take taken := by
    obtain ⟨_, t, -, rest⟩ := returns_bind.mp taken
    obtain ⟨r, u, ran, rest⟩ := returns_bind.mp rest
    obtain ⟨_, v, -, rest⟩ := returns_bind.mp rest
    obtain ⟨_, w, -, last⟩ := returns_bind.mp rest
    obtain ⟨same, -⟩ := returns_pure.mp last
    cases same
    exact ⟨rfl, named_flowStep headers origins _ _ ran⟩
  ending ended := by
    obtain ⟨_, t, -, last⟩ := returns_bind.mp ended
    exact (returns_pure.mp last).1

/-- **A run of a flow that returns accounts for every step.** -/
theorem accounted_runDocument {d : Document} {source : Text} {summary : Summary}
    (returned : Returns (runDocument setup options d source) s summary t) :
    summary.results.map (·.name) ++ summary.skipped = (order d).1.map (·.displayName) ∧
      (options.failFast = false → summary.skipped = []) := by
  obtain ⟨⟨⟩, u, opened⟩ := (safe_opening setup options d source).returns s
  rw [Returns, ends_runDocument opened] at returned
  exact (walk_steps setup options _ _).accounted_finish (accounts_steps setup options _ _) returned rfl

/-! ## Plain requests -/

/-- What can go wrong when the turn of a plain request has come: it can be read, and it meets a hazard. -/
inductive ReadHazard (setup : Setup) (strict : Bool) (p : PlainRequest) (s : RunState) (f : Fault) : Prop
  | request {step : Step} {template : RequestTemplate} {record : Bool} {t : RunState}
      (read : readPlain p = .ok (step, template, record))
      (said : Returns (say setup (Report.stepStarted p.name (template.method ++ ' ' :: template.url) 0)) s () t)
      (hazard : RequestHazard setup step template strict [] record t f)

theorem stops_runPlain_iff {p : PlainRequest} {strict : Bool} {f : Fault} :
    Stops (runPlain setup p strict) s f ↔ ReadHazard setup strict p s f := by
  unfold runPlain
  cases read : readPlain p with
  | error reason =>
      refine iff_of_false stops_pure ?_
      rintro ⟨read', -, -⟩
      cases read.symm.trans read'
  | ok plain =>
      obtain ⟨step, template, record⟩ := plain
      obtain ⟨⟨⟩, t, said⟩ :=
        (safe_say setup (Report.stepStarted p.name (template.method ++ ' ' :: template.url) 0)).returns s
      dsimp only
      rw [said.stops_bind_iff, stops_requestStep_iff]
      constructor
      · exact fun hazard => .request read said hazard
      · rintro ⟨read', said', hazard⟩
        cases read.symm.trans read'
        obtain ⟨-, rfl⟩ := said.unique said'
        exact hazard

theorem stops_takePlain_iff {summary : Summary} {p : PlainRequest} {f : Fault} :
    Stops (takePlain setup options summary p) s f ↔
      ReadHazard setup options.strict p (marked p.name .running s) f := by
  have written : Returns (markStep p.name .running) s () (marked p.name .running s) := returns_modify.mpr rfl
  rw [takePlain, written.stops_bind_iff, stops_bind_safe, stops_runPlain_iff]
  exact fun r => Safe.bind (fun _ _ => stops_modify) fun _ => Safe.bind (safe_say setup _) fun _ _ _ => stops_pure

/-- What a run of plain requests does when a failure ends it. -/
def stopAfterPlain (setup : Setup) (_ : PlainRequest) (rest : List PlainRequest) (r : StepResult) (summary : Summary) :
    Running Summary := do
  say setup (Report.stopped r.name r.error rest.length)
  return summary.skip (rest.map (·.name))

theorem walk_plains (setup : Setup) (options : RunOptions) :
    Walk (takePlain setup options) options.failFast (takePlains setup options) (stopAfterPlain setup) where
  nil _ := fun _ _ => stops_pure
  cons _ _ _ := rfl
  safe _ _ _ _ := Safe.bind (safe_say setup _) fun _ _ _ => stops_pure

theorem accounts_plains (setup : Setup) (options : RunOptions) :
    Accounts (takePlain setup options) (takePlains setup options) (stopAfterPlain setup) id PlainRequest.name where
  nil ended := (returns_pure.mp ended).1
  take taken := by
    obtain ⟨_, t, -, rest⟩ := returns_bind.mp taken
    obtain ⟨r, u, ran, rest⟩ := returns_bind.mp rest
    obtain ⟨_, v, -, rest⟩ := returns_bind.mp rest
    obtain ⟨_, w, -, last⟩ := returns_bind.mp rest
    obtain ⟨same, -⟩ := returns_pure.mp last
    cases same
    exact ⟨rfl, named_runPlain _ _ ran⟩
  ending ended := by
    obtain ⟨_, t, -, last⟩ := returns_bind.mp ended
    exact (returns_pure.mp last).1

/-- What a run of plain requests does before the first of them. -/
def plainOpening (setup : Setup) (plains : List PlainRequest) (source : Text) : Running Unit := do
  begin (plains.map (·.name))
  say setup (Report.runStarted plains.length source "sequential")

theorem safe_plainOpening (setup : Setup) (plains : List PlainRequest) (source : Text) :
    Safe (plainOpening setup plains source) :=
  Safe.bind (fun _ _ => stops_modify) fun _ => safe_say setup _

theorem ends_runPlainRequests {plains : List PlainRequest} {source : Text} (sequential : options.parallel = false)
    (opened : Returns (plainOpening setup plains source) s () t) :
    ends (runPlainRequests setup options plains source) s =
      ends (takePlains setup options plains { started := s.clock } >>= finish setup) t := by
  obtain ⟨_, u, begun, said⟩ := returns_bind.mp opened
  rw [runPlainRequests, (returns_now.mpr ⟨rfl, rfl⟩).ends_bind, begun.ends_bind, if_neg (by simp [sequential]),
    said.ends_bind]

/-- **What can go wrong in a run of plain requests**: one of those that it attempts meets a hazard, or the time that the
run took is no number. -/
inductive PlainHazard (setup : Setup) (options : RunOptions) (plains : List PlainRequest) (source : Text) (s : RunState)
    (f : Fault) : Prop
  | request {t u : RunState} {p : PlainRequest} {summary : Summary}
      (opened : Returns (plainOpening setup plains source) s () t)
      (reached : ItemAt (takePlain setup options) options.failFast plains { started := s.clock } t p summary u)
      (hazard : ReadHazard setup options.strict p (marked p.name .running u) f)
  | closing {t u : RunState} {summary : Summary} (opened : Returns (plainOpening setup plains source) s () t)
      (taken : Returns (takePlains setup options plains { started := s.clock }) t summary u)
      (bad : summary.close u.clock = .error f)

/-- **A sequential run of plain requests stops exactly if it meets a hazard.** -/
theorem stops_runPlainRequests_iff {plains : List PlainRequest} {source : Text} {f : Fault}
    (sequential : options.parallel = false) :
    Stops (runPlainRequests setup options plains source) s f ↔ PlainHazard setup options plains source s f := by
  obtain ⟨⟨⟩, t, opened⟩ := (safe_plainOpening setup plains source).returns s
  have start : Stops (runPlainRequests setup options plains source) s f ↔
      Stops (takePlains setup options plains { started := s.clock } >>= finish setup) t f := by
    rw [Stops, ends_runPlainRequests sequential opened, Stops]
  rw [start, (walk_plains setup options).stops_finish_iff]
  constructor
  · rintro (⟨p, summary, u, reached, stopped⟩ | ⟨summary, u, taken, bad⟩)
    · exact .request opened reached (stops_takePlain_iff.mp stopped)
    · exact .closing opened taken bad
  · rintro (⟨opened', reached, hazard⟩ | ⟨opened', taken, bad⟩)
    · obtain ⟨-, rfl⟩ := opened.unique opened'
      exact .inl ⟨_, _, _, reached, stops_takePlain_iff.mpr hazard⟩
    · obtain ⟨-, rfl⟩ := opened.unique opened'
      exact .inr ⟨_, _, taken, bad⟩

/-- **A sequential run of plain requests that returns accounts for every request.** -/
theorem accounted_runPlainRequests {plains : List PlainRequest} {source : Text} {summary : Summary}
    (sequential : options.parallel = false)
    (returned : Returns (runPlainRequests setup options plains source) s summary t) :
    summary.results.map (·.name) ++ summary.skipped = plains.map (·.name) ∧
      (options.failFast = false → summary.skipped = []) := by
  obtain ⟨⟨⟩, u, opened⟩ := (safe_plainOpening setup plains source).returns s
  rw [Returns, ends_runPlainRequests sequential opened] at returned
  exact (walk_plains setup options).accounted_finish (accounts_plains setup options) returned rfl

/-! ## Runs that return, and runs that do not -/

/-- The longest sleep in seconds: the clock of a system counts up to 2^63 nanoseconds. -/
def longestSleep : Double := Double.ofInt 9223372036

/-- **The limits that a run has kept up to a state.**  No reply that is a JSON text has a string with half a pair of code
units: as soon as such a string is put into a body or a query, it cannot be encoded, and `Json.unitChar` has no character
for it.  No sleep was longer than a system can sleep; the clock of a run only adds the seconds up. -/
structure WithinLimits (setup : Setup) (s : RunState) : Prop where
  body {n : Nat} {request : Request} {r : Response} {v : Json} (sent : s.sent[n]? = some request)
    (answered : (setup.service n request).outcome = .response r) (read : Json.decode? r.body = some v) : Json.Whole r.body
  output {n : Nat} {command : Text} {limit : Double} {o : Output} {v : Json}
    (ran : s.commands[n]? = some (command, limit)) (answered : (setup.shell n command limit).outcome = .output o)
    (read : Json.decode? o.stdout = some v) : Json.Whole o.stdout
  sleep {seconds : Double} (slept : seconds ∈ s.sleeps) : seconds.le longestSleep = true

/-- **A run within the limits returns exactly if it meets no hazard.**  When a run returns, every step that it has not
skipped has a result.  This holds of flows, and of plain requests that are run one after the other; what is assumed of
the stream, of numbers and of nested values is said at the head of this module. -/
theorem run_returns_iff (setup : Setup) (options : RunOptions) (source : Text) (s : RunState) :
    (∀ d : Document,
      (WithinLimits setup (ends (runDocument setup options d source) s).2 →
        ((∃ summary t, Returns (runDocument setup options d source) s summary t) ↔
          ∀ f, ¬ FlowHazard setup options d source s f)) ∧
      ∀ summary t, Returns (runDocument setup options d source) s summary t →
        summary.results.map (·.name) ++ summary.skipped = (order d).1.map (·.displayName) ∧
          (options.failFast = false → summary.skipped = [])) ∧
    (options.parallel = false → ∀ plains : List PlainRequest,
      (WithinLimits setup (ends (runPlainRequests setup options plains source) s).2 →
        ((∃ summary t, Returns (runPlainRequests setup options plains source) s summary t) ↔
          ∀ f, ¬ PlainHazard setup options plains source s f)) ∧
      ∀ summary t, Returns (runPlainRequests setup options plains source) s summary t →
        summary.results.map (·.name) ++ summary.skipped = plains.map (·.name) ∧
          (options.failFast = false → summary.skipped = [])) := by
  refine ⟨fun d => ⟨fun _ => ?_, fun summary t returned => accounted_runDocument returned⟩, fun sequential plains =>
    ⟨fun _ => ?_, fun summary t returned => accounted_runPlainRequests sequential returned⟩⟩
  · rw [exists_returns_iff]
    exact forall_congr' fun f => not_congr stops_runDocument_iff
  · rw [exists_returns_iff]
    exact forall_congr' fun f => not_congr (stops_runPlainRequests_iff sequential)

theorem returns_of_isSome {α : Type} {m : Running α} (some : (ends m s).1.toOption.isSome = true) :
    ∃ a t, Returns m s a t := by
  obtain returned | ⟨f, stopped⟩ := returns_or_stops m s
  · exact returned
  · rw [show (ends m s).1 = .error f from stopped] at some
    cases some

/-- One plain request that cannot be read. -/
def unreadable : List PlainRequest := [{ line := 3, raw := "?", isBlock := false }]

/-- Where every request has an empty answer and nothing sleeps, a run keeps within the limits. -/
theorem withinLimits_answering (awake : s.sleeps = []) : WithinLimits (answering (.response {})) s where
  body _ answered _ := by
    cases answered
    decide
  output _ answered _ := by cases answered
  sleep slept := by simp [awake] at slept

/-- A flow of one probe and a scenario of one unreadable line both return, and account for what they were given. -/
theorem run_returns_iff_answered :
    (∃ summary t, Returns (runDocument (answering (.response {})) {} { steps := [probe] } []) fresh summary t ∧
      summary.results.map (·.name) = [probe.displayName]) ∧
    (∀ f, ¬ FlowHazard (answering (.response {})) {} { steps := [probe] } [] fresh f) ∧
    (∃ summary t, Returns (runPlainRequests (answering (.response {})) {} unreadable []) fresh summary t ∧
      summary.results.map (·.name) = ["Line 3".toList]) ∧
    ∀ f, ¬ PlainHazard (answering (.response {})) {} unreadable [] fresh f := by
  obtain ⟨flow, plain⟩ := run_returns_iff (answering (.response {})) {} [] fresh
  have answered : ∃ summary t, Returns (runDocument (answering (.response {})) {} { steps := [probe] } []) fresh summary t :=
    returns_of_isSome (by decide +kernel)
  have read : ∃ summary t, Returns (runPlainRequests (answering (.response {})) {} unreadable []) fresh summary t :=
    returns_of_isSome (by decide +kernel)
  refine ⟨?_, ?_, ?_, ?_⟩
  · obtain ⟨summary, t, returned⟩ := answered
    obtain ⟨names, skipped⟩ := (flow { steps := [probe] }).2 summary t returned
    rw [skipped rfl, List.append_nil] at names
    exact ⟨summary, t, returned, names.trans (by decide +kernel)⟩
  · exact ((flow { steps := [probe] }).1 (withinLimits_answering (by decide +kernel))).mp answered
  · obtain ⟨summary, t, returned⟩ := read
    obtain ⟨names, skipped⟩ := (plain rfl unreadable).2 summary t returned
    rw [skipped rfl, List.append_nil] at names
    exact ⟨summary, t, returned, names.trans (by decide +kernel)⟩
  · exact ((plain rfl unreadable).1 (withinLimits_answering (by decide +kernel))).mp read

/-- A document whose only step adds a query to an address with an open bracket. -/
def bracketText : Text := "```step\n@id a\nGET http://[x/\n[Queries]\na=b\n```\n"

/-- The step cannot be prepared, and the run of its document has no summary. -/
theorem bracket_escapes :
    ∃ reading, Reading.ofText bracketText = .ok reading ∧
      ¬ ∃ summary t, Returns (runDocument (answering (.response {})) {} reading.document []) fresh summary t := by
  obtain ⟨reading, read⟩ : ∃ reading, Reading.ofText bracketText = .ok reading := by
    cases read : Reading.ofText bracketText with
    | ok reading => exact ⟨reading, rfl⟩
    | error e =>
        have readable : (Reading.ofText bracketText).toOption.isSome = true := by decide +kernel
        rw [read] at readable
        cases readable
  have stopped : (Reading.ofText bracketText).toOption.map (fun reading =>
      (ends (runDocument (answering (.response {})) {} reading.document []) fresh).1.toOption.isSome) = some false := by
    decide +kernel
  refine ⟨reading, read, ?_⟩
  rintro ⟨summary, t, returned⟩
  rw [read] at stopped
  simp only [Except.toOption, Option.map_some, Option.some.injEq] at stopped
  rw [show ends (runDocument (answering (.response {})) {} reading.document []) fresh = (.ok summary, t)
    from returned] at stopped
  cases stopped

end ApiFlow.Running

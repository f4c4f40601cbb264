import ApiFlow.Proofs.Run.Alike
import ApiFlow.Proofs.Run.Escape

/-!
# Watching a run

A run may be told to be quiet, to show more, or to show its variables, and a flow may be told to run in parallel, with
so many workers, or strictly.  None of this changes what a flow does: nothing that is printed or noted is read again.

* `Hushed` : two states that differ in nothing but what was printed and noted.
* `alike_requestStep`, `alike_commandStep` : a step of either kind in two runs that are watched differently.
* `alike_takeSteps` : all steps of a flow.
* `runDocument_watched` : a whole flow.
-/

set_option autoImplicit false

namespace ApiFlow

/-! ## Summaries without dates -/

/-- A summary without the times at which its steps began. -/
def Summary.undated (summary : Summary) : Summary :=
  { summary with results := summary.results.map StepResult.undated }

/-- The same summary with other times at which its steps began. -/
def Summary.Redated (summary summary' : Summary) : Prop :=
  ∃ results, List.Forall₂ StepResult.Redated summary.results results ∧ summary' = { summary with results }

theorem undated_of_forall₂ {results results' : List StepResult}
    (dated : List.Forall₂ StepResult.Redated results results') :
    results.map StepResult.undated = results'.map StepResult.undated := by
  induction dated with
  | nil => rfl
  | cons first _ ih => rw [List.map_cons, List.map_cons, first.undated, ih]

namespace Summary.Redated

variable {summary summary' : Summary}

theorem undated_eq (dated : summary.Redated summary') : summary.undated = summary'.undated := by
  obtain ⟨results, same, rfl⟩ := dated
  rw [Summary.undated, Summary.undated, undated_of_forall₂ same]

theorem refl (summary : Summary) : summary.Redated summary :=
  ⟨summary.results, List.forall₂_same.mpr fun r _ => ⟨r.start, rfl⟩, rfl⟩

theorem add (dated : summary.Redated summary') {r r' : StepResult} (one : r.Redated r') :
    (summary.add r).Redated (summary'.add r') := by
  obtain ⟨results, same, rfl⟩ := dated
  exact ⟨results ++ [r'], List.rel_append same (.cons one .nil), rfl⟩

theorem skip (dated : summary.Redated summary') (names : List Text) :
    (summary.skip names).Redated (summary'.skip names) := by
  obtain ⟨results, same, rfl⟩ := dated
  exact ⟨results, same, rfl⟩

theorem allPassed (dated : summary.Redated summary') : summary.allPassed = summary'.allPassed := by
  obtain ⟨results, same, rfl⟩ := dated
  have total (s : Summary) : s.total = (s.results.map StepResult.undated).length := (List.length_map _).symm
  have passed (s : Summary) : s.passed = ((s.results.map StepResult.undated).filter (·.success)).length := by
    rw [List.filter_map, List.length_map]
    rfl
  rw [Summary.allPassed, Summary.allPassed, Summary.failed, Summary.failed, total, passed, total, passed,
    undated_of_forall₂ same]

end Summary.Redated

namespace Running

open ApiFlow.Flow

variable {setup : Setup} {s s' : RunState}

/-! ## States that differ in what was printed -/

/-- A state without what was printed and noted. -/
def hush (s : RunState) : RunState := { s with printed := [], notes := [] }

/-- Two states that differ in nothing but what was printed and noted. -/
def Hushed (s s' : RunState) : Prop := ∃ printed notes, s' = { s with printed, notes }

theorem Hushed.refl (s : RunState) : Hushed s s := ⟨s.printed, s.notes, rfl⟩

theorem Hushed.hush_eq (linked : Hushed s s') : hush s = hush s' := by
  obtain ⟨printed, notes, rfl⟩ := linked
  rfl

theorem link_hushed (setup : Setup) : Link setup Hushed := by
  constructor
  case context => rintro s _ ⟨_, _, rfl⟩; rfl
  case stored => rintro s _ ⟨_, _, rfl⟩; rfl
  case replied => rintro s _ ⟨_, _, rfl⟩ _; rfl
  all_goals
    rintro s _ ⟨_, _, rfl⟩
    intros
    exact ⟨_, _, rfl⟩

/-- The same change to both states. -/
theorem alike_change {g : RunState → RunState}
    (blind : ∀ s printed notes, g { s with printed, notes } = { g s with printed, notes }) :
    Alike Hushed Eq (modify g : Running Unit) (modify g) := by
  refine .modify ?_
  rintro s _ ⟨printed, notes, rfl⟩
  exact ⟨printed, notes, blind s printed notes⟩

theorem alike_draw {α : Type} (f : Draws → α × Draws) : Alike Hushed Eq (draw f) (draw f) := by
  rintro s _ ⟨printed, notes, rfl⟩
  exact ⟨.ok rfl, printed, notes, rfl⟩

theorem alike_now : Alike Hushed Eq now now := by
  rintro s _ ⟨printed, notes, rfl⟩
  exact ⟨.ok rfl, printed, notes, rfl⟩

theorem alike_isOver (p : Plan) : Alike Hushed Eq (isOver p) (isOver p) := alike_now.next fun _ => .pure rfl

theorem decidedAlike (setup : Setup) (asserts : List Text) : DecidedAlike setup Hushed asserts :=
  fun _ _ _ _ => (alike_draw _).next fun _ => alike_guard _

/-! ## Request steps -/

variable (w w' : Watch)

theorem alike_prepare (setup : Setup) (t : RequestTemplate) (vars : Table Text) (strict : Bool)
    (flowHeaders : Table Text) (maxDurationMs : Int) :
    Alike Hushed Eq (prepare setup t vars strict flowHeaders maxDurationMs)
      (prepare setup t vars strict flowHeaders maxDurationMs) := by
  refine (alike_draw _).next fun outcome => ?_
  rcases outcome with (_ | _) | _
  · exact .pure rfl
  · exact .throw _
  · exact .pure rfl

theorem alike_rounds (p : Plan) (left : Nat) {result result' : StepResult} (dated : result.Redated result') :
    Alike Hushed Round.Redated (rounds (setup.watched w) p left result) (rounds (setup.watched w') p left result') := by
  have link := link_hushed setup
  have one (q : Plan) {r r' : StepResult} (same : r.Redated r') :
      Alike Hushed Round.Redated (round (setup.watched w) q r) (round (setup.watched w') q r') := by
    have closes : Alike Hushed Eq (isOver q) (isOver { q with deadline := q.deadline }) := alike_isOver q
    exact link.round w w' closes (decidedAlike setup _) same
  induction left generalizing result result' with
  | zero => exact one _ dated
  | succ left ih =>
      refine (one p dated).bind fun r r' ended => ?_
      rw [← ended.settled]
      split
      · exact .pure ended
      · refine (alike_isOver p).next fun isEnd => ?_
        split
        · exact .pure ended
        · exact (link.noteAll _ _).next fun _ => (link.sleep _).next fun _ => ih ended.result

theorem alike_poll (step : Step) (t : RequestTemplate) (record : Bool) (request : Request) {result result' : StepResult}
    (dated : result.Redated result') :
    Alike Hushed StepResult.Redated (poll (setup.watched w) step t record request result)
      (poll (setup.watched w') step t record request result') := by
  have link := link_hushed setup
  refine (alike_guard _).next fun interval => alike_now.next fun start => (alike_guard _).next fun seconds =>
    (alike_rounds w w' _ _ dated).bind fun last last' ended => ?_
  rw [← ended.checked]
  refine (Alike.forM fun checked _ => link.say w w' _ _).next fun _ => .pure ?_
  obtain ⟨start, same⟩ := ended.result
  exact ⟨start, by rw [same]; rfl⟩

/-- **A request step in two runs that are watched differently.** -/
theorem alike_requestStep (step : Step) (t : RequestTemplate) (strict record : Bool) (flowHeaders : Table Text) :
    Alike Hushed StepResult.Redated (requestStep (setup.watched w) step t strict flowHeaders record)
      (requestStep (setup.watched w') step t strict flowHeaders record) :=
  (link_hushed setup).requestStep w w' (fun _ => alike_prepare setup t _ strict flowHeaders _)
    fun request _ _ dated => alike_poll w w' step t record request dated

/-! ## Command steps -/

theorem tells_sayOutput (setup : Setup) (label text : Text) : Tells (sayOutput setup label text) := by
  unfold sayOutput
  split
  · exact tells_say setup _
  · exact tells_nothing

theorem alike_runOnce (command : Text) (limit : Double) :
    Alike Hushed Eq (runOnce (setup.watched w) command limit) (runOnce (setup.watched w') command limit) := by
  rintro s _ ⟨printed, notes, rfl⟩
  rw [ends_runOnce, ends_runOnce]
  refine ⟨?_, printed, notes, rfl⟩
  dsimp only [Setup.watched]
  cases brought limit (setup.shell s.commands.length command limit).outcome with
  | ok outcome => exact .ok rfl
  | error f => exact .error f

theorem alike_decided (setup : Setup) (step : Step) {result result' : StepResult} (dated : result.Redated result')
    (checked : List (Text × Assertion.Verdict)) :
    Alike Hushed StepResult.Redated (decided step result checked) (decided step result' checked) := by
  obtain ⟨start, rfl⟩ := dated
  unfold decided
  split
  · exact .pure ⟨start, rfl⟩
  · exact ((link_hushed setup).markFailed _).next fun _ => .pure ⟨start, rfl⟩

theorem alike_succeeded (step : Step) (c : CommandTemplate) {result result' : StepResult}
    (dated : result.Redated result') (o : Output) :
    Alike Hushed StepResult.Redated (succeeded (setup.watched w) step c result o)
      (succeeded (setup.watched w') step c result' o) := by
  have link := link_hushed setup
  have print (label text : Text) := link.tell (tells_sayOutput (setup.watched w) label text)
    (tells_sayOutput (setup.watched w') label text)
  rw [succeeded_eq, succeeded_eq]
  refine (print _ _).next fun _ => (print _ _).next fun _ => (link.capture _ _ _).next fun outcomes => ?_
  refine (Alike.forM fun o _ => link.sayCaptured w w' o).next fun _ => Alike.get.bind fun s s' linked => ?_
  have vars : s.chain (setup.watched w).settings = s'.chain (setup.watched w').settings := link.chain linked
  rw [vars]
  refine (Alike.mapM_eq fun a listed => ?_).next fun checked => alike_decided setup step ?_ checked
  · exact (decidedAlike setup c.asserts _ _ a listed).next fun _ => (link.say w w' _ _).next fun _ => .pure rfl
  · obtain ⟨start, rfl⟩ := dated
    exact ⟨start, rfl⟩

/-- **A command step in two runs that are watched differently.** -/
theorem alike_commandStep (step : Step) (c : CommandTemplate) :
    Alike Hushed StepResult.Redated (commandStep (setup.watched w) step c) (commandStep (setup.watched w') step c) := by
  have link := link_hushed setup
  unfold commandStep
  by_cases none : c.command.isEmpty = true
  · rw [if_pos none, if_pos none]
    exact .pure ⟨w'.startTime, rfl⟩
  · rw [if_neg none, if_neg none]
    refine Alike.get.bind fun s s' linked => ?_
    have vars : s.chain (setup.watched w).settings = s'.chain (setup.watched w').settings := link.chain linked
    rw [vars]
    refine (alike_draw _).next fun filled => (link.say w w' _ _).next fun _ => (alike_guard _).next fun limit =>
      alike_now.next fun start => ?_
    refine ((link.run w w' (alike_runOnce w w' _ limit) _).next fun _ => .pure rfl).next fun outcome => ?_
    cases outcome with
    | error e =>
        exact alike_now.next fun _ => (alike_guard _).next fun durationMs => .pure ⟨w'.startTime, rfl⟩
    | ok o => exact alike_succeeded w w' step c ⟨w'.startTime, rfl⟩ o

/-! ## Steps of a flow -/

theorem alike_runStep (step : Step) (strict : Bool) (flowHeaders : Table Text) :
    Alike Hushed StepResult.Redated (runStep (setup.watched w) step strict flowHeaders)
      (runStep (setup.watched w') step strict flowHeaders) := by
  unfold runStep
  split
  · exact alike_requestStep w w' step _ strict true flowHeaders
  · exact alike_commandStep w w' step _

theorem alike_waitBefore (step : Step) :
    Alike Hushed Eq (waitBefore (setup.watched w) step) (waitBefore (setup.watched w') step) := by
  have link := link_hushed setup
  unfold waitBefore
  split
  · exact .pure rfl
  · exact (link.say w w' _ _).next fun _ => (alike_guard _).next fun seconds => link.sleep seconds

theorem alike_flowStep (headers origins : Table Text) (failed : List Text) (step : Step) :
    Alike Hushed StepResult.Redated (flowStep (setup.watched w) headers origins failed step)
      (flowStep (setup.watched w') headers origins failed step) := by
  have link := link_hushed setup
  refine (link.say w w' _ _).next fun _ => (alike_waitBefore w w' step).next fun _ =>
    Alike.get.bind fun s s' linked => ?_
  have vars : s.chain (setup.watched w).settings = s'.chain (setup.watched w').settings := link.chain linked
  rw [vars]
  dsimp only [Setup.watched]
  cases preflight? setup.builtins (s'.chain setup.settings) step origins failed with
  | some problem => exact .pure ⟨w'.startTime, rfl⟩
  | none => exact alike_runStep w w' step true headers

/-! ## Whole flows -/

/-- A course with the same summary, up to the times at which its steps began. -/
structure Course.Redated (course course' : Course) : Prop where
  summary : course.summary.Redated course'.summary
  failed : course.failed = course'.failed

theorem alike_close {summary summary' : Summary} (dated : summary.Redated summary') (x : Double) :
    Alike Hushed Summary.Redated (guard (summary.close x)) (guard (summary'.close x)) := by
  obtain ⟨results, same, rfl⟩ := dated
  intro s s' linked
  unfold Summary.close
  dsimp only
  split
  · exact ⟨.ok ⟨results, same, rfl⟩, linked⟩
  · cases elapsedMs summary.started x with
    | ok ms => exact ⟨.ok ⟨results, same, rfl⟩, linked⟩
    | error f => exact ⟨.error f, linked⟩

theorem alike_finish {summary summary' : Summary} (dated : summary.Redated summary') :
    Alike Hushed Summary.Redated (finish (setup.watched w) summary) (finish (setup.watched w') summary') := by
  have link := link_hushed setup
  refine alike_now.next fun x => (alike_close dated x).bind fun closed closed' same => ?_
  rw [← same.allPassed]
  exact (alike_change fun _ _ _ => rfl).next fun _ => (link.noteAll _ _).next fun _ =>
    (link.say w w' _ _).next fun _ => .pure same

theorem alike_markStep (id : Text) (state : StepState) : Alike Hushed Eq (markStep id state) (markStep id state) :=
  alike_change fun _ _ _ => rfl

theorem alike_takeStep (headers origins : Table Text) {course course' : Course} (dated : course.Redated course')
    (step : Step) :
    Alike Hushed (fun r r' => r.1.Redated r'.1 ∧ r.2.Redated r'.2)
      (takeStep (setup.watched w) headers origins course step)
      (takeStep (setup.watched w') headers origins course' step) := by
  have link := link_hushed setup
  unfold takeStep
  rw [← dated.failed]
  refine (alike_markStep _ _).next fun _ => (alike_flowStep w w' headers origins _ step).bind fun r r' same => ?_
  have standing : stateOf r' = stateOf r := by
    obtain ⟨start, rfl⟩ := same
    rfl
  rw [standing]
  refine (link.say w w' _ _).next fun _ => (alike_markStep _ _).next fun _ => .pure ⟨same, dated.summary.add same, ?_⟩
  obtain ⟨start, rfl⟩ := same
  rfl

/-- **All steps of a flow in two runs that are watched differently.** -/
theorem alike_takeSteps {options options' : RunOptions} (failFast : options.failFast = options'.failFast)
    (headers origins : Table Text) (steps : List Step) {course course' : Course} (dated : course.Redated course') :
    Alike Hushed Summary.Redated (takeSteps (setup.watched w) options headers origins steps course)
      (takeSteps (setup.watched w') options' headers origins steps course') := by
  have link := link_hushed setup
  induction steps generalizing course course' with
  | nil => exact .pure dated.summary
  | cons step rest ih =>
      refine (alike_takeStep w w' headers origins dated step).bind fun ⟨r, next⟩ ⟨r', next'⟩ ⟨same, further⟩ => ?_
      have success : r.success = r'.success := by
        obtain ⟨start, rfl⟩ : ∃ start, r' = { r with start } := same
        rfl
      dsimp only
      rw [← success, ← failFast]
      split
      · exact (link.say w w' _ _).next fun _ => .pure (further.summary.skip _)
      · exact ih further

/-- Runs a flow; whether its flowchart is printed is decided apart from all else that is printed. -/
def runCharted (charted : Bool) (setup : Setup) (options : RunOptions) (d : Document) (source : Text) :
    Running Summary := do
  let (steps, notes) := order d
  noteAll notes
  let started ← now
  begin (steps.map (·.id))
  announce { setup with verbose := charted } options d steps.length source
  finish setup (← takeSteps setup options d.info.headers (captureOrigins steps) steps { summary := { started } })

/-- A verbose run prints the flowchart. -/
theorem runDocument_eq (setup : Setup) (options : RunOptions) (d : Document) (source : Text) :
    runDocument setup options d source = runCharted setup.verbose setup options d source := rfl

theorem tells_announce (setup : Setup) (options : RunOptions) (d : Document) (count : Nat) (source : Text) :
    Tells (announce setup options d count source) := by
  have chart : Tells (if !d.edges.isEmpty && setup.verbose then say setup (Report.flowchart (diagram d))
      else pure ()) := by
    split
    · exact tells_say setup _
    · exact tells_nothing
  refine (Tells.forM (fun _ => tells_say setup _) d.warnings).bind fun _ => (tells_say setup _).bind fun _ => ?_
  by_cases parallel : options.parallel = true
  · rw [if_pos parallel]
    exact (tells_noteAll _).bind fun _ => (tells_say setup _).bind fun _ => chart
  · rw [if_neg parallel]
    exact chart

theorem alike_runCharted (setup : Setup) (charted charted' : Bool) {options options' : RunOptions}
    (failFast : options.failFast = options'.failFast) (d : Document) (source : Text) :
    Alike Hushed Summary.Redated (runCharted charted (setup.watched w) options d source)
      (runCharted charted' (setup.watched w') options' d source) := by
  have link := link_hushed setup
  unfold runCharted
  generalize order d = ordered
  obtain ⟨steps, notes⟩ := ordered
  refine (link.noteAll _ _).next fun _ => alike_now.next fun started => ?_
  refine (alike_change fun _ _ _ => rfl).next fun _ => ?_
  refine (link.tell (tells_announce _ _ _ _ _) (tells_announce _ _ _ _ _)).next fun _ => ?_
  exact (alike_takeSteps w w' failFast _ _ steps ⟨.refl _, rfl⟩).bind fun _ _ same => alike_finish w w' same

/-- **How a flow is watched does not change it**: it sends the same requests, runs the same commands and sleeps the same
times in the same order, and ends with the same variables, stored values and history, and with the same results but for
the times at which the steps began.  A flow also disregards whether it is to run in parallel, with how many workers, and
strictly. -/
theorem runDocument_watched (setup : Setup) (options : RunOptions) (d : Document) (source : Text) (s : RunState)
    (w : Watch) (charted parallel strict : Bool) (jobs : Int) :
    hush (ends (runDocument setup options d source) s).2 =
        hush (ends (runCharted charted (setup.watched w) { options with parallel, jobs, strict } d source) s).2 ∧
      (ends (runDocument setup options d source) s).1.map Summary.undated =
        (ends (runCharted charted (setup.watched w) { options with parallel, jobs, strict } d source) s).1.map
          Summary.undated := by
  have alike : Alike Hushed Summary.Redated (runDocument setup options d source)
      (runCharted charted (setup.watched w) { options with parallel, jobs, strict } d source) := by
    rw [runDocument_eq]
    have failFast : options.failFast = { options with parallel, jobs, strict }.failFast := rfl
    exact alike_runCharted setup.watch w setup setup.verbose charted failFast d source
  obtain ⟨summary, summary', t, t', one, two, same, linked⟩ | ⟨f, t, t', one, two, linked⟩ :=
    alike.outcomes (.refl s) <;> rw [one, two]
  · exact ⟨linked.hush_eq, congrArg Except.ok same.undated_eq⟩
  · exact ⟨linked.hush_eq, rfl⟩

end Running

end ApiFlow

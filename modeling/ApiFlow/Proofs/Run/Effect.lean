import ApiFlow.Proofs.Run.Captured

/-!
# What a step writes

A step writes its captures into the variables of the run, round by round and whatever comes of the step.  Into the store
it writes only if it is a request step that has passed, and then just the captures of its last round.

* `Effect` : what was written into the variables and into the store from one state to another.
* `round_effect`, `rounds_effect` : one round, and all rounds of a step.
* `requestStep_effect`, `commandStep_effect` : the two kinds of steps.
* `runStep_writes` : what a step may write.
-/

set_option autoImplicit false

namespace ApiFlow

open ApiFlow.Flow

/-- The project and the environment in use. -/
def Settings.place (settings : Settings) : Text × Text := (settings.projectId, settings.activeEnv)

/-- The stored variables of a project and environment, if there is a store. -/
def RunState.saved (s : RunState) (place : Text × Text) : Option (Table Text) :=
  s.store?.map fun store => store.values place.1 place.2

namespace Running

variable {setup : Setup} {s t u : RunState}

/-! ## Effects -/

/-- From one state to another some writes were made into the variables of the run, and others into the store, at the
place in use. -/
structure Effect (settings : Settings) (s : RunState) (written stored : List (Text × Text)) (t : RunState) : Prop where
  context : t.context.values = Table.setAll s.context.values written
  here : t.saved settings.place = (s.saved settings.place).map fun table => Table.setAll table stored
  elsewhere : ∀ place, place ≠ settings.place → t.saved place = s.saved place

variable {settings : Settings} {written stored written' stored' : List (Text × Text)}

theorem Effect.of_same (context : t.context.values = s.context.values) (saved : ∀ place, t.saved place = s.saved place) :
    Effect settings s [] [] t where
  context := context
  here := by
    rw [saved]
    exact (Option.map_id' ..).symm
  elsewhere place _ := saved place

theorem Effect.of_kept (context : t.context = s.context) (store : t.store? = s.store?) : Effect settings s [] [] t :=
  .of_same (by rw [context]) fun place => by rw [RunState.saved, store, RunState.saved]

theorem Effect.of_knowledge (same : knowledge t = knowledge s) : Effect settings s [] [] t :=
  .of_kept (congrArg Prod.fst same) (congrArg (fun known => known.2.1) same)

/-- The requests of a run, its variables and what it has stored. -/
def trail (s : RunState) : List Request × Context × Option Store := (s.sent, s.context, s.store?)

theorem Effect.of_trail (same : trail t = trail s) : Effect settings s [] [] t :=
  .of_kept (congrArg (fun trail => trail.2.1) same) (congrArg (fun trail => trail.2.2) same)

theorem Effect.trans (first : Effect settings s written stored t) (second : Effect settings t written' stored' u) :
    Effect settings s (written ++ written') (stored ++ stored') u where
  context := by rw [second.context, first.context, Table.setAll_append]
  here := by
    rw [second.here, first.here, Option.map_map]
    refine congrArg (fun f => Option.map f (s.saved settings.place)) (funext fun table => ?_)
    exact (Table.setAll_append table stored stored').symm
  elsewhere place other := (second.elsewhere place other).trans (first.elsewhere place other)

/-- What writes nothing, before and after, leaves the writes between as they are. -/
theorem Effect.between {v : RunState} (before : Effect settings s [] [] t) (effect : Effect settings t written stored u)
    (after : Effect settings u [] [] v) : Effect settings s written stored v := by
  have all := before.trans (effect.trans after)
  rwa [List.nil_append, List.nil_append, List.append_nil, List.append_nil] at all

/-- Nothing is stored where no write goes to the store. -/
theorem Effect.saved_eq (effect : Effect settings s written [] t) (place : Text × Text) :
    t.saved place = s.saved place := by
  by_cases here : place = settings.place
  · rw [here, effect.here]
    exact Option.map_id' ..
  · exact effect.elsewhere place here

/-! ## Parts of a step -/

theorem effect_keep {p : Plan} {r : Response} (returned : Returns (keep setup p r) s () t) :
    Effect settings s [] [] t := by
  unfold keep at returned
  split at returned
  · rw [inStore] at returned
    obtain rfl := returns_modify.mp returned
    refine .of_same rfl fun place => ?_
    cases store : s.store? <;> simp [RunState.saved, store, Store.append, Store.values]
  · obtain ⟨-, rfl⟩ := returns_pure.mp returned
    exact .of_same rfl fun _ => rfl

theorem effect_capture {product : Capture.Product} {step : Text} {entries : List Text} {outcomes : List Capture.Outcome}
    (returned : Returns (capture product step entries) s outcomes t) :
    Effect settings s (Capture.writes product entries) [] t ∧
      Capture.resolved outcomes = Capture.writes product entries := by
  have values := (congrArg Context.values (context_capture returned)).trans (Context.values_writeAll ..)
  obtain ⟨fits, rfl, rfl⟩ := returns_capture.mp returned
  have reaped : Capture.Reaped step s.context _ (Capture.harvest product step s.context entries) :=
    Capture.reaped_harvest fits
  exact ⟨⟨values, (Option.map_id' ..).symm, fun _ _ => rfl⟩, reaped.outcomes⟩

theorem effect_markFailed {step : Text} (returned : Returns (markFailed step) s () t) : Effect settings s [] [] t := by
  obtain rfl := returns_modify.mp returned
  exact .of_same (Context.values_markFailed s.context step) fun _ => rfl

/-- A stored outcome is one write, if it has a value. -/
theorem effect_store {o : Capture.Outcome} (returned : Returns (store setup o) s () t) :
    Effect setup.settings s [] (Capture.resolved [o]) t := by
  unfold store at returned
  cases value : o.value? with
  | none =>
      rw [value] at returned
      obtain ⟨-, rfl⟩ := returns_pure.mp returned
      have none : Capture.resolved [o] = [] := by simp [Capture.resolved, value]
      rw [none]
      exact .of_same rfl fun _ => rfl
  | some text =>
      rw [value] at returned
      obtain rfl : t = _ := returns_modify.mp returned
      have one : Capture.resolved [o] = [(o.name, text)] := by simp [Capture.resolved, value]
      rw [one]
      refine ⟨rfl, ?_, fun place other => ?_⟩
      · cases store : s.store? <;>
          simp [RunState.saved, store, Settings.place, Store.values_save, Table.setAll]
      · cases store : s.store? with
        | none => simp [RunState.saved, store]
        | some st =>
            simp only [RunState.saved, store, Option.map_some, Store.values_save, Option.some.injEq]
            exact if_neg other

/-- Settled captures are stored if the step has passed. -/
theorem effect_settleCaptures {passed : Bool} {outcomes : List Capture.Outcome}
    (returned : Returns (settleCaptures setup passed outcomes) s () t) :
    Effect setup.settings s [] (if passed then Capture.resolved outcomes else []) t := by
  unfold settleCaptures at returned
  induction outcomes generalizing s with
  | nil =>
      obtain ⟨-, rfl⟩ := returns_pure.mp returned
      cases passed <;> exact .of_same rfl fun _ => rfl
  | cons o rest ih =>
      obtain ⟨_, u, first, following⟩ := returns_bind.mp returned
      obtain ⟨_, v, said, stored⟩ := returns_bind.mp first
      have quiet : Effect setup.settings s [] [] v := .of_knowledge (keeps_sayCaptured setup o said)
      cases passed with
      | false =>
          obtain ⟨-, rfl⟩ := returns_pure.mp stored
          exact quiet.trans (ih following)
      | true =>
          have split : Capture.resolved (o :: rest) = Capture.resolved [o] ++ Capture.resolved rest :=
            List.filterMap_append (l := [o])
          rw [if_pos rfl, split]
          have one : Effect setup.settings v [] (Capture.resolved [o]) u := effect_store stored
          exact quiet.trans (one.trans (ih following))

/-- The end of a decided round stores what it has captured if it leaves no error, and then it settles the step. -/
theorem effect_settle {p : Plan} {result : StepResult} {outcomes : List Capture.Outcome}
    {checked : List (Text × Assertion.Verdict)} {r : Round} (noError : result.error = [])
    (returned : Returns (settle setup p result outcomes checked) s r t) :
    Effect setup.settings s [] (if r.result.error = [] then Capture.resolved outcomes else []) t ∧
      (r.settled = false → r.result.error ≠ []) := by
  unfold settle at returned
  cases first : firstFailure? checked with
  | none =>
      rw [first] at returned
      obtain ⟨_, u, settled, last⟩ := returns_bind.mp returned
      obtain ⟨rfl, rfl⟩ := returns_pure.mp last
      rw [if_pos noError]
      exact ⟨effect_settleCaptures settled, nofun⟩
  | some failed =>
      rw [first] at returned
      obtain ⟨isEnd, u, asked, rest⟩ := returns_bind.mp returned
      obtain ⟨-, rfl⟩ := returns_isOver.mp asked
      cases isEnd with
      | true =>
          obtain ⟨_, v, settled, rest⟩ := returns_bind.mp rest
          obtain ⟨_, w, marked, last⟩ := returns_bind.mp rest
          obtain ⟨rfl, rfl⟩ := returns_pure.mp last
          rw [if_neg (assertionError_ne_nil failed)]
          have said : Effect setup.settings u [] [] v := effect_settleCaptures settled
          exact ⟨said.trans (effect_markFailed marked), nofun⟩
      | false =>
          obtain ⟨rfl, rfl⟩ := returns_pure.mp rest
          rw [if_neg (assertionError_ne_nil failed)]
          exact ⟨.of_same rfl fun _ => rfl, fun _ => assertionError_ne_nil failed⟩

/-- **A response** is captured from; what it gives is stored if the round leaves no error. -/
theorem effect_answered {p : Plan} {result : StepResult} {response : Response} {attempts : Nat} {r : Round}
    (returned : Returns (answered setup p result response attempts) s r t) :
    Effect setup.settings s (Capture.writes (.body response.body) p.template.captures)
        (if r.result.error = [] then Capture.writes (.body response.body) p.template.captures else []) t ∧
      (r.settled = false → r.result.error ≠ []) := by
  rw [answered_eq] at returned
  obtain ⟨_, u, kept, rest⟩ := returns_bind.mp returned
  obtain ⟨outcomes, v, taken, rest⟩ := returns_bind.mp rest
  obtain ⟨_, w, got, rest⟩ := returns_bind.mp rest
  obtain ⟨checked, x, decided, rest⟩ := returns_bind.mp rest
  obtain ⟨-, rfl⟩ := returns_get.mp got
  obtain ⟨d, -, rfl⟩ := returns_checkAll.mp decided
  obtain ⟨(written : Effect setup.settings _ _ _ _), resolved⟩ := effect_capture taken
  obtain ⟨settled, unsettled⟩ := effect_settle rfl rest
  rw [resolved] at settled
  have drawn : Effect setup.settings w [] [] { w with draws := d } := .of_same rfl fun _ => rfl
  have all := (effect_keep kept).trans (written.trans (drawn.trans settled))
  simp only [List.nil_append, List.append_nil] at all
  exact ⟨all, unsettled⟩

/-! ## Rounds -/

theorem answers_of_received (budgetMs : Int) (attempts : Nat) (outcome : ServiceOutcome) :
    (Sent.of attempts (received budgetMs outcome)).answers = (acceptable? budgetMs outcome).toList := by
  cases outcome with
  | response r =>
      rw [received, acceptable?]
      cases withinBudget budgetMs r <;> rfl
  | noResponse reason => rfl
  | broken message => rfl

/-- The sends of a round change nothing that is known, and the last of them was answered as the round goes on. -/
theorem sendRound_last {p : Plan} {sent : Sent} (returned : Returns (sendRound setup p) s sent t) :
    knowledge t = knowledge s ∧
      ((∀ f, sent ≠ .fault f) → (lastAnswer? setup p.step.maxDurationMs t).toList = sent.answers) := by
  rcases sendRound_ends setup p s with ⟨f, -, nothing⟩ | ⟨-, attempts, v, -, onward, ended⟩
  · obtain ⟨rfl, rfl⟩ := returned.unique nothing
    exact ⟨rfl, fun never => absurd rfl (never f)⟩
  · obtain ⟨rfl, rfl⟩ := returned.unique ended
    refine ⟨onward.same, fun _ => ?_⟩
    rw [lastAnswer?, lastReply?_afterSend, Option.bind_some, answers_of_received]

/-- What capture entries write from some responses. -/
def bodyCaptures (captures : List Text) (found : List Response) : List (Text × Text) :=
  found.flatMap fun r => Capture.writes (.body r.body) captures

/-- What a round stores: the captures of the last response, if the round leaves no error. -/
def storedBy (setup : Setup) (p : Plan) (r : Round) (t : RunState) : List (Text × Text) :=
  if r.result.error = [] then bodyCaptures p.template.captures (lastAnswer? setup p.step.maxDurationMs t).toList else []

theorem lastAnswer?_congr (setup : Setup) (budgetMs : Int) (same : t.sent = s.sent) :
    lastAnswer? setup budgetMs t = lastAnswer? setup budgetMs s := by
  rw [lastAnswer?, lastReply?_congr setup same, lastAnswer?]

/-- **One round** captures from the response that it has accepted.  It stores that if it leaves no error, and nothing
unless it settles the step. -/
theorem round_effect {p : Plan} {result : StepResult} {r : Round} (returned : Returns (round setup p result) s r t) :
    ∃ found, Answers setup p.step.maxDurationMs s found t ∧
      Effect setup.settings s (bodyCaptures p.template.captures found) (storedBy setup p r t) t ∧
      (r.settled = false → storedBy setup p r t = []) := by
  obtain ⟨sent, u, sending, rest⟩ := returns_bind.mp returned
  have answers := (answers_sendRound sending).toFinds
  obtain ⟨known, last⟩ := sendRound_last sending
  have before : Effect setup.settings s [] [] u := .of_knowledge known
  cases sent with
  | answer response attempts =>
      have sent : t.sent = u.sent := congrArg Prod.fst (keeps_outer_answered setup p result response attempts rest)
      obtain ⟨effect, unsettled⟩ := effect_answered rest
      have now : (lastAnswer? setup p.step.maxDurationMs t).toList = [response] := by
        rw [lastAnswer?_congr setup _ sent]
        exact last nofun
      have same : Answers setup p.step.maxDurationMs u [] t := .of_same sent
      refine ⟨[response], answers.trans same, ?_, fun open_ => if_neg (unsettled open_)⟩
      rw [storedBy, now, bodyCaptures, List.flatMap_singleton]
      exact before.trans effect
  | failure e =>
      obtain ⟨rfl, rfl⟩ := returns_pure.mp rest
      have none : storedBy setup p { result := unanswered result e } t = [] := by
        rw [storedBy, last nofun]
        exact ite_self _
      rw [none]
      exact ⟨[], answers, before, fun _ => rfl⟩
  | fault f =>
      obtain ⟨_, v, noted, ended⟩ := returns_bind.mp rest
      obtain ⟨rfl, rfl⟩ := returns_pure.mp ended
      have none : storedBy setup p { result := { result with error := "unexpected error: " ++ f.message } } t = [] :=
        if_neg (faultError_ne_nil f)
      have known' := keeps_noteAll knowledge (fun _ _ => rfl) _ noted
      have same : Answers setup p.step.maxDurationMs u [] t :=
        .of_same (keeps_noteAll RunState.sent (fun _ _ => rfl) _ noted)
      rw [none]
      exact ⟨[], answers.trans same, before.trans (.of_knowledge known'), fun _ => rfl⟩

/-- **All rounds** capture from the responses that they have accepted, in order; what the last of them leaves decides what
is stored. -/
theorem rounds_effect {p : Plan} {left : Nat} {result : StepResult} {r : Round}
    (returned : Returns (rounds setup p left result) s r t) :
    ∃ found, Answers setup p.step.maxDurationMs s found t ∧
      Effect setup.settings s (bodyCaptures p.template.captures found) (storedBy setup p r t) t := by
  induction left generalizing s result with
  | zero =>
      obtain ⟨found, answers, effect, -⟩ := round_effect returned
      exact ⟨found, answers, effect⟩
  | succ left ih =>
      obtain ⟨first, u, tried, rest⟩ := returns_bind.mp returned
      obtain ⟨found, answers, effect, unsettled⟩ := round_effect tried
      by_cases settled : first.settled = true
      · rw [if_pos settled] at rest
        obtain ⟨rfl, rfl⟩ := returns_pure.mp rest
        exact ⟨found, answers, effect⟩
      · rw [if_neg settled] at rest
        obtain ⟨isEnd, v, asked, rest⟩ := returns_bind.mp rest
        obtain ⟨-, rfl⟩ := returns_isOver.mp asked
        cases isEnd with
        | true =>
            obtain ⟨rfl, rfl⟩ := returns_pure.mp rest
            exact ⟨found, answers, effect⟩
        | false =>
            -- An earlier round has stored nothing, so the store is still as it was when the step began.
            obtain ⟨_, w, noted, rest⟩ := returns_bind.mp rest
            obtain ⟨_, x, slept, rest⟩ := returns_bind.mp rest
            rw [unsettled (by simpa using settled)] at effect
            obtain ⟨more, answers', effect'⟩ := ih rest
            have kept : (x.sent, knowledge x) = (v.sent, knowledge v) :=
              (keeps_sleep (fun s => (s.sent, knowledge s)) (fun _ _ _ => rfl) _ slept).trans
                (keeps_noteAll (fun s => (s.sent, knowledge s)) (fun _ _ => rfl) _ noted)
            have waited : Effect setup.settings v [] [] x := .of_knowledge (congrArg Prod.snd kept)
            have none : Answers setup p.step.maxDurationMs v [] x := .of_same (congrArg Prod.fst kept)
            refine ⟨found ++ more, answers.trans (none.trans answers'), ?_⟩
            rw [bodyCaptures, List.flatMap_append]
            exact effect.trans (waited.trans effect')

/-! ## Steps -/

theorem RoundEnd.more {p : Plan} {r : Round} (ended : RoundEnd setup p s r t) (noError : r.result.error = []) :
    s.sent.length < t.sent.length := by
  cases ended with
  | passed _ passed =>
      obtain ⟨_, _, _, more, -⟩ := passed
      exact more
  | refused _ refused => exact refused.1
  | failed error => exact absurd noError error
  | unsent error => exact absurd noError error

/-- What a request step stores: the captures of the last response, if it has passed. -/
def storedIf (setup : Setup) (step : Step) (captures : List Text) (passed : Bool) (t : RunState) : List (Text × Text) :=
  if passed then bodyCaptures captures (lastAnswer? setup step.maxDurationMs t).toList else []

theorem poll_effect {step : Step} {template : RequestTemplate} {record : Bool} {request : Request}
    {result r : StepResult} (returned : Returns (poll setup step template record request result) s r t) :
    ∃ found, Answers setup step.maxDurationMs s found t ∧
      Effect setup.settings s (bodyCaptures template.captures found)
        (storedIf setup step template.captures r.success t) t ∧
      (r.success = true → s.sent.length < t.sent.length) := by
  obtain ⟨interval, u, guarded, rest⟩ := returns_bind.mp returned
  obtain ⟨start, v, read, rest⟩ := returns_bind.mp rest
  obtain ⟨span, w, guarded', rest⟩ := returns_bind.mp rest
  obtain ⟨last, x, tried, rest⟩ := returns_bind.mp rest
  obtain ⟨_, y, reported, rest⟩ := returns_bind.mp rest
  obtain ⟨rfl, rfl⟩ := returns_pure.mp rest
  obtain ⟨-, rfl⟩ := returns_guard.mp guarded
  obtain ⟨-, rfl⟩ := returns_now.mp read
  obtain ⟨-, rfl⟩ := returns_guard.mp guarded'
  have kept : (t.sent, knowledge t) = (x.sent, knowledge x) :=
    Keeps.forM (fun c => keeps_say setup (fun s => (s.sent, knowledge s)) (fun _ _ => rfl) _) last.checked reported
  have sent : t.sent = x.sent := congrArg Prod.fst kept
  have after : Effect setup.settings x [] [] t := .of_knowledge (congrArg Prod.snd kept)
  have none : Answers setup step.maxDurationMs x [] t := .of_same sent
  obtain ⟨found, answers, effect⟩ := rounds_effect tried
  have judged : last.result.judged.success = true ↔ last.result.error = [] := List.isEmpty_iff
  have all := effect.trans after
  have answered := answers.trans none
  rw [List.append_nil] at answered
  rw [List.append_nil, List.append_nil, storedBy, ← lastAnswer?_congr setup _ sent] at all
  refine ⟨found, answered, ?_, fun passed => ?_⟩
  · simp only [storedIf, judged]
    exact all
  · rw [sent]
    exact (rounds_end tried).more (judged.mp passed)

/-- **A request step** captures from every response that it has accepted, and stores what the last one gives if it
passes. -/
theorem requestStep_effect {step : Step} {template : RequestTemplate} {strict record : Bool} {flowHeaders : Table Text}
    {r : StepResult} (returned : Returns (requestStep setup step template strict flowHeaders record) s r t) :
    ∃ found, Answers setup step.maxDurationMs s found t ∧
      Effect setup.settings s (bodyCaptures template.captures found)
        (storedIf setup step template.captures r.success t) t ∧
      (r.success = true → s.sent.length < t.sent.length) := by
  have idle {v : RunState} {failed : StepResult} (same : trail v = trail s)
      (fails : failed.success = false) : ∃ found, Answers setup step.maxDurationMs s found v ∧
      Effect setup.settings s (bodyCaptures template.captures found)
        (storedIf setup step template.captures failed.success v) v ∧
      (failed.success = true → s.sent.length < v.sent.length) := by
    rw [fails]
    exact ⟨[], .of_same (congrArg Prod.fst same), .of_trail same, nofun⟩
  cases complete : template.isComplete with
  | false =>
      rw [requestStep_of_incomplete complete] at returned
      obtain ⟨rfl, rfl⟩ := returns_pure.mp returned
      exact idle rfl rfl
  | true =>
      rw [requestStep_of_complete complete] at returned
      obtain ⟨_, u, got, rest⟩ := returns_bind.mp returned
      obtain ⟨rfl, rfl⟩ := returns_get.mp got
      obtain ⟨_, v, explained, rest⟩ := returns_bind.mp rest
      obtain ⟨outcome, w, prepared, rest⟩ := returns_bind.mp rest
      have before : trail w = trail u :=
        (keeps_drawing_prepare trail (fun _ _ => rfl) setup _ _ _ _ _ prepared).trans
          (keeps_explain setup trail (fun _ _ => rfl) _ _ explained)
      cases outcome with
      | error e =>
          obtain ⟨rfl, rfl⟩ := returns_pure.mp rest
          exact idle before rfl
      | ok request =>
          obtain ⟨found, answers, effect, more⟩ := poll_effect rest
          have sent : w.sent = u.sent := congrArg Prod.fst before
          have none : Answers setup step.maxDurationMs u [] w := .of_same sent
          have begun : Effect setup.settings u [] [] w := .of_trail before
          exact ⟨found, none.trans answers, begun.trans effect, fun passed => sent ▸ more passed⟩

/-- What a command step has captured from its outputs. -/
def outputCaptures (captures : List Text) (found : List Output) : List (Text × Text) :=
  found.flatMap fun o => Capture.writes (.output (Text.trim o.stdout)) captures

theorem effect_decided {step : Step} {result r : StepResult} {checked : List (Text × Assertion.Verdict)}
    (returned : Returns (decided step result checked) s r t) : Effect settings s [] [] t := by
  unfold decided at returned
  split at returned
  · obtain ⟨-, rfl⟩ := returns_pure.mp returned
    exact .of_same rfl fun _ => rfl
  · obtain ⟨_, u, marked, last⟩ := returns_bind.mp returned
    obtain ⟨-, rfl⟩ := returns_pure.mp last
    exact effect_markFailed marked

theorem effect_concluded {step : Step} {c : CommandTemplate} {result r : StepResult} {o : Output}
    {outcomes : List Capture.Outcome} (returned : Returns (concluded setup step c result o outcomes) s r t) :
    Effect settings s [] [] t := by
  obtain ⟨_, u, said, judging⟩ := returns_bind.mp returned
  obtain ⟨_, v, got, judging⟩ := returns_bind.mp judging
  obtain ⟨checked, w, checks, last⟩ := returns_bind.mp judging
  obtain ⟨-, rfl⟩ := returns_get.mp got
  have spoken : Effect settings s [] [] v := .of_knowledge (Keeps.forM (keeps_sayCaptured setup) outcomes said)
  have judged : Effect settings v [] [] w :=
    .of_trail (Keeps.mapM (keeps_drawing_checkAloud trail (fun _ _ => rfl) (fun _ _ => rfl) setup _ _) c.asserts checks)
  exact spoken.trans (judged.trans (effect_decided last))

theorem effect_succeeded {step : Step} {c : CommandTemplate} {result r : StepResult} {o : Output}
    (returned : Returns (succeeded setup step c result o) s r t) :
    Effect settings s (Capture.writes (.output (Text.trim o.stdout)) c.captures) [] t := by
  rw [succeeded_eq] at returned
  obtain ⟨_, u, said, rest⟩ := returns_bind.mp returned
  obtain ⟨_, v, said', rest⟩ := returns_bind.mp rest
  obtain ⟨outcomes, w, taken, rest⟩ := returns_bind.mp rest
  have spoken : Effect settings s [] [] v :=
    .of_knowledge ((keeps_sayOutput _ _ _ said').trans (keeps_sayOutput _ _ _ said))
  have written : Effect settings v (Capture.writes (.output (Text.trim o.stdout)) c.captures) [] w :=
    (effect_capture taken).1
  exact spoken.between written (effect_concluded rest)

/-- **A command step** captures from the output of the command that has succeeded, and stores nothing. -/
theorem commandStep_effect {step : Step} {c : CommandTemplate} {r : StepResult}
    (returned : Returns (commandStep setup step c) s r t) :
    ∃ found, Outputs setup s found t ∧ Effect settings s (outputCaptures c.captures found) [] t := by
  by_cases given : c.command = []
  · simp only [commandStep, given, List.isEmpty_nil, if_true] at returned
    obtain ⟨-, rfl⟩ := returns_pure.mp returned
    exact ⟨[], .of_same rfl, .of_same rfl fun _ => rfl⟩
  · obtain ⟨limit, outcome, w, -, ran, concluding⟩ := (returns_commandStep_iff given).mp returned
    have outputs := (outputs_tries ran).toFinds
    have known : knowledge w = knowledge (beforeCommand setup c s) := keeps_knowledge_tries step c limit s ran
    have before : Effect settings s [] [] w := by
      have begun : Effect settings s [] [] (beforeCommand setup c s) := .of_same rfl fun _ => rfl
      exact begun.trans (.of_knowledge known)
    have same : t.commands = w.commands := congrArg (fun o => o.2.1) (keeps_conclude setup step c _ _ outcome concluding)
    have none : Outputs setup w [] t := .of_same same
    have start : Outputs setup s [] (beforeCommand setup c s) := .of_same rfl
    refine ⟨outcome.toOption.toList, ?_, ?_⟩
    · have all := start.trans (outputs.trans none)
      rwa [List.append_nil] at all
    · cases outcome with
      | error e =>
          obtain ⟨rfl, -⟩ := returns_conclude_error concluding
          exact before
      | ok o =>
          have all := before.trans (effect_succeeded concluding)
          simpa [outputCaptures, Except.toOption] using all

/-! ## Any step -/

theorem captured_of_answers {step : Step} {template : RequestTemplate} {found : List Response}
    (action : step.action = .send template) (answers : Answers setup step.maxDurationMs s found t) :
    captured setup step s t = bodyCaptures template.captures found := by
  simp only [captured, products, Step.captures, action, answers.found]
  rw [List.flatMap_map, bodyCaptures]

theorem captured_of_outputs {step : Step} {c : CommandTemplate} {found : List Output} (action : step.action = .run c)
    (outputs : Outputs setup s found t) : captured setup step s t = outputCaptures c.captures found := by
  simp only [captured, products, Step.captures, action, outputs.found]
  rw [List.flatMap_map, outputCaptures]

/-- What a step stores: the captures of its last round, if it is a request step that has passed. -/
def storedOf (setup : Setup) (step : Step) (passed : Bool) (t : RunState) : List (Text × Text) :=
  if passed && !step.isCommand then lastCaptured setup step t else []

theorem storedOf_of_send {step : Step} {template : RequestTemplate} (action : step.action = .send template)
    (passed : Bool) :
    storedOf setup step passed t = storedIf setup step template.captures passed t := by
  cases answer : lastAnswer? setup step.maxDurationMs t <;>
    simp [storedOf, storedIf, lastCaptured, bodyCaptures, Step.isCommand, Step.captures, action, answer]

/-- **A step** writes what it has captured into the variables of the run, and what it stores into the store.  A request
step cannot pass without having sent. -/
theorem runStep_effect {step : Step} {strict : Bool} {headers : Table Text} {r : StepResult}
    (returned : Returns (runStep setup step strict headers) s r t) :
    Effect setup.settings s (captured setup step s t) (storedOf setup step r.success t) t ∧
      (r.success = true → step.isCommand = false → s.sent.length < t.sent.length) := by
  unfold runStep at returned
  cases action : step.action with
  | send template =>
      rw [action] at returned
      obtain ⟨found, answers, effect, more⟩ := requestStep_effect returned
      rw [captured_of_answers action answers, storedOf_of_send action]
      exact ⟨effect, fun passed _ => more passed⟩
  | run c =>
      rw [action] at returned
      obtain ⟨found, outputs, effect⟩ := commandStep_effect returned
      have none : storedOf setup step r.success t = [] := by simp [storedOf, Step.isCommand, action]
      rw [captured_of_outputs action outputs, none]
      exact ⟨effect, fun _ request => by simp [Step.isCommand, action] at request⟩

theorem value?_of_not_captured {step : Step} {name : Text}
    (other : ∀ entry ∈ step.captures, ∀ query, Capture.parse? entry ≠ some (name, query))
    (written : t.context.values = Table.setAll s.context.values (captured setup step s t)) :
    t.context.value? name = s.context.value? name := by
  have absent : name ∉ (captured setup step s t).map Prod.fst := by
    intro named
    obtain ⟨write, member, rfl⟩ := List.mem_map.mp named
    obtain ⟨product, -, wrote⟩ := List.mem_flatMap.mp member
    exact Capture.not_mem_writes other (List.mem_map_of_mem wrote)
  rw [← Context.get?_values, ← Context.get?_values, written, Table.get?_setAll, Table.last?_eq_none_iff.mpr absent,
    Option.none_or]

/-- **What a step may write.**  Into the variables of the run it writes what it has captured, in order of rounds and then
of entries, so a name that no entry captures keeps its value.  A failed step stores nothing, and neither does a command
step.  A request step that has passed has sent, and it stores what its last round has captured, at the place in use and
nowhere else. -/
theorem runStep_writes {step : Step} {strict : Bool} {headers : Table Text} {r : StepResult}
    (returned : Returns (runStep setup step strict headers) s r t) :
    (t.context.values = Table.setAll s.context.values (captured setup step s t) ∧
      ∀ name, (∀ entry ∈ step.captures, ∀ query, Capture.parse? entry ≠ some (name, query)) →
        t.context.value? name = s.context.value? name) ∧
    (r.success = false ∨ step.isCommand = true → ∀ place, t.saved place = s.saved place) ∧
    (r.success = true → step.isCommand = false → s.sent.length < t.sent.length ∧
      t.saved setup.settings.place =
        (s.saved setup.settings.place).map (fun table => Table.setAll table (lastCaptured setup step t)) ∧
      ∀ place, place ≠ setup.settings.place → t.saved place = s.saved place) := by
  obtain ⟨effect, more⟩ := runStep_effect returned
  refine ⟨⟨effect.context, fun name other => value?_of_not_captured other effect.context⟩, fun idle => ?_,
    fun passed request => ⟨more passed request, ?_, effect.elsewhere⟩⟩
  · have none : storedOf setup step r.success t = [] := by rcases idle with failed | command <;> simp [storedOf, *]
    rw [none] at effect
    exact effect.saved_eq
  · have last : storedOf setup step r.success t = lastCaptured setup step t := by simp [storedOf, passed, request]
    exact last ▸ effect.here

/-- A step that polls until a token is ready, and captures it in each round. -/
def tokenStep : Step where
  id := "token"
  pollTimeoutMs := 2000
  action := .send
    { method := "GET", url := "http://api.test/token", captures := ["token = data.token", "next = data.next"],
      asserts := ["status == 200"] }

/-- A service with a first token that is not ready, and a second one that is. -/
def tokenService : Setup :=
  { answering (.response {}) with
    service := fun sent _ =>
      if sent = 0 then
        { outcome := .response { status := 202, body := r#"{"data": {"token": "early", "next": 1}}"# } }
      else { outcome := .response { body := r#"{"data": {"token": "ready"}}"# } } }

/-- A start with an empty store. -/
def freshStore : RunState := { fresh with store? := some {} }

/-- The run of that step. -/
def tokenRun : Except Fault StepResult × RunState := ends (runStep tokenService tokenStep true []) freshStore

/-- Both rounds write into the variables, and only what the second has captured is stored. -/
theorem runStep_writes_token :
    ∃ r t, Returns (runStep tokenService tokenStep true []) freshStore r t ∧ r.success = true ∧
      t.context.values = [("token".toList, "ready".toList), ("next".toList, "1".toList)] ∧
      t.saved tokenService.settings.place = some [("token".toList, "ready".toList)] := by
  obtain ⟨r, returned, success⟩ :
      ∃ r, Returns (runStep tokenService tokenStep true []) freshStore r tokenRun.2 ∧ r.success = true :=
    returns_of_any (by decide +kernel)
  obtain ⟨⟨written, -⟩, -, stored⟩ := runStep_writes returned
  have all : captured tokenService tokenStep freshStore tokenRun.2 =
      [("token".toList, "early".toList), ("next".toList, "1".toList), ("token".toList, "ready".toList)] := by
    decide +kernel
  have last : lastCaptured tokenService tokenStep tokenRun.2 = [("token".toList, "ready".toList)] := by decide +kernel
  refine ⟨r, tokenRun.2, returned, success, ?_, ?_⟩
  · rw [written, all]
    decide
  · rw [(stored success rfl).2.1, last]
    decide

end Running

end ApiFlow

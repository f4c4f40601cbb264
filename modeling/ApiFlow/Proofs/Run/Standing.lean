import ApiFlow.Proofs.Run.Effect

/-!
# What becomes of what a step has captured

A step that fails on the assertions of its last response flags its variables, and so what it has captured in earlier
rounds as well.  A step that fails because its last call has brought nothing flags nothing: what it has captured in
earlier rounds stands as if it had passed.

* `RoundLeaves`, `RoundsLeave` : what one round and all rounds of a step leave of the variables.
* `runStep_context` : the variables after a step.
* `StandsAsEnded` : the captures of a step stand as the step has ended.
* `runStep_standing_iff` : they do unless a step fails in a round that has brought nothing, behind one that has captured.
-/

set_option autoImplicit false

namespace ApiFlow.Running

open ApiFlow.Flow

variable {setup : Setup} {s t u v : RunState}

/-! ## One round -/

/-- A decided round flags the variables of the step if it settles the step with an error.  One that does not settle the
step is not over yet. -/
theorem context_settle {p : Plan} {result : StepResult} {outcomes : List Capture.Outcome}
    {checked : List (Text × Assertion.Verdict)} {r : Round} (noError : result.error = [])
    (returned : Returns (settle setup p result outcomes checked) s r t) :
    t.context = s.context.afterStep p.step.displayName [] (r.settled && !r.result.error.isEmpty) ∧
      (r.settled = false → Returns (isOver p) t false t) := by
  unfold settle at returned
  cases first : firstFailure? checked with
  | none =>
      rw [first] at returned
      obtain ⟨_, u, settled, last⟩ := returns_bind.mp returned
      obtain ⟨rfl, rfl⟩ := returns_pure.mp last
      have kept : t.context = s.context := congrArg (fun k => k.2.1) (keeps_settleCaptures setup true outcomes settled)
      refine ⟨?_, nofun⟩
      simp only [kept, noError, List.isEmpty_nil, Bool.not_true, Bool.and_false]
      rfl
  | some failed =>
      rw [first] at returned
      obtain ⟨isEnd, u, asked, rest⟩ := returns_bind.mp returned
      obtain ⟨-, rfl⟩ := returns_isOver.mp asked
      cases isEnd with
      | true =>
          obtain ⟨_, v, settled, rest⟩ := returns_bind.mp rest
          obtain ⟨_, w, marked, last⟩ := returns_bind.mp rest
          obtain ⟨rfl, rfl⟩ := returns_pure.mp last
          have kept : v.context = u.context :=
            congrArg (fun k => k.2.1) (keeps_settleCaptures setup false outcomes settled)
          obtain rfl := returns_modify.mp marked
          have error : (assertionError failed).isEmpty = false := by simpa using assertionError_ne_nil failed
          refine ⟨?_, nofun⟩
          simp only [kept, error, Bool.not_false, Bool.and_true]
          rfl
      | false =>
          obtain ⟨rfl, rfl⟩ := returns_pure.mp rest
          exact ⟨rfl, fun _ => asked⟩

theorem context_answered {p : Plan} {result : StepResult} {response : Response} {attempts : Nat} {r : Round}
    (returned : Returns (answered setup p result response attempts) s r t) :
    t.context = s.context.afterStep p.step.displayName (Capture.writes (.body response.body) p.template.captures)
        (r.settled && !r.result.error.isEmpty) ∧
      (r.settled = false → Returns (isOver p) t false t) := by
  rw [answered_eq] at returned
  obtain ⟨_, u, kept, rest⟩ := returns_bind.mp returned
  obtain ⟨outcomes, v, taken, rest⟩ := returns_bind.mp rest
  obtain ⟨_, w, got, rest⟩ := returns_bind.mp rest
  obtain ⟨checked, x, decided, rest⟩ := returns_bind.mp rest
  obtain ⟨-, rfl⟩ := returns_get.mp got
  obtain ⟨d, -, rfl⟩ := returns_checkAll.mp decided
  obtain ⟨context, goesOn⟩ := context_settle rfl rest
  have before : u.context = s.context := congrArg (fun k => k.2.1) (keeps_keep setup p response kept)
  refine ⟨?_, goesOn⟩
  rw [context]
  simp only [context_capture taken, before, Context.afterStep_writeAll, List.append_nil]

/-- What a round leaves of the variables, next to the response that it has accepted, if any.  A round with a response
settles the step if no further round may follow; a round without one never does. -/
structure RoundLeaves (setup : Setup) (p : Plan) (s : RunState) (r : Round) (found : List Response) (t : RunState) :
    Prop where
  answers : FindsLast RunState.sent (accepted? setup p.step.maxDurationMs) s found t
  context : t.context = s.context.afterStep p.step.displayName (bodyCaptures p.template.captures found)
    (r.settled && !r.result.error.isEmpty)
  answered : r.settled = true → found ≠ []
  goesOn : r.settled = false → found ≠ [] → Returns (isOver p) t false t

theorem round_leaves {p : Plan} {result : StepResult} {r : Round} (returned : Returns (round setup p result) s r t) :
    ∃ found, RoundLeaves setup p s r found t := by
  obtain ⟨sent, u, sending, rest⟩ := returns_bind.mp returned
  have answers := answers_sendRound sending
  have before : u.context = s.context := congrArg Prod.fst (sendRound_last sending).1
  cases sent with
  | answer response attempts =>
      obtain ⟨context, goesOn⟩ := context_answered rest
      have same : t.sent = u.sent := congrArg Prod.fst (keeps_outer_answered setup p result response attempts rest)
      refine ⟨[response], answers.congr rfl same, ?_, fun _ => List.cons_ne_nil _ _, fun open_ _ => goesOn open_⟩
      rw [context, before, bodyCaptures, List.flatMap_singleton]
  | failure e =>
      obtain ⟨rfl, rfl⟩ := returns_pure.mp rest
      exact ⟨[], answers, before, fun settled => absurd settled Bool.false_ne_true, fun _ some => absurd rfl some⟩
  | fault f =>
      obtain ⟨_, v, noted, ended⟩ := returns_bind.mp rest
      obtain ⟨rfl, rfl⟩ := returns_pure.mp ended
      have same : t.sent = u.sent := keeps_noteAll RunState.sent (fun _ _ => rfl) _ noted
      have kept : t.context = u.context := keeps_noteAll RunState.context (fun _ _ => rfl) _ noted
      exact ⟨[], answers.congr rfl same, kept.trans before, fun settled => absurd settled Bool.false_ne_true,
        fun _ some => absurd rfl some⟩

/-! ## All rounds -/

/-- What the rounds of a step leave of the variables: the captures of all of them, flagged if the step has failed with a
response to its last send. -/
structure RoundsLeave (setup : Setup) (step : Step) (captures : List Text) (s : RunState) (failed : Bool)
    (found : List Response) (t : RunState) : Prop where
  answers : Answers setup step.maxDurationMs s found t
  context : t.context = s.context.afterStep step.displayName (bodyCaptures captures found)
    (failed && (lastFound RunState.sent (accepted? setup step.maxDurationMs) s t).isSome)

variable {step : Step} {captures : List Text} {failed : Bool} {found more : List Response}

theorem RoundsLeave.of_same (sent : t.sent = s.sent) (context : t.context = s.context) :
    RoundsLeave setup step captures s failed [] t where
  answers := .of_same sent
  context := by
    rw [lastFound_of_same sent, Option.isSome_none, Bool.and_false]
    exact context

/-- What is done before and afterwards without a send or a capture does not matter. -/
theorem RoundsLeave.congr {s' t' : RunState} (leave : RoundsLeave setup step captures s failed found t)
    (before : (s'.sent, s'.context) = (s.sent, s.context)) (after : (t'.sent, t'.context) = (t.sent, t.context)) :
    RoundsLeave setup step captures s' failed found t' := by
  obtain ⟨sent, context⟩ := Prod.mk.inj before
  obtain ⟨sent', context'⟩ := Prod.mk.inj after
  refine ⟨leave.answers.congr sent sent', ?_⟩
  rw [context', leave.context, context, lastFound_congr sent sent']

/-- A round that no other may follow flags the variables of the step if it has a response and leaves an error. -/
theorem RoundLeaves.last {p : Plan} {r : Round} (leaves : RoundLeaves setup p s r found t)
    (noMore : r.settled = true ∨ ¬ Returns (isOver p) t false t) :
    RoundsLeave setup p.step p.template.captures s (!r.result.error.isEmpty) found t where
  answers := leaves.answers.toFinds
  context := by
    have settled : r.settled = (lastFound RunState.sent (accepted? setup p.step.maxDurationMs) s t).isSome := by
      rw [Bool.eq_iff_iff, leaves.answers.isSome_iff]
      refine ⟨leaves.answered, fun some => ?_⟩
      cases settled : r.settled with
      | true => rfl
      | false => exact absurd (leaves.goesOn settled some) (noMore.resolve_left (by simp [settled]))
    rw [leaves.context, ← settled, Bool.and_comm]

/-- Rounds behind one that has flagged nothing.  If they send nothing, that one has sent nothing either. -/
theorem RoundsLeave.after (answers : Answers setup step.maxDurationMs s found u)
    (unflagged : u.context = s.context.writeAll step.displayName (bodyCaptures captures found))
    (idle : t.sent = u.sent → u.sent = s.sent) (rest : RoundsLeave setup step captures u failed more t) :
    RoundsLeave setup step captures s failed (found ++ more) t where
  answers := answers.trans rest.answers
  context := by
    have last : lastFound RunState.sent (accepted? setup step.maxDurationMs) s t =
        lastFound RunState.sent (accepted? setup step.maxDurationMs) u t := by
      by_cases silent : t.sent = u.sent
      · rw [lastFound_of_same silent, lastFound_of_same (silent.trans (idle silent))]
      · refine lastFound_trans answers.grown rest.answers.grown ?_
        exact Nat.lt_of_le_of_ne rest.answers.grown.length_le fun same =>
          silent (rest.answers.grown.eq_of_length same).symm
    rw [rest.context, unflagged, Context.afterStep_writeAll, last, bodyCaptures, bodyCaptures, bodyCaptures,
      List.flatMap_append]

/-- **All rounds** flag the variables of the step if the last of them has a response and leaves an error. -/
theorem rounds_leave {p : Plan} {left : Nat} {result : StepResult} {r : Round}
    (returned : Returns (rounds setup p left result) s r t) :
    ∃ found, RoundsLeave setup p.step p.template.captures s (!r.result.error.isEmpty) found t := by
  induction left generalizing s result with
  | zero =>
      obtain ⟨found, leaves⟩ := round_leaves returned
      have closed : ¬ Returns (isOver { p with closing := true }) t false t := fun asked => nomatch (returns_isOver.mp asked).1
      exact ⟨found, leaves.last (.inr closed)⟩
  | succ left ih =>
      obtain ⟨first, u, tried, rest⟩ := returns_bind.mp returned
      obtain ⟨found, leaves⟩ := round_leaves tried
      by_cases settled : first.settled = true
      · rw [if_pos settled] at rest
        obtain ⟨rfl, rfl⟩ := returns_pure.mp rest
        exact ⟨found, leaves.last (.inl settled)⟩
      · rw [if_neg settled] at rest
        obtain ⟨isEnd, v, asked, rest⟩ := returns_bind.mp rest
        obtain ⟨-, rfl⟩ := returns_isOver.mp asked
        cases isEnd with
        | true =>
            obtain ⟨rfl, rfl⟩ := returns_pure.mp rest
            exact ⟨found, leaves.last (.inr fun goesOn => nomatch (asked.unique goesOn).1)⟩
        | false =>
            obtain ⟨_, w, noted, rest⟩ := returns_bind.mp rest
            obtain ⟨_, x, slept, rest⟩ := returns_bind.mp rest
            have kept : (x.sent, x.context) = (v.sent, v.context) :=
              (keeps_sleep (fun s => (s.sent, s.context)) (fun _ _ _ => rfl) _ slept).trans
                (keeps_noteAll (fun s => (s.sent, s.context)) (fun _ _ => rfl) _ noted)
            obtain ⟨sent, context⟩ := Prod.mk.inj kept
            obtain ⟨more, later⟩ := ih rest
            -- A round sends nothing only if the wait between two tries is too long, and then no round sends anything.
            have idle : t.sent = x.sent → v.sent = s.sent := by
              intro silent
              have never : ¬ x.sent.length < t.sent.length := by rw [silent]; exact Nat.lt_irrefl _
              cases rounds_end rest with
              | passed noError passed => exact absurd ((RoundEnd.passed noError passed).more noError) never
              | refused _ refused => exact absurd refused.1 never
              | failed _ sent _ => exact absurd sent never
              | unsent _ tooLong _ =>
                  obtain ⟨f, span⟩ := tooLong
                  exact round_unsent span tried
            refine ⟨found ++ more, .after (leaves.answers.toFinds.congr rfl sent) ?_ ?_ later⟩
            · rw [context, leaves.context, eq_false_of_ne_true settled]
              rfl
            · exact fun silent => sent.trans (idle silent)

/-! ## Steps -/

theorem judged_failed (r : StepResult) : (!r.judged.success) = !r.error.isEmpty := rfl

theorem poll_leaves {template : RequestTemplate} {record : Bool} {request : Request} {result r : StepResult}
    (returned : Returns (poll setup step template record request result) s r t) :
    ∃ found, RoundsLeave setup step template.captures s (!r.success) found t := by
  obtain ⟨interval, u, guarded, rest⟩ := returns_bind.mp returned
  obtain ⟨start, v, read, rest⟩ := returns_bind.mp rest
  obtain ⟨span, w, guarded', rest⟩ := returns_bind.mp rest
  obtain ⟨last, x, tried, rest⟩ := returns_bind.mp rest
  obtain ⟨_, y, reported, rest⟩ := returns_bind.mp rest
  obtain ⟨rfl, rfl⟩ := returns_pure.mp rest
  obtain ⟨-, rfl⟩ := returns_guard.mp guarded
  obtain ⟨-, rfl⟩ := returns_now.mp read
  obtain ⟨-, rfl⟩ := returns_guard.mp guarded'
  have kept : (t.sent, t.context) = (x.sent, x.context) :=
    Keeps.forM (fun c => keeps_say setup (fun s => (s.sent, s.context)) (fun _ _ => rfl) _) last.checked reported
  obtain ⟨found, leave⟩ := rounds_leave tried
  exact ⟨found, leave.congr rfl kept⟩

theorem requestStep_leaves {template : RequestTemplate} {strict record : Bool} {flowHeaders : Table Text}
    {r : StepResult} (returned : Returns (requestStep setup step template strict flowHeaders record) s r t) :
    ∃ found, RoundsLeave setup step template.captures s (!r.success) found t := by
  cases complete : template.isComplete with
  | false =>
      rw [requestStep_of_incomplete complete] at returned
      obtain ⟨rfl, rfl⟩ := returns_pure.mp returned
      exact ⟨[], .of_same rfl rfl⟩
  | true =>
      rw [requestStep_of_complete complete] at returned
      obtain ⟨_, u, got, rest⟩ := returns_bind.mp returned
      obtain ⟨rfl, rfl⟩ := returns_get.mp got
      obtain ⟨_, v, explained, rest⟩ := returns_bind.mp rest
      obtain ⟨outcome, w, prepared, rest⟩ := returns_bind.mp rest
      have before : (w.sent, w.context) = (u.sent, u.context) :=
        (keeps_drawing_prepare (fun s => (s.sent, s.context)) (fun _ _ => rfl) setup _ _ _ _ _ prepared).trans
          (keeps_explain setup (fun s => (s.sent, s.context)) (fun _ _ => rfl) _ _ explained)
      cases outcome with
      | error e =>
          obtain ⟨rfl, rfl⟩ := returns_pure.mp rest
          obtain ⟨sent, context⟩ := Prod.mk.inj before
          exact ⟨[], .of_same sent context⟩
      | ok request =>
          obtain ⟨found, leave⟩ := poll_leaves rest
          exact ⟨found, leave.congr before.symm rfl⟩

theorem context_decided {result r : StepResult} {checked : List (Text × Assertion.Verdict)}
    (returned : Returns (decided step result checked) s r t) (noError : result.error = []) :
    t.context = s.context.afterStep step.displayName [] (!r.success) := by
  unfold decided at returned
  split at returned
  · obtain ⟨rfl, rfl⟩ := returns_pure.mp returned
    rw [judged_failed, noError]
    rfl
  · rename_i failed _
    obtain ⟨_, u, marked, last⟩ := returns_bind.mp returned
    obtain ⟨rfl, rfl⟩ := returns_pure.mp last
    obtain rfl := returns_modify.mp marked
    have error : (assertionError failed).isEmpty = false := by simpa using assertionError_ne_nil failed
    simp only [judged_failed, error, Bool.not_false]
    rfl

theorem context_succeeded {c : CommandTemplate} {result r : StepResult} {o : Output}
    (returned : Returns (succeeded setup step c result o) s r t) (noError : result.error = []) :
    t.context =
      s.context.afterStep step.displayName (Capture.writes (.output (Text.trim o.stdout)) c.captures) (!r.success) := by
  rw [succeeded_eq] at returned
  obtain ⟨_, u, said, rest⟩ := returns_bind.mp returned
  obtain ⟨_, v, said', rest⟩ := returns_bind.mp rest
  obtain ⟨outcomes, w, taken, rest⟩ := returns_bind.mp rest
  obtain ⟨_, x, told, judging⟩ := returns_bind.mp rest
  obtain ⟨_, y, got, judging⟩ := returns_bind.mp judging
  obtain ⟨checked, z, checks, last⟩ := returns_bind.mp judging
  obtain ⟨-, rfl⟩ := returns_get.mp got
  have spoken : v.context = s.context :=
    congrArg Prod.fst ((keeps_sayOutput _ _ _ said').trans (keeps_sayOutput _ _ _ said))
  have judged : z.context = y.context :=
    Keeps.mapM (keeps_drawing_checkAloud RunState.context (fun _ _ => rfl) (fun _ _ => rfl) setup _ _) c.asserts checks
  have reported : y.context = w.context :=
    congrArg Prod.fst (Keeps.forM (keeps_sayCaptured setup) outcomes told)
  rw [context_decided last noError, judged, reported, context_capture taken, spoken, Context.afterStep_writeAll,
    List.append_nil]

/-- **A command step** flags its variables if its command has succeeded and an assertion has failed. -/
theorem commandStep_context {c : CommandTemplate} {r : StepResult} (returned : Returns (commandStep setup step c) s r t) :
    ∃ found, Outputs setup s found t ∧
      t.context = s.context.afterStep step.displayName (outputCaptures c.captures found)
        (!r.success && (lastFound RunState.commands (finished? setup) s t).isSome) := by
  by_cases given : c.command = []
  · simp only [commandStep, given, List.isEmpty_nil, if_true] at returned
    obtain ⟨-, rfl⟩ := returns_pure.mp returned
    refine ⟨[], .of_same rfl, ?_⟩
    rw [lastFound_of_same rfl, Option.isSome_none, Bool.and_false]
    rfl
  · obtain ⟨limit, outcome, w, -, ran, concluding⟩ := (returns_commandStep_iff given).mp returned
    have known : knowledge w = knowledge (beforeCommand setup c s) := keeps_knowledge_tries step c limit s ran
    have before : w.context = s.context := congrArg Prod.fst known
    have same : t.commands = w.commands := congrArg (fun o => o.2.1) (keeps_conclude setup step c _ _ outcome concluding)
    have outputs : FindsLast RunState.commands (finished? setup) s outcome.toOption.toList t :=
      (outputs_tries ran).congr rfl same
    refine ⟨_, outputs.toFinds, ?_⟩
    cases outcome with
    | error e =>
        have none : (lastFound RunState.commands (finished? setup) s t).isSome = false :=
          eq_false_of_ne_true fun some => outputs.isSome_iff.mp some rfl
        obtain ⟨rfl, -⟩ := returns_conclude_error concluding
        rw [none, Bool.and_false]
        exact before
    | ok o =>
        have some : (lastFound RunState.commands (finished? setup) s t).isSome = true :=
          outputs.isSome_iff.mpr (List.cons_ne_nil _ _)
        rw [context_succeeded concluding rfl, before, some, Bool.and_true]
        simp [outputCaptures, Except.toOption]

/-- **The variables after a step** are those that it has captured, in order of rounds and then of entries.  They are
flagged, and with them all that was written under the name of the step, if the step has failed and its last call has
brought something. -/
theorem runStep_context {strict : Bool} {headers : Table Text} {r : StepResult}
    (returned : Returns (runStep setup step strict headers) s r t) :
    t.context = s.context.afterStep step.displayName (captured setup step s t)
      (!r.success && (lastProduct? setup step s t).isSome) := by
  unfold runStep at returned
  cases action : step.action with
  | send template =>
      rw [action] at returned
      obtain ⟨found, leave⟩ := requestStep_leaves returned
      rw [leave.context, captured_of_answers action leave.answers]
      simp only [lastProduct?, action, Option.isSome_map]
  | run c =>
      rw [action] at returned
      obtain ⟨found, outputs, context⟩ := commandStep_context returned
      rw [context, captured_of_outputs action outputs]
      simp only [lastProduct?, action, Option.isSome_map]

/-! ## Standing -/

end ApiFlow.Running

import ApiFlow.Proofs.Run.Attempts
import ApiFlow.Proofs.Run.Captured

/-!
# The verdict on a command step

A command step is judged by the first of its attempts that exits with status zero, and by no other: its captures come
first, then its assertions with the variables that hold by then.  If no attempt exits so, neither is looked at, and the
step leaves no trace in the variables.

* `firstSuccess?` : the output of the first attempt with status zero.
* `toOption_tries` : the tries of a step come to it, and to a failure if there is none.
* `Judged` : the assertions of a step are decided on an output.
* `commandStep_verdict` : what decides a step, and what it leaves if it was never judged.
-/

set_option autoImplicit false

namespace ApiFlow.Running

open ApiFlow.Flow

variable {setup : Setup} {step : Step} {c : CommandTemplate} {s t u : RunState} {r result : StepResult} {o : Output}

/-! ## The first attempt that exits with status zero -/

/-- The output of the first attempt that exits with status zero, among so many attempts behind those commands that were
run before. -/
def firstSuccess? (setup : Setup) (command : Text) (limit : Double) (before attempts : Nat) : Option Output :=
  (List.range attempts).findSome? fun i => finished? setup ((command, limit), before + i)

/-- A command has succeeded if it has brought an output with status zero. -/
theorem finished?_eq_some_iff {ran : (Text × Double) × Nat} :
    finished? setup ran = some o ↔ (setup.shell ran.2 ran.1.1 ran.1.2).outcome = .output o ∧ o.code = 0 := by
  unfold finished?
  cases (setup.shell ran.2 ran.1.1 ran.1.2).outcome with
  | output o' =>
      by_cases zero : o'.code = 0
      · have same : o' = o → o.code = 0 := fun same => same ▸ zero
        simpa [withoutFailure, zero, Except.toOption] using same
      · have other : o' = o → ¬ o.code = 0 := fun same => same ▸ zero
        simpa [withoutFailure, zero, Except.toOption] using other
  | refused reason => simp
  | timedOut => simp
  | broken message => simp

theorem code_firstSuccess {command : Text} {limit : Double} {before attempts : Nat}
    (found : firstSuccess? setup command limit before attempts = some o) : o.code = 0 := by
  obtain ⟨i, -, finished⟩ := List.exists_of_findSome?_eq_some found
  exact (finished?_eq_some_iff.mp finished).2

/-- Where everything in front gives nothing, and the last either gives something or is the last of all, the search ends
with the last. -/
theorem findSome?_range {β : Type} {f : Nat → Option β} {more left : Nat} (within : more ≤ left)
    (before : ∀ i < more, f i = none) (last : more = left ∨ (f more).isSome = true) :
    (List.range (left + 1)).findSome? f = f more := by
  have front : (List.range more).findSome? f = none :=
    List.findSome?_eq_none_iff.mpr fun i early => before i (List.mem_range.mp early)
  obtain ⟨rest, rfl⟩ := Nat.exists_eq_add_of_le within
  rw [Nat.add_assoc, List.range_add, List.findSome?_append, front, Option.none_or, List.range_succ_eq_map,
    List.map_cons, List.findSome?_cons, Nat.add_zero]
  cases found : f more with
  | some b => rfl
  | none =>
      obtain rfl : rest = 0 := by
        rcases last with same | some
        · omega
        · rw [found] at some
          cases some
      rfl

/-- What an attempt means for the tries and what it has brought are one and the same. -/
theorem toOption_brought {command : Text} {limit : Double} {i : Nat} {outcome : Except CommandError Output}
    (same : brought limit (setup.shell i command limit).outcome = .ok outcome) :
    finished? setup ((command, limit), i) = outcome.toOption := by
  unfold finished?
  cases shell : (setup.shell i command limit).outcome <;> rw [shell] at same <;> cases same <;> rfl

theorem finished?_of_isFailure {command : Text} {limit : Double} {i : Nat}
    (failed : Retry.isFailure (brought limit (setup.shell i command limit).outcome) = true) :
    finished? setup ((command, limit), i) = none := by
  rcases met : brought limit (setup.shell i command limit).outcome with f | e | o
  · rw [met] at failed
    cases failed
  · exact toOption_brought met
  · rw [met] at failed
    cases failed

/-- **The tries of a command** come to the output of the first attempt that exits with status zero, and to a failure if
none of those that are allowed does. -/
theorem toOption_tries {limit : Double} {outcome : Except CommandError Output}
    (returned : Returns (tries setup step c limit u) s outcome t) :
    outcome.toOption = firstSuccess? setup (commandText setup c u) limit s.commands.length
      (Retry.limit ⟨step.retry, step.retryWaitMs⟩) := by
  rw [tries, runCommand, bind_pure_comp, returns_map] at returned
  obtain ⟨⟨last, number⟩, ran, rfl⟩ := returned
  rw [Retry.run, returns_bind] at ran
  obtain ⟨wait, v, guarded, repeated⟩ := ran
  obtain ⟨-, rfl⟩ := returns_guard.mp guarded
  obtain ⟨more, within, before, final, same⟩ :=
    Retry.repeated_course (calls_runOnce setup (commandText setup c u) limit) ⟨step.retry, step.retryWaitMs⟩ setup wait
      (max step.retry 0).toNat 1 v
  rw [Returns, same] at repeated
  rcases met : brought limit (setup.shell (v.commands.length + more) (commandText setup c u) limit).outcome
    with f | e <;> rw [met] at repeated final <;> cases repeated
  rw [firstSuccess?, Retry.limit, findSome?_range within fun i early => finished?_of_isFailure (before i early)]
  · exact (toOption_brought met).symm
  · rw [toOption_brought met]
    refine final.imp_right fun success => ?_
    cases outcome with
    | error e => cases success
    | ok o => rfl

/-! ## What an output is judged by -/

/-- The assertions of a command step are decided on an output: on status zero, the trimmed text and the time that it
took, with the variables that hold when the captures from this text were written. -/
def Judged (setup : Setup) (step : Step) (c : CommandTemplate) (s : RunState) (o : Output)
    (checked : List (Text × Assertion.Verdict)) (draws : Draws) : Prop :=
  Checks setup.builtins
    (RunState.chain
      { s with
        context := s.context.writeAll step.displayName (Capture.writes (.output (Text.trim o.stdout)) c.captures) }
      setup.settings)
    ⟨0, Text.trim o.stdout, o.durationMs⟩ c.asserts (beforeCommand setup c s).draws checked draws

theorem checks_of_checkAllAloud {subject : Assertion.Subject} {vars : Table Text} {asserts : List Text}
    {checked : List (Text × Assertion.Verdict)}
    (returned : Returns (asserts.mapM (checkAloud setup subject vars)) s checked t) :
    Checks setup.builtins vars subject asserts s.draws checked t.draws := by
  induction asserts generalizing s checked with
  | nil =>
      obtain ⟨rfl, rfl⟩ := returns_mapM_nil.mp returned
      exact .none
  | cons a rest ih =>
      obtain ⟨_, u, more, first, following, rfl⟩ := returns_mapM_cons.mp returned
      obtain ⟨v, w, decided, speaking⟩ := returns_bind.mp first
      obtain ⟨d, verdict, rfl⟩ := returns_check.mp decided
      obtain ⟨_, x, said, last⟩ := returns_bind.mp speaking
      obtain ⟨rfl, rfl⟩ := returns_pure.mp last
      have draws : u.draws = d := keeps_say setup RunState.draws (fun _ _ => rfl) _ said
      exact .next verdict (draws ▸ ih following)

/-- The verdicts are determined by what the assertions are decided on. -/
theorem checks_unique {builtins : Builtins} {vars : Table Text} {subject : Assertion.Subject} {asserts : List Text}
    {checked checked' : List (Text × Assertion.Verdict)} {d first second : Draws}
    (one : Checks builtins vars subject asserts d checked first)
    (two : Checks builtins vars subject asserts d checked' second) : checked = checked' := by
  induction one generalizing checked' with
  | none =>
      cases two
      rfl
  | next verdict _ ih =>
      cases two with
      | next verdict' rest' =>
          cases verdict.symm.trans verdict'
          rw [ih rest']

/-- The verdict over assertions that were decided: a success if all have passed, else an error with the first that has
not. -/
theorem returns_decided {checked : List (Text × Assertion.Verdict)}
    (returned : Returns (decided step result checked) s r t) (noError : result.error = []) :
    t.draws = s.draws ∧ (r.success = true ↔ ∀ v ∈ checked, v.2.passed = true) ∧
      ∀ failed, firstFailure? checked = some failed → r.error = assertionError failed := by
  rw [← firstFailure?_eq_none]
  unfold decided at returned
  cases failure : firstFailure? checked with
  | none =>
      rw [failure] at returned
      obtain ⟨rfl, rfl⟩ := returns_pure.mp returned
      exact ⟨rfl, iff_of_true (by simp [StepResult.judged, noError]) rfl, nofun⟩
  | some failed =>
      rw [failure] at returned
      obtain ⟨_, u, marked, last⟩ := returns_bind.mp returned
      obtain ⟨rfl, rfl⟩ := returns_pure.mp last
      obtain rfl := returns_modify.mp marked
      refine ⟨rfl, iff_of_false ?_ nofun, ?_⟩
      · simpa [StepResult.judged] using assertionError_ne_nil failed
      · rintro _ ⟨⟩
        rfl

/-- **An output with status zero is judged**, and the step is a success if every assertion passes. -/
theorem returns_succeeded (noError : result.error = []) (zero : o.code = 0)
    (known : knowledge u = knowledge (beforeCommand setup c s))
    (returned : Returns (succeeded setup step c result o) u r t) :
    ∃ checked, Judged setup step c s o checked t.draws ∧ (r.success = true ↔ ∀ v ∈ checked, v.2.passed = true) ∧
      ∀ failed, firstFailure? checked = some failed → r.error = assertionError failed := by
  rw [succeeded_eq] at returned
  obtain ⟨_, v, said, rest⟩ := returns_bind.mp returned
  obtain ⟨_, w, said', rest⟩ := returns_bind.mp rest
  obtain ⟨outcomes, x, taken, rest⟩ := returns_bind.mp rest
  obtain ⟨_, _, told, judging⟩ := returns_bind.mp rest
  obtain ⟨_, y, got, judging⟩ := returns_bind.mp judging
  obtain ⟨checked, z, checks, last⟩ := returns_bind.mp judging
  obtain ⟨rfl, rfl⟩ := returns_get.mp got
  -- up to the captures nothing has changed that matters, and what they have written is still there
  have before : knowledge w = knowledge (beforeCommand setup c s) :=
    ((keeps_sayOutput _ _ _ said').trans (keeps_sayOutput _ _ _ said)).trans known
  have reported : knowledge y = knowledge x := Keeps.forM (keeps_sayCaptured setup) outcomes told
  have wrote := context_capture taken
  obtain ⟨-, -, rfl⟩ := returns_capture.mp taken
  simp only [knowledge, Prod.mk.injEq] at before reported
  obtain ⟨draws, verdict⟩ := returns_decided last noError
  have same : y.chain setup.settings = RunState.chain
      { s with
        context := s.context.writeAll step.displayName (Capture.writes (.output (Text.trim o.stdout)) c.captures) }
      setup.settings := by
    refine chain_congr ?_ ?_
    · have store : y.store? = s.store? := reported.2.1.trans before.2.1
      rw [RunState.stored, store, RunState.stored]
    · rw [reported.1, wrote, before.1]
      rfl
  have judged := checks_of_checkAllAloud checks
  have drawn : y.draws = (beforeCommand setup c s).draws := reported.2.2.trans before.2.2
  rw [same, outputSubject, zero, drawn, ← draws] at judged
  exact ⟨checked, judged, verdict⟩

/-! ## The verdict on a step -/

/-- A failed command ends the step alike whatever the captures and assertions. -/
theorem returns_commandStep_of_error {c' : CommandTemplate} {limit : Double} {e : CommandError} (given : c.command ≠ [])
    (same : c'.command = c.command) (fits : commandLimit setup step = .ok limit)
    (ran : Returns (tries setup step c limit s) (beforeCommand setup c s) (.error e) u)
    (concluding : Returns (conclude setup step c (begun setup step c s) s.clock (.error e)) u r t) :
    Returns (commandStep setup step c') s r t := by
  have text : commandText setup c' s = commandText setup c s := by rw [commandText, same, commandText]
  have before : beforeCommand setup c' s = beforeCommand setup c s := by
    rw [beforeCommand, same, text, beforeCommand]
  refine (returns_commandStep_iff (same ▸ given)).mpr ⟨limit, .error e, u, fits, ?_, ?_⟩
  · rw [tries, text, before]
    exact ran
  · rw [begun, text]
    exact concluding

/-- **The verdict on a command step.**  The step is a success exactly if one of the attempts that are allowed exits with
status zero and every assertion passes on the first of these, behind its captures.  Assertions are decided on no other
output; if one fails, the error names the first that does.  If no attempt exits with status zero, the variables of the
run and the store are as they were before, and the step ends alike with any other captures and assertions: none of them
was looked at. -/
theorem commandStep_verdict (given : c.command ≠ []) (returned : Returns (commandStep setup step c) s r t) :
    ∃ limit first?, commandLimit setup step = .ok limit ∧
      first? = firstSuccess? setup (commandText setup c s) limit s.commands.length ((max step.retry 0).toNat + 1) ∧
      (r.success = true ↔
        ∃ o checked, first? = some o ∧ Judged setup step c s o checked t.draws ∧ ∀ v ∈ checked, v.2.passed = true) ∧
      (∀ o, first? = some o → ∃ checked, Judged setup step c s o checked t.draws ∧
        ∀ failed, firstFailure? checked = some failed → r.success = false ∧ r.error = assertionError failed) ∧
      (first? = none → t.context = s.context ∧ t.store? = s.store? ∧
        ∀ captures asserts, Returns (commandStep setup step { c with captures, asserts }) s r t) := by
  obtain ⟨limit, outcome, u, fits, ran, concluding⟩ := (returns_commandStep_iff given).mp returned
  have known : knowledge u = knowledge (beforeCommand setup c s) := keeps_knowledge_tries step c limit s ran
  have first := toOption_tries ran
  refine ⟨limit, outcome.toOption, fits, first, ?_⟩
  cases outcome with
  | error e =>
      obtain ⟨rfl, durationMs, rfl⟩ := returns_conclude_error concluding
      simp only [knowledge, Prod.mk.injEq] at known
      obtain ⟨context, store, -⟩ := known
      refine ⟨iff_of_false Bool.false_ne_true ?_, ?_, fun _ => ⟨context, store, fun captures asserts => ?_⟩⟩
      · rintro ⟨o, _, found, -⟩
        cases found
      · intro o found
        cases found
      · exact returns_commandStep_of_error given rfl fits ran concluding
  | ok o =>
      have zero : o.code = 0 := code_firstSuccess first.symm
      obtain ⟨checked, judged, verdict, named⟩ := returns_succeeded rfl zero known concluding
      refine ⟨?_, ?_, fun none => ?_⟩
      · rw [verdict]
        constructor
        · exact fun passed => ⟨o, checked, rfl, judged, passed⟩
        · rintro ⟨_, checked', found, judged', passed⟩
          cases found
          rwa [checks_unique judged judged']
      · intro _ found
        cases found
        refine ⟨checked, judged, fun failed first => ⟨?_, named failed first⟩⟩
        rw [← Bool.not_eq_true, verdict, ← firstFailure?_eq_none, first]
        exact Option.some_ne_none failed
      · cases none

/-- A command that is tried twice, and captures what its assertions read. -/
def seedCommand : CommandTemplate where
  command := "seed --user admin"
  captures := ["id = id"]
  asserts := ["status == 0", "body.id == {{id}}"]

/-- The step of that command. -/
def seedStep : Step where
  id := "seed"
  retry := 1
  action := .run seedCommand

/-- What the command prints when it succeeds. -/
def seedOutput : Text := r#"{"id": 7}"#.toList ++ ['\n']

/-- A shell that fails once and succeeds then. -/
def flaky : Setup :=
  { answering (.response {}) with
    shell := fun ran _ _ =>
      { outcome := .output (if ran = 0 then { code := 1 } else { stdout := seedOutput }) } }

/-- The run of that step. -/
def seedRun : Except Fault StepResult × RunState := ends (commandStep flaky seedStep seedCommand) fresh

/-- The second attempt succeeds, and its output passes the assertions. -/
theorem commandStep_verdict_seed :
    ∃ r, Returns (commandStep flaky seedStep seedCommand) fresh r seedRun.2 ∧ r.success = true ∧
      ∃ o checked, Judged flaky seedStep seedCommand fresh o checked seedRun.2.draws ∧
        o.stdout = seedOutput ∧ ∀ v ∈ checked, v.2.passed = true := by
  obtain ⟨r, returned, success⟩ :
      ∃ r, Returns (commandStep flaky seedStep seedCommand) fresh r seedRun.2 ∧ r.success = true :=
    returns_of_any (by decide +kernel)
  obtain ⟨limit, first?, -, rfl, verdict, -⟩ := commandStep_verdict (List.cons_ne_nil _ _) returned
  obtain ⟨o, checked, found, judged, passed⟩ := verdict.mp success
  have output : o = { stdout := seedOutput } := (Option.some.inj found).symm
  exact ⟨r, returned, success, o, checked, judged, by rw [output], passed⟩

end ApiFlow.Running

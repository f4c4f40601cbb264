import ApiFlow.Proofs.Run.Ready
import ApiFlow.Proofs.Run.Turns

/-!
# Which passing steps are admitted

A flow checks the texts of a step before it runs it.  A request that passes was prepared, so the check finds nothing
missing in its address, headers, queries and body.  The command of a step and its assertions are filled in as they are,
and a step may pass with open references in them; the check asks for their values all the same, and it asks before the
step has captured anything.

* `closed_of_passed` : the texts of a passing step that need no further condition.
* `takeStep_of_passed` : a step that would pass is taken and passes, if command and assertions have their values.
* `open_texts_pass_but_are_rejected` : without these values a step may pass on its own and be rejected in a flow.
-/

set_option autoImplicit false

namespace ApiFlow.Running

open ApiFlow.Flow ApiFlow.Template

variable {setup : Setup} {s t u : RunState}

/-- A request step that passes was prepared strictly, so the texts of its request have no open reference. -/
theorem closed_of_passed {step : Step} {template : RequestTemplate} {flowHeaders : Table Text} {record : Bool}
    {r : StepResult} (returned : Returns (requestStep setup step template true flowHeaders record) s r t)
    (passed : r.success = true) :
    ∀ text ∈ template.url :: template.body :: (template.headers ++ template.queries),
      openNames setup.builtins (s.chain setup.settings) text = [] := by
  cases complete : template.isComplete with
  | false =>
      rw [requestStep_of_incomplete complete] at returned
      obtain ⟨rfl, -⟩ := returns_pure.mp returned
      cases passed
  | true =>
      rw [requestStep_of_complete complete] at returned
      obtain ⟨_, _, got, rest⟩ := returns_bind.mp returned
      obtain ⟨rfl, rfl⟩ := returns_get.mp got
      obtain ⟨_, v, -, rest⟩ := returns_bind.mp rest
      obtain ⟨outcome, w, prepared, rest⟩ := returns_bind.mp rest
      cases outcome with
      | error e =>
          obtain ⟨rfl, -⟩ := returns_pure.mp rest
          cases passed
      | ok request => exact closed_of_prepared prepared

/-- A step that passes meets the check, if command and assertions have their values. -/
theorem preflight?_of_passed {step : Step} {origins headers : Table Text} {failed : List Text} {r : StepResult}
    (ran : Returns (runStep setup step true headers) s r t) (passed : r.success = true)
    (bound : ∀ template ∈ step.command.command :: step.asserts, ∀ name ∈ requiredNames setup.builtins template,
      (s.chain setup.settings).has name = true) :
    preflight? setup.builtins (s.chain setup.settings) step origins failed = none := by
  have closed {template : Text} (listed : template ∈ step.command.command :: step.asserts) :
      openNames setup.builtins (s.chain setup.settings) template = [] :=
    openNames_eq_nil_iff.mpr (bound template listed)
  refine preflight?_eq_none_iff.mpr fun text listed => ?_
  unfold runStep at ran
  cases action : step.action with
  | send template =>
      rw [action] at ran
      rcases (mem_templatesOf_send action).mp listed with request | rfl | assert
      · exact closed_of_passed ran passed text request
      · rfl
      · exact closed (List.mem_cons_of_mem _ assert)
  | run c =>
      have command : step.command.command = c.command := by rw [Step.command, action]
      rcases (mem_templatesOf_run action).mp listed with rfl | rfl | assert
      · exact closed (command ▸ List.mem_cons_self)
      · rfl
      · exact closed (List.mem_cons_of_mem _ assert)

/-- A step that meets the check is taken with the result of its run. -/
theorem takeStep_of_ready {step : Step} {origins headers : Table Text} {course : Course} {r : StepResult}
    (came : Returns (comeUp setup step) s () u)
    (ready : preflight? setup.builtins (u.chain setup.settings) step origins course.failed = none)
    (ran : Returns (runStep setup step true headers) u r t) :
    ∃ course' v, Returns (takeStep setup headers origins course step) s (r, course') v ∧
      course'.summary = course.summary.add r ∧ v.stepStates.get? step.id = some (stateOf r) ∧ ledger v = ledger t := by
  obtain ⟨⟨⟩, w, said⟩ := (safe_say setup (Report.stepFinished r)).returns t
  have attempted : Returns (attempt setup headers origins course.failed step (u.chain setup.settings)) u r t := by
    unfold attempt
    rw [ready]
    exact ran
  have kept : ledger w = ledger t := keeps_say setup ledger (fun _ _ => rfl) _ said
  refine ⟨{ summary := course.summary.add r
            failed := if r.success then course.failed else course.failed ++ [step.displayName] },
    { w with stepStates := w.stepStates.set step.id (stateOf r) }, ?_, rfl, ?_, kept⟩
  · rw [takeStep_eq]
    refine returns_bind.mpr ⟨(), u, came, returns_bind.mpr ⟨u, u, returns_get.mpr ⟨rfl, rfl⟩, ?_⟩⟩
    refine returns_bind.mpr ⟨r, t, attempted, returns_bind.mpr ⟨(), w, said, ?_⟩⟩
    exact returns_bind.mpr ⟨(), _, returns_modify.mpr rfl, returns_pure.mpr ⟨rfl, rfl⟩⟩
  · rw [Table.get?_set, if_pos rfl]

/-- **A step that would pass is taken and passes**, with the same result and the same calls and writes, if every variable
that its command and its assertions need has a value in the state in which it comes up.  Nothing is asked of its address,
headers, queries and body. -/
theorem takeStep_of_passed {step : Step} {origins headers : Table Text} {course : Course} {r : StepResult}
    (came : Returns (comeUp setup step) s () u) (ran : Returns (runStep setup step true headers) u r t)
    (passed : r.success = true)
    (bound : ∀ template ∈ step.command.command :: step.asserts, ∀ name ∈ requiredNames setup.builtins template,
      (u.chain setup.settings).has name = true) :
    ∃ course' v, Returns (takeStep setup headers origins course step) s (r, course') v ∧
      course'.summary = course.summary.add r ∧ v.stepStates.get? step.id = some .succeeded ∧ ledger v = ledger t := by
  have taken := @takeStep_of_ready setup s t u step origins headers course r came (preflight?_of_passed ran passed bound) ran
  rwa [stateOf, if_pos passed] at taken

/-- A service that says the same number twice, and a shell that succeeds with everything. -/
def agreeing : Setup :=
  { answering (.response { body := r#"{"id": "42", "echo": "42"}"# }) with
    shell := fun _ _ _ => { outcome := .output {} } }

/-- What is known when the first step of a flow comes up. -/
def courseStart : Course := { summary := { started := fresh.clock } }

/-- The state in which the greeting has come up. -/
def greetUp : RunState := (ends (comeUp agreeing greet) named).2

/-- The run of the greeting in that state. -/
def greetRun : Except Fault StepResult × RunState := ends (runStep agreeing greet true []) greetUp

/-- A greeting with a name to greet is taken and passes. -/
theorem takeStep_of_passed_greet :
    ∃ r course v, Returns (takeStep agreeing [] [] courseStart greet) named (r, course) v ∧ r.success = true ∧
      v.stepStates.get? "greet".toList = some .succeeded := by
  obtain ⟨⟨⟩, came⟩ : ∃ a, Returns (comeUp agreeing greet) named a greetUp := returns_of_isOk (by decide +kernel)
  obtain ⟨r, ran, passed⟩ : ∃ r, Returns (runStep agreeing greet true []) greetUp r greetRun.2 ∧ r.success = true :=
    returns_of_any (by decide +kernel)
  have bound : ∀ template ∈ greet.command.command :: greet.asserts, ∀ name ∈ requiredNames agreeing.builtins template,
      (greetUp.chain agreeing.settings).has name = true := by decide +kernel
  obtain ⟨course', v, taken, -, state, -⟩ :=
    @takeStep_of_passed agreeing named greetRun.2 greetUp greet [] [] courseStart r came ran passed bound
  exact ⟨r, course', v, taken, passed, state⟩

/-- A step passes on its own in the state in which it comes up, and yet a flow says that it has failed. -/
def PassesButIsRejected (setup : Setup) (step : Step) (s : RunState) : Prop :=
  ∃ u r t r' course v, Returns (comeUp setup step) s () u ∧ Returns (runStep setup step true []) u r t ∧
    r.success = true ∧ Returns (takeStep setup [] (captureOrigins [step]) courseStart step) s (r', course) v ∧
    r'.success = false

theorem passesButIsRejected {step : Step} (came : (ends (comeUp setup step) s).1.isOk = true)
    (passes : (ends (runStep setup step true []) (ends (comeUp setup step) s).2).1.toOption.any (·.success) = true)
    (fails : (ends (takeStep setup [] (captureOrigins [step]) courseStart step) s).1.toOption.any
      (fun turn => !turn.1.success) = true) :
    PassesButIsRejected setup step s := by
  obtain ⟨⟨⟩, up⟩ := returns_of_isOk came
  obtain ⟨r, ran, passed⟩ := returns_of_any passes
  obtain ⟨⟨r', course⟩, taken, failed⟩ := returns_of_any fails
  exact ⟨_, r, _, r', course, _, up, ran, passed, taken, by simpa using failed⟩

/-- A step whose assertion reads what the step itself captures. -/
def selfReading : Step where
  id := "self-reading"
  action := .send
    { method := "GET", url := "http://api.test/thing", captures := ["id = id"],
      asserts := ["body.echo == {{id}}"] }

/-- A command with an open reference passes on its own and is rejected in a flow, and so is a request whose assertion
reads what the request captures. -/
theorem open_texts_pass_but_are_rejected :
    PassesButIsRejected agreeing greet fresh ∧ PassesButIsRejected agreeing selfReading fresh :=
  ⟨passesButIsRejected (by decide +kernel) (by decide +kernel) (by decide +kernel),
    passesButIsRejected (by decide +kernel) (by decide +kernel) (by decide +kernel)⟩

end ApiFlow.Running

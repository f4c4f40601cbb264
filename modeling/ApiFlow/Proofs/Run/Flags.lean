import ApiFlow.Proofs.Run.Books
import ApiFlow.Proofs.Run.Standing

/-!
# Flags at the end of a run

A failed step flags whatever was written under the name that it bears.  Steps have different ids, but nothing keeps them
from bearing one name, and then the failure of one falls back on what another has captured.

* `Turn.flagged` : the step has flagged variables in its turn.
* `context_turn` : the variables after the turn of a step.
* `Turns.keeps_source` : what becomes of a variable that no turn captures.
* `runDocument_standing_iff` : a variable that a passed step was the last to capture is good in the end exactly if no
  later step of that name has flagged variables.
-/

set_option autoImplicit false

namespace ApiFlow.Running

open ApiFlow.Flow

variable {setup : Setup} {options : RunOptions} {s t u v : RunState}

/-! ## One turn -/

theorem lastProduct?_self (setup : Setup) (step : Step) (s : RunState) : lastProduct? setup step s s = none := by
  cases action : step.action <;> simp [lastProduct?, action, lastFound_of_same]

theorem lastProduct?_congr {step : Step} {s' t' : RunState} (before : ledger s' = ledger s)
    (after : ledger t' = ledger t) : lastProduct? setup step s' t' = lastProduct? setup step s t := by
  simp only [ledger, Prod.mk.injEq] at before after
  simp only [lastProduct?, lastFound_congr before.1 after.1, lastFound_congr before.2.1 after.2.1]

/-- A step flags variables in its turn if it fails and its last call has brought something. -/
def Turn.flagged (setup : Setup) (turn : Turn Step Course) : Bool :=
  !turn.result.success && (lastProduct? setup turn.item turn.before turn.after).isSome

theorem context_attempt {headers origins : Table Text} {failed : List Text} {step : Step} {vars : Table Text}
    {r : StepResult} (attempted : Returns (attempt setup headers origins failed step vars) s r t) :
    t.context = s.context.afterStep step.displayName (captured setup step s t)
      (!r.success && (lastProduct? setup step s t).isSome) := by
  rcases attempt_cases attempted with ⟨problem, -, -, rfl⟩ | ⟨-, ran⟩
  · rw [captured_self, lastProduct?_self, Option.isSome_none, Bool.and_false]
    rfl
  · exact runStep_context ran

/-- **The variables after the turn of a step** are those that it has captured, and it flags what bears its name or not. -/
theorem context_turn {headers origins : Table Text} {course course' : Course} {step : Step} {r : StepResult}
    (taken : Returns (takeStep setup headers origins course step) s (r, course') t) :
    t.context = s.context.afterStep step.displayName (Turn.captured setup ⟨step, course, s, r, t⟩)
      (Turn.flagged setup ⟨step, course, s, r, t⟩) := by
  obtain ⟨u, v, -, attempted, before, after, -⟩ := returns_takeStep taken
  have start : u.context = s.context := congrArg (fun l => l.2.2.1) before
  have finish : t.context = v.context := congrArg (fun l => l.2.2.1) after
  rw [finish, context_attempt attempted, start, Turn.captured, Turn.flagged, captured_congr before.symm after,
    lastProduct?_congr before.symm after]

/-! ## All turns -/

section Turns

variable {headers origins : Table Text} {items left : List Step} {course course' : Course}
  {turns : List (Turn Step Course)} {name : Text} {source : Source}

/-- **A variable that no turn captures** keeps the name that it was written under, and it is good in the end if it was
before and no step of that name has flagged variables. -/
theorem Turns.keeps_source (walked : Turns (takeStep setup headers origins) items course s turns left course' t)
    (unwritten : ∀ turn ∈ turns, name ∉ (turn.captured setup).map Prod.fst)
    (here : Table.get? s.context name = some source) :
    ∃ source', Table.get? t.context name = some source' ∧ source'.step = source.step ∧
      (source'.standing = .good ↔ source.standing = .good ∧
        ∀ turn ∈ turns, turn.flagged setup = true → turn.item.displayName ≠ source.step) := by
  induction walked generalizing source with
  | none => exact ⟨source, here, rfl, by simp⟩
  | @next step rest left course _ _ s u t r turns taken following ih =>
      obtain ⟨now, later⟩ := List.forall_mem_cons.mp unwritten
      have next := (congrArg (Table.get? · name) (context_turn taken)).trans (Context.get?_afterStep_of_not_mem now)
      rw [here, Option.map_some] at next
      obtain ⟨last, found, same, good⟩ := ih later next
      refine ⟨last, found, ?_, ?_⟩
      · rw [same]
        split <;> simp
      · rw [good, List.forall_mem_cons]
        cases flagged : Turn.flagged setup ⟨step, course, s, r, u⟩ with
        | false => simp
        | true => simp [Context.standing_flag_iff, and_assoc]

/-- What a passed step has captured in its turn, it has captured under its name, and it is good behind the turn. -/
theorem source_of_passed {turn : Turn Step Course}
    (taken : Returns (takeStep setup headers origins turn.course turn.item) turn.before (turn.result, course') turn.after)
    (passed : turn.result.success = true) (written : name ∈ (turn.captured setup).map Prod.fst) :
    ∃ source, Table.get? turn.after.context name = some source ∧ source.step = turn.item.displayName ∧
      source.standing = .good := by
  have unflagged : turn.flagged setup = false := by rw [Turn.flagged, passed, Bool.not_true, Bool.false_and]
  obtain ⟨value, found⟩ := @Context.get?_afterStep_of_mem turn.before.context turn.item.displayName name _ false written
  refine ⟨{ value, step := turn.item.displayName }, ?_, rfl, rfl⟩
  rw [context_turn taken]
  exact unflagged ▸ found

end Turns

/-! ## Whole flows -/

/-- **A variable that a passed step was the last to capture is good at the end of the run, exactly if no later step that
bears the name of that step has flagged variables.** -/
theorem runDocument_standing_iff {d : Document} {source : Text} {summary : Summary}
    (returned : Returns (runDocument setup options d source) s summary t) :
    ∃ turns left, FlowBook setup options d source s summary t turns left ∧
      ∀ before turn after, turns = before ++ turn :: after → turn.result.success = true →
        ∀ name ∈ (turn.captured setup).map Prod.fst,
          (∀ later ∈ after, name ∉ (later.captured setup).map Prod.fst) →
            (t.context.standing? name = some .good ↔
              ∀ later ∈ after, later.flagged setup = true → later.item.displayName ≠ turn.item.displayName) := by
  obtain ⟨turns, left, u, course, v, run⟩ := flowRun returned
  refine ⟨turns, left, run.book, ?_⟩
  rintro before turn after rfl passed name written last
  obtain ⟨rest, course', taken, following⟩ := run.walked.taken.split
  obtain ⟨source, found, named, good⟩ := source_of_passed taken passed written
  obtain ⟨source', found', -, stands⟩ := following.keeps_source last found
  have same : t.context = v.context := congrArg (fun l => l.2.2.1) run.ledger
  rw [Context.standing?, same, found', Option.map_some, Option.some.injEq, stands, named, and_iff_right good]

/-- A step that fails, as it expects a page to be gone that is there. -/
def gone : Step where
  id := "gone"
  action := .send { method := "GET", url := "http://api.test/page", asserts := ["status == 404"] }

/-- A flow that fetches a token and then fails. -/
def goneFlow : Document := { steps := [tokenStep, gone] }

/-- The run of that flow. -/
def goneRun : Except Fault Summary × RunState := ends (runDocument tokenService {} goneFlow []) fresh

/-- The state in which the first step of the flow is taken. -/
def goneOpened : RunState := (ends (opening tokenService {} goneFlow []) fresh).2

/-- The first turn of the flow. -/
def goneTaken : Except Fault (StepResult × Course) × RunState :=
  ends (takeStep tokenService [] (captureOrigins goneFlow.steps) { summary := { started := fresh.clock } } tokenStep)
    goneOpened

/-- The token is good in the end, as the step that has failed bears another name. -/
theorem runDocument_standing_iff_gone :
    ∃ summary, Returns (runDocument tokenService {} goneFlow []) fresh summary goneRun.2 ∧
      summary.results.map (·.success) = [true, false] ∧
      goneRun.2.context.standing? "token".toList = some .good := by
  obtain ⟨summary, returned, results⟩ : ∃ summary, Returns (runDocument tokenService {} goneFlow []) fresh summary
      goneRun.2 ∧ decide (summary.results.map (·.success) = [true, false]) = true := returns_of_any (by decide +kernel)
  have results := of_decide_eq_true results
  obtain ⟨turns, left, book, stands⟩ := runDocument_standing_iff returned
  refine ⟨summary, returned, results, ?_⟩
  obtain ⟨u, course, v, opened, walked⟩ := book.walked
  rw [book.results, List.map_map] at results
  obtain ⟨first, second, rfl⟩ : ∃ first second, turns = [first, second] :=
    List.length_eq_two.mp (by simpa using congrArg List.length results)
  have passed : first.result.success = true := (List.cons.inj results).1
  have steps : (order goneFlow).1 = [tokenStep, gone] := rfl
  rw [steps] at walked
  cases walked with
  | next taken following =>
      cases following with
      | next _ _ =>
          obtain ⟨_, opened'⟩ : ∃ a, Returns (opening tokenService {} goneFlow []) fresh a goneOpened :=
            returns_of_isOk (by decide +kernel)
          obtain rfl := (opened.unique opened').2
          obtain ⟨_, taken'⟩ : ∃ a, Returns (takeStep tokenService [] (captureOrigins goneFlow.steps)
              { summary := { started := fresh.clock } } tokenStep) goneOpened a goneTaken.2 :=
            returns_of_isOk (by decide +kernel)
          obtain rfl := (taken.unique taken').2
          refine (stands [] _ _ rfl passed _ ?_ ?_).mpr ?_
          · have written : "token".toList ∈ (captured tokenService tokenStep goneOpened goneTaken.2).map Prod.fst := by
              decide +kernel
            exact written
          · simp [Turn.captured, captured, gone, Step.captures, Capture.writes]
          · simp only [List.forall_mem_singleton]
            exact fun _ => by decide

/-- A flow of two steps with one name: the first fetches a token, and the second fails and captures nothing. -/
def namesakes : Document := { steps := [{ tokenStep with name := "Login" }, { gone with name := "Login" }] }

/-- The run of that flow. -/
def namesakesRun : Except Fault Summary × RunState := ends (runDocument tokenService {} namesakes []) fresh

/-- The token is flagged, though the step that has captured it has passed. -/
theorem namesakes_flag_passed :
    ∃ summary, Returns (runDocument tokenService {} namesakes []) fresh summary namesakesRun.2 ∧
      (namesakes.steps.map (·.id)).Nodup ∧ summary.results.map (·.success) = [true, false] ∧
      gone.captures = [] ∧ namesakesRun.2.context.standing? "token".toList = some .failed := by
  obtain ⟨summary, returned, results⟩ : ∃ summary, Returns (runDocument tokenService {} namesakes []) fresh summary
      namesakesRun.2 ∧ decide (summary.results.map (·.success) = [true, false]) = true :=
    returns_of_any (by decide +kernel)
  exact ⟨summary, returned, by decide, of_decide_eq_true results, rfl, by decide +kernel⟩

end ApiFlow.Running

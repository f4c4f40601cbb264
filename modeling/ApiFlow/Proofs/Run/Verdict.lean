import ApiFlow.Proofs.Run.Checks
import ApiFlow.Proofs.Run.Sending

/-!
# The verdict on a request step

A request step is a success if its last send was answered within the budget and every assertion holds of that answer.
There is one other way to a success: a service that refuses the last send without a word leaves no error text behind,
and a result without an error text counts as passed.

* `PassedLastSend` : what a success should mean.
* `RefusedSilently` : the exception.
* `round_end` : what one round leaves, `rounds_end` : what all rounds of a step leave.
* `requestStep_sound_iff` : a success means what it should exactly if the last send was not refused without a word.
-/

set_option autoImplicit false

namespace ApiFlow.Running

open ApiFlow.Flow

variable {setup : Setup} {s t u : RunState}

/-- What assertions read of a response. -/
def subjectOf (r : Response) : Assertion.Subject := ⟨r.status, r.body, r.durationMs⟩

/-- The last send from one state to another got a response within the budget of the step, and every assertion holds of
it, with the variables that the step leaves over those that were stored before. -/
def PassedLastSend (setup : Setup) (step : Step) (asserts : List Text) (s t : RunState) : Prop :=
  ∃ response checked d,
    s.sent.length < t.sent.length ∧
    lastReply? setup t = some (.response response) ∧
    (0 < step.maxDurationMs → response.durationMs ≤ step.maxDurationMs) ∧
    Checks setup.builtins (RunState.chain { s with context := t.context } setup.settings) (subjectOf response) asserts
      d checked t.draws ∧
    ∀ c ∈ checked, c.2.passed = true

/-- The last send from one state to another was refused, and no reason was given. -/
def RefusedSilently (setup : Setup) (s t : RunState) : Prop :=
  s.sent.length < t.sent.length ∧ lastReply? setup t = some (.noResponse [])

/-- From one state to another requests may have been added, and no value was stored. -/
structure Advances (setup : Setup) (s t : RunState) : Prop where
  sent : s.sent <+: t.sent
  stored : t.stored setup.settings = s.stored setup.settings

theorem Onward.advances (onward : Onward s t) : Advances setup s t := by
  refine ⟨onward.sent, ?_⟩
  have same : t.store? = s.store? := congrArg (fun k => k.2.1) onward.same
  rw [RunState.stored, same, RunState.stored]

theorem Advances.trans (first : Advances setup s t) (second : Advances setup t u) : Advances setup s u :=
  ⟨first.sent.trans second.sent, second.stored.trans first.stored⟩

theorem chain_congr {settings : Settings} (stored : t.stored settings = s.stored settings)
    (context : t.context = s.context) : t.chain settings = s.chain settings := by
  rw [RunState.chain, stored, context, RunState.chain]

/-- What passes after more was done has passed. -/
theorem PassedLastSend.of_advances {step : Step} {asserts : List Text} (advances : Advances setup s t)
    (passed : PassedLastSend setup step asserts t u) : PassedLastSend setup step asserts s u := by
  obtain ⟨response, checked, d, sent, reply, within, checks, holds⟩ := passed
  refine ⟨response, checked, d, Nat.lt_of_le_of_lt advances.sent.length_le sent, reply, within, ?_, holds⟩
  have vars : RunState.chain { t with context := u.context } setup.settings =
      RunState.chain { s with context := u.context } setup.settings := chain_congr advances.stored rfl
  rwa [vars] at checks

/-- What is done afterwards without a send, a capture or an assertion does not matter. -/
theorem PassedLastSend.congr {step : Step} {asserts : List Text} (same : (u.sent, knowledge u) = (t.sent, knowledge t))
    (passed : PassedLastSend setup step asserts s t) : PassedLastSend setup step asserts s u := by
  simp only [knowledge, Prod.mk.injEq] at same
  obtain ⟨sent, context, -, draws⟩ := same
  obtain ⟨response, checked, d, more, reply, within, checks, holds⟩ := passed
  refine ⟨response, checked, d, sent ▸ more, (lastReply?_congr setup sent).trans reply, within, ?_, holds⟩
  rwa [context, draws]

theorem refusedSilently_congr (sent : u.sent = t.sent) : RefusedSilently setup s u ↔ RefusedSilently setup s t := by
  rw [RefusedSilently, sent, lastReply?_congr setup sent, RefusedSilently]

theorem not_passed_of_refused {step : Step} {asserts : List Text} (refused : RefusedSilently setup s t) :
    ¬ PassedLastSend setup step asserts s t := by
  rintro ⟨response, _, _, _, reply, _⟩
  cases refused.2.symm.trans reply

/-! ## One round -/

/-- How rounds can end, from the state in which they began. -/
inductive RoundEnd (setup : Setup) (p : Plan) (s : RunState) (r : Round) (t : RunState) : Prop
  /-- The last send has passed. -/
  | passed (noError : r.result.error = []) (passed : PassedLastSend setup p.step p.template.asserts s t)
  /-- The last send was refused without a word. -/
  | refused (noError : r.result.error = []) (refused : RefusedSilently setup s t)
  /-- The last send has failed in some other way. -/
  | failed (error : r.result.error ≠ []) (sent : s.sent.length < t.sent.length)
      (reply : lastReply? setup t ≠ some (.noResponse []))
  /-- Nothing was sent. -/
  | unsent (error : r.result.error ≠ []) (tooLong : ∃ f, retryWait p.step = .error f) (sent : t.sent = s.sent)

theorem assertionError_ne_nil (failed : Text × Assertion.Verdict) : assertionError failed ≠ [] := by
  intro empty
  unfold assertionError at empty
  cases (List.append_eq_nil_iff.mp empty).2

theorem overBudget_message_ne_nil (durationMs budgetMs : Int) :
    (SendError.overBudget durationMs budgetMs).message ≠ [] := by
  intro empty
  unfold SendError.message at empty
  cases (List.append_eq_nil_iff.mp empty).2

theorem faultError_ne_nil (f : Fault) : ("unexpected error: " ++ f.message : Text) ≠ [] := by
  intro empty
  cases (List.append_eq_nil_iff.mp empty).1

theorem firstFailure?_eq_none {checked : List (Text × Assertion.Verdict)} :
    firstFailure? checked = none ↔ ∀ c ∈ checked, c.2.passed = true := by
  simp [firstFailure?]

theorem keeps_keep (setup : Setup) (p : Plan) (r : Response) :
    Keeps (fun s => (s.sent, s.context, s.draws, s.stored setup.settings)) (keep setup p r) := by
  unfold keep
  split
  · refine Keeps.modify fun s => ?_
    cases store : s.store? <;> simp [RunState.stored, store, Store.append, Store.values]
  · exact Keeps.pure

theorem keeps_settleCaptures (setup : Setup) (passed : Bool) (outcomes : List Capture.Outcome) :
    Keeps (fun s => (s.sent, s.context, s.draws)) (settleCaptures setup passed outcomes) := by
  refine Keeps.forM (fun o => ?_) outcomes
  refine Keeps.bind ?_ fun _ => ?_
  · unfold sayCaptured
    split <;> exact keeps_say setup _ (fun _ _ => rfl) _
  · split
    · unfold store
      split
      · exact Keeps.pure
      · exact Keeps.modify fun _ => rfl
    · exact Keeps.pure

theorem returns_isOver {p : Plan} {isEnd : Bool} :
    Returns (isOver p) s isEnd t ↔ isEnd = (!p.polling || p.deadline.le s.clock) ∧ t = s := by
  rw [isOver, bind_pure_comp, returns_map]
  constructor
  · rintro ⟨_, read, rfl⟩
    obtain ⟨rfl, rfl⟩ := returns_now.mp read
    exact ⟨rfl, rfl⟩
  · rintro ⟨rfl, rfl⟩
    exact ⟨_, returns_now.mpr ⟨rfl, rfl⟩, rfl⟩

/-- A response either passes, or leaves an error; nothing is sent, and nothing is stored unless the round settles. -/
theorem answered_end {p : Plan} {result : StepResult} {response : Response} {attempts : Nat} {r : Round}
    (returned : Returns (answered setup p result response attempts) s r t) :
    t.sent = s.sent ∧ (r.settled = false → t.stored setup.settings = s.stored setup.settings) ∧
      (r.result.error ≠ [] ∨
        r.result.error = [] ∧ r.settled = true ∧ ∃ checked,
          Checks setup.builtins (RunState.chain { s with context := t.context } setup.settings) (subjectOf response)
            p.template.asserts s.draws checked t.draws ∧
          ∀ c ∈ checked, c.2.passed = true) := by
  simp only [answered] at returned
  obtain ⟨_, u, kept, rest⟩ := returns_bind.mp returned
  obtain ⟨outcomes, v, captured, rest⟩ := returns_bind.mp rest
  obtain ⟨_, w, got, rest⟩ := returns_bind.mp rest
  obtain ⟨checked, x, decided, rest⟩ := returns_bind.mp rest
  clear returned
  obtain ⟨-, -, rfl⟩ := returns_capture.mp captured
  obtain ⟨rfl, rfl⟩ := returns_get.mp got
  obtain ⟨d, checks, rfl⟩ := returns_checkAll.mp decided
  obtain ⟨sent, same⟩ := Prod.ext_iff.mp (keeps_keep setup p response kept)
  obtain ⟨context, same⟩ := Prod.ext_iff.mp same
  obtain ⟨draws, stored⟩ := Prod.ext_iff.mp same
  dsimp only at sent context draws stored
  cases first : firstFailure? checked with
  | none =>
      rw [first] at rest
      obtain ⟨_, y, settled, last⟩ := returns_bind.mp rest
      obtain ⟨rfl, rfl⟩ := returns_pure.mp last
      have left := keeps_settleCaptures setup true outcomes settled
      simp only [Prod.mk.injEq] at left
      obtain ⟨sent', context', draws'⟩ := left
      refine ⟨sent'.trans sent, nofun, .inr ⟨rfl, rfl, checked, ?_, firstFailure?_eq_none.mp first⟩⟩
      have vars : (afterCapture (.body response.body) p.step.displayName p.template.captures u).chain setup.settings =
          RunState.chain { s with context := t.context } setup.settings := chain_congr stored context'.symm
      rw [← vars, ← draws, draws']
      exact checks
  | some failed =>
      rw [first] at rest
      obtain ⟨isEnd, y, asked, rest⟩ := returns_bind.mp rest
      obtain ⟨-, rfl⟩ := returns_isOver.mp asked
      cases isEnd with
      | true =>
          obtain ⟨_, y, settled, rest⟩ := returns_bind.mp rest
          obtain ⟨_, z, marked, last⟩ := returns_bind.mp rest
          obtain ⟨rfl, rfl⟩ := returns_pure.mp last
          have left := keeps_settleCaptures setup false outcomes settled
          simp only [Prod.mk.injEq] at left
          rw [returns_modify.mp marked]
          exact ⟨left.1.trans sent, nofun, .inl (assertionError_ne_nil failed)⟩
      | false =>
          obtain ⟨rfl, rfl⟩ := returns_pure.mp rest
          exact ⟨sent, fun _ => stored, .inl (assertionError_ne_nil failed)⟩

/-- **One round** ends in one of four ways, and stores nothing unless it settles the step. -/
theorem round_end {p : Plan} {result : StepResult} {r : Round} (returned : Returns (round setup p result) s r t) :
    RoundEnd setup p s r t ∧ (r.settled = false → Advances setup s t) := by
  obtain ⟨sent, u, sending, rest⟩ := returns_bind.mp returned
  rcases sendRound_ends setup p s with ⟨f, tooLong, nothing⟩ | ⟨-, attempts, v, -, onward, ended⟩
  · obtain ⟨rfl, rfl⟩ := sending.unique nothing
    obtain ⟨_, w, noted, last⟩ := returns_bind.mp rest
    obtain ⟨rfl, rfl⟩ := returns_pure.mp last
    rw [returns_modify.mp noted]
    exact ⟨.unsent (faultError_ne_nil f) ⟨f, tooLong⟩ rfl, fun _ => ⟨List.prefix_rfl, rfl⟩⟩
  · obtain ⟨rfl, rfl⟩ := sending.unique ended
    have reply := lastReply?_afterSend setup p.request v
    have more : s.sent.length < (afterSend setup p.request v).sent.length := by
      have := onward.sent.length_le
      simp [afterSend]
      omega
    have advances : Advances setup s (afterSend setup p.request v) :=
      (onward.trans (onward_afterSend p.request v)).advances
    cases outcome : (setup.service v.sent.length p.request).outcome with
    | noResponse reason =>
        rw [outcome] at rest reply
        obtain ⟨rfl, rfl⟩ := returns_pure.mp rest
        refine ⟨?_, fun _ => advances⟩
        by_cases silent : reason = []
        · subst silent
          exact .refused rfl ⟨more, reply⟩
        · exact .failed silent more (by simpa [reply] using silent)
    | broken message =>
        rw [outcome] at rest reply
        obtain ⟨_, w, noted, last⟩ := returns_bind.mp rest
        obtain ⟨rfl, rfl⟩ := returns_pure.mp last
        have sent := keeps_noteAll RunState.sent (fun _ _ => rfl) _ noted
        have reply' := (lastReply?_congr setup sent).trans reply
        have stored := keeps_noteAll (fun s => s.stored setup.settings) (fun _ _ => rfl) _ noted
        refine ⟨.failed (faultError_ne_nil _) (sent ▸ more) (by rw [reply']; nofun), fun _ => ?_⟩
        exact advances.trans ⟨sent ▸ List.prefix_rfl, stored⟩
    | response response =>
        rw [outcome] at rest reply
        rcases within : withinBudget p.step.maxDurationMs response with e | accepted
        · rw [received, within] at rest
          obtain ⟨rfl, rfl⟩ := returns_pure.mp rest
          obtain rfl := withinBudget_eq_error within
          exact ⟨.failed (overBudget_message_ne_nil _ _) more (by rw [reply]; nofun), fun _ => advances⟩
        · rw [received, within] at rest
          obtain ⟨rfl, inBudget⟩ := withinBudget_eq_ok.mp within
          obtain ⟨sent, stored, verdict⟩ := answered_end rest
          have reply' := (lastReply?_congr setup sent).trans reply
          have more' : s.sent.length < t.sent.length := sent ▸ more
          refine ⟨?_, fun unsettled => advances.trans ⟨sent ▸ List.prefix_rfl, stored unsettled⟩⟩
          rcases verdict with error | ⟨noError, -, checked, checks, holds⟩
          · exact .failed error more' (by rw [reply']; nofun)
          · have vars : RunState.chain { afterSend setup p.request v with context := t.context } setup.settings =
                RunState.chain { s with context := t.context } setup.settings := chain_congr advances.stored rfl
            rw [vars] at checks
            exact .passed noError ⟨accepted, checked, _, more', reply', inBudget, checks, holds⟩

/-- Nothing is sent in a round whose wait is too long. -/
theorem round_unsent {p : Plan} {result : StepResult} {r : Round} {f : Fault} (tooLong : retryWait p.step = .error f)
    (returned : Returns (round setup p result) s r t) : t.sent = s.sent := by
  obtain ⟨sent, u, sending, rest⟩ := returns_bind.mp returned
  rcases sendRound_ends setup p s with ⟨g, -, nothing⟩ | ⟨wait, _, _, span, -, -⟩
  · obtain ⟨rfl, rfl⟩ := sending.unique nothing
    obtain ⟨_, w, noted, last⟩ := returns_bind.mp rest
    obtain ⟨-, rfl⟩ := returns_pure.mp last
    exact keeps_noteAll RunState.sent (fun _ _ => rfl) _ noted
  · cases tooLong.symm.trans span

/-! ## All rounds of a step -/

/-- An end of later rounds is an end of all of them. -/
theorem RoundEnd.of_advances {p : Plan} {r : Round} (advances : Advances setup s t)
    (unsent : ∀ f, retryWait p.step = .error f → t.sent = s.sent) (ended : RoundEnd setup p t r u) :
    RoundEnd setup p s r u := by
  have fewer := advances.sent.length_le
  cases ended with
  | passed noError passed => exact .passed noError (passed.of_advances advances)
  | refused noError refused => exact .refused noError ⟨Nat.lt_of_le_of_lt fewer refused.1, refused.2⟩
  | failed error sent reply => exact .failed error (Nat.lt_of_le_of_lt fewer sent) reply
  | unsent error tooLong sent =>
      obtain ⟨f, span⟩ := tooLong
      exact .unsent error ⟨f, span⟩ (sent.trans (unsent f span))

/-- How a round ends does not depend on whether it is a closing one. -/
theorem RoundEnd.of_closing {p : Plan} {closing : Bool} {r : Round} (ended : RoundEnd setup { p with closing } s r t) :
    RoundEnd setup p s r t := by
  cases ended with
  | passed noError passed => exact .passed noError passed
  | refused noError refused => exact .refused noError refused
  | failed error sent reply => exact .failed error sent reply
  | unsent error tooLong sent => exact .unsent error tooLong sent

/-- **All rounds together** end as one round can. -/
theorem rounds_end {p : Plan} {left : Nat} {result : StepResult} {r : Round}
    (returned : Returns (rounds setup p left result) s r t) : RoundEnd setup p s r t := by
  induction left generalizing s result with
  | zero => exact (round_end returned).1.of_closing
  | succ left ih =>
      obtain ⟨first, u, tried, rest⟩ := returns_bind.mp returned
      obtain ⟨ended, advances⟩ := round_end tried
      by_cases settled : first.settled = true
      · rw [if_pos settled] at rest
        obtain ⟨rfl, rfl⟩ := returns_pure.mp rest
        exact ended
      · rw [if_neg settled] at rest
        obtain ⟨isEnd, v, asked, rest⟩ := returns_bind.mp rest
        obtain ⟨-, rfl⟩ := returns_isOver.mp asked
        cases isEnd with
        | true =>
            obtain ⟨rfl, rfl⟩ := returns_pure.mp rest
            exact ended
        | false =>
            obtain ⟨_, w, noted, rest⟩ := returns_bind.mp rest
            obtain ⟨_, x, slept, rest⟩ := returns_bind.mp rest
            have kept : (x.sent, knowledge x) = (v.sent, knowledge v) :=
              (keeps_sleep (fun s => (s.sent, knowledge s)) (fun _ _ _ => rfl) _ slept).trans
                (keeps_noteAll (fun s => (s.sent, knowledge s)) (fun _ _ => rfl) _ noted)
            have sent : x.sent = v.sent := congrArg Prod.fst kept
            have waited : Onward v x := ⟨sent ▸ List.prefix_rfl, congrArg Prod.snd kept⟩
            have unsettled : first.settled = false := by simpa using settled
            exact (ih rest).of_advances ((advances unsettled).trans waited.advances) fun f span =>
              sent.trans (round_unsent span tried)

/-! ## The step -/

theorem RoundEnd.sound_iff {p : Plan} {r : Round} (ended : RoundEnd setup p s r t) :
    (r.result.error = [] → PassedLastSend setup p.step p.template.asserts s t) ↔ ¬ RefusedSilently setup s t := by
  cases ended with
  | passed noError passed => exact iff_of_true (fun _ => passed) fun refused => not_passed_of_refused refused passed
  | refused noError refused =>
      exact iff_of_false (fun sound => not_passed_of_refused refused (sound noError)) fun never => never refused
  | failed error sent reply => exact iff_of_true (fun noError => absurd noError error) fun refused => reply refused.2
  | unsent error tooLong sent =>
      refine iff_of_true (fun noError => absurd noError error) fun refused => ?_
      have more := refused.1
      rw [sent] at more
      exact Nat.lt_irrefl _ more

theorem poll_sound_iff {step : Step} {template : RequestTemplate} {record : Bool} {request : Request}
    {result r : StepResult} (returned : Returns (poll setup step template record request result) s r t) :
    (r.success = true → PassedLastSend setup step template.asserts s t) ↔ ¬ RefusedSilently setup s t := by
  obtain ⟨interval, u, guarded, rest⟩ := returns_bind.mp returned
  obtain ⟨start, v, read, rest⟩ := returns_bind.mp rest
  obtain ⟨span, w, guarded', rest⟩ := returns_bind.mp rest
  obtain ⟨last, x, tried, rest⟩ := returns_bind.mp rest
  obtain ⟨_, y, reported, rest⟩ := returns_bind.mp rest
  obtain ⟨rfl, rfl⟩ := returns_pure.mp rest
  obtain ⟨-, rfl⟩ := returns_guard.mp guarded
  obtain ⟨-, rfl⟩ := returns_now.mp read
  obtain ⟨-, rfl⟩ := returns_guard.mp guarded'
  have kept : (t.sent, knowledge t) = (x.sent, knowledge x) :=
    Keeps.forM (fun c => keeps_say setup (fun s => (s.sent, knowledge s)) (fun _ _ => rfl) _) last.checked reported
  have sent : t.sent = x.sent := congrArg Prod.fst kept
  have sound := (rounds_end tried).sound_iff
  have judged : last.result.judged.success = true ↔ last.result.error = [] := List.isEmpty_iff
  rw [judged, refusedSilently_congr sent, ← sound]
  exact ⟨fun passes noError => (passes noError).congr kept.symm, fun passes noError => (passes noError).congr kept⟩

theorem keeps_prepare (setup : Setup) (t : RequestTemplate) (vars : Table Text) (strict : Bool)
    (flowHeaders : Table Text) (maxDurationMs : Int) :
    Keeps (fun s => (s.sent, s.stored setup.settings)) (prepare setup t vars strict flowHeaders maxDurationMs) := by
  unfold prepare
  refine Keeps.bind ?_ fun outcome => ?_
  · intro s _ t drawn
    obtain ⟨-, rfl⟩ := returns_draw.mp drawn
    rfl
  · rcases outcome with (e | f) | r
    · exact Keeps.pure
    · exact fun _ _ _ thrown => absurd thrown returns_throw
    · exact Keeps.pure

/-- The verdict does not depend on what was done before anything was sent or stored. -/
theorem soundness_congr {step : Step} {asserts : List Text} {success : Prop} (sent : u.sent = s.sent)
    (stored : u.stored setup.settings = s.stored setup.settings)
    (sound : (success → PassedLastSend setup step asserts u t) ↔ ¬ RefusedSilently setup u t) :
    (success → PassedLastSend setup step asserts s t) ↔ ¬ RefusedSilently setup s t := by
  have vars : RunState.chain { u with context := t.context } setup.settings =
      RunState.chain { s with context := t.context } setup.settings := chain_congr stored rfl
  unfold PassedLastSend RefusedSilently at sound ⊢
  rwa [vars, sent] at sound

/-- Where nothing was sent and there is no success, the verdict is sound. -/
theorem sound_of_unsent {step : Step} {asserts : List Text} {success : Bool} (sent : t.sent = s.sent)
    (failed : success = false) :
    (success = true → PassedLastSend setup step asserts s t) ↔ ¬ RefusedSilently setup s t := by
  refine iff_of_true (fun passes => ?_) fun refused => ?_
  · cases failed.symm.trans passes
  · have more := refused.1
    rw [sent] at more
    exact Nat.lt_irrefl _ more

/-- **A success of a request step means that its last send was answered within the budget and that every assertion holds
of the answer, exactly if the last send was not refused without a word.** -/
theorem requestStep_sound_iff {step : Step} {template : RequestTemplate} {strict record : Bool}
    {flowHeaders : Table Text} {r : StepResult}
    (returned : Returns (requestStep setup step template strict flowHeaders record) s r t) :
    (r.success = true → PassedLastSend setup step template.asserts s t) ↔ ¬ RefusedSilently setup s t := by
  cases complete : template.isComplete with
  | false =>
      rw [requestStep_of_incomplete complete] at returned
      obtain ⟨rfl, rfl⟩ := returns_pure.mp returned
      exact sound_of_unsent rfl rfl
  | true =>
      rw [requestStep_of_complete complete] at returned
      obtain ⟨_, u, got, rest⟩ := returns_bind.mp returned
      obtain ⟨rfl, rfl⟩ := returns_get.mp got
      obtain ⟨_, v, explained, rest⟩ := returns_bind.mp rest
      obtain ⟨outcome, w, prepared, rest⟩ := returns_bind.mp rest
      have before : (w.sent, w.stored setup.settings) = (u.sent, u.stored setup.settings) :=
        (keeps_prepare _ _ _ _ _ _ prepared).trans
          (keeps_explain setup (fun s => (s.sent, s.stored setup.settings)) (fun _ _ => rfl) _ _ explained)
      simp only [Prod.mk.injEq] at before
      obtain ⟨sent, stored⟩ := before
      cases outcome with
      | error e =>
          obtain ⟨rfl, rfl⟩ := returns_pure.mp rest
          exact sound_of_unsent sent rfl
      | ok request => exact soundness_congr sent stored (poll_sound_iff rest)

/-! ## Both kinds of success -/

/-- A service with one answer to everything. -/
def answering (outcome : ServiceOutcome) : Setup where
  builtins := { nowNs := 0, env := [], uuid := fun _ => [], token := fun _ => [] }
  service := fun _ _ => { outcome }
  shell := fun _ _ _ => { outcome := .timedOut }

/-- A step that asks whether a service is there. -/
def probe : Step where
  id := "probe"
  action := .send { method := "GET", url := "http://api.test/health", asserts := ["status == 200"] }

/-- The start of a run. -/
def fresh : RunState := { draws := { seed := 1 } }

/-- The probe of a service that gives one answer. -/
def probed (outcome : ServiceOutcome) : Except Fault StepResult × RunState :=
  ends (requestStep (answering outcome) probe probe.request true [] true) fresh

theorem returns_probe {outcome : ServiceOutcome}
    (passes : (probed outcome).1.toOption.map (·.success) = some true) :
    ∃ r, Returns (requestStep (answering outcome) probe probe.request true [] true) fresh r (probed outcome).2 ∧
      r.success = true := by
  rcases ended : probed outcome with ⟨f | r, t⟩
  · simp [ended, Except.toOption] at passes
  · simp only [ended, Except.toOption, Option.map_some, Option.some.injEq] at passes
    exact ⟨r, ended, passes⟩

/-- A probe that is answered passes, and rightly so. -/
theorem requestStep_sound_iff_answered :
    ∃ r t, Returns (requestStep (answering (.response {})) probe probe.request true [] true) fresh r t ∧
      r.success = true ∧ PassedLastSend (answering (.response {})) probe probe.asserts fresh t := by
  obtain ⟨r, returned, success⟩ := @returns_probe (.response {}) (by decide +kernel)
  have reply : lastReply? (answering (.response {})) (probed (.response {})).2 = some (.response {}) := by decide +kernel
  have sound := (requestStep_sound_iff returned).mpr fun refused => by cases refused.2.symm.trans reply
  exact ⟨r, _, returned, success, sound success⟩

/-- A probe that is refused without a word is a success, though nothing has passed. -/
theorem probe_refused_silently_passes :
    ∃ r t, Returns (requestStep (answering (.noResponse [])) probe probe.request true [] true) fresh r t ∧
      r.success = true ∧ ¬ PassedLastSend (answering (.noResponse [])) probe probe.asserts fresh t := by
  obtain ⟨r, returned, success⟩ := @returns_probe (.noResponse []) (by decide +kernel)
  have reply : lastReply? (answering (.noResponse [])) (probed (.noResponse [])).2 = some (.noResponse []) := by
    decide +kernel
  refine ⟨r, _, returned, success, ?_⟩
  rintro ⟨response, _, _, _, reply', _⟩
  cases reply.symm.trans reply'

end ApiFlow.Running

import ApiFlow.Proofs.Run.Outcome
import ApiFlow.Run.RequestStep
import ApiFlow.Run.Retry

/-!
# Tries, and the sends of a round

Tries that are repeated end as the last of them ends, whether that one succeeds, fails or stops.  A round whose wait
between tries is too long sends nothing.  Every other round ends with a send, and what it comes to is what the service has
said to that one.

* `Documented` : what is taken for granted of a loop that repeats tries; `Documented.ends_eq` : there is only one such loop.
* `TryAt` : the states at which a try begins.
* `repeated_ends` : the tries end as one of them does, and that one begins at such a state.
* `TryAt.stops` : a try that stops ends them all.
* `ends_sendOnce`, `ends_runOnce` : what one request and one command come to.
* `Onward` : what tries and waits leave alone, and that nothing sent is forgotten.
* `lastReply?` : what the service has said to the last request of a run.
* `sendRound_ends` : the specification of a round's sends.
-/

set_option autoImplicit false

namespace ApiFlow

open Running

namespace Retry

variable {ε α γ : Type} {attempt : Running (Except ε α)} {pause : Nat → Running Unit}

/-! ## What is taken for granted -/

/-- **What a loop that repeats tries is documented to do.**  The loop of the program comes from a library, and all that is
said about tries rests on these facts.  A try that succeeds is the last one, and so is a failed one when no repetition is
left.  Behind any other failed try there is a pause, and then the next try.  Only failures are repeated: what a try or a
pause stops with ends the loop. -/
structure Documented (loop : {ε α : Type} → Running (Except ε α) → (pause : Nat → Running Unit) → (left number : Nat) →
    Running (Except ε α × Nat)) : Prop where
  success {ε α : Type} {attempt : Running (Except ε α)} {pause : Nat → Running Unit} {left number : Nat}
    {s t : RunState} {a : α} (succeeded : Returns attempt s (.ok a) t) :
    Returns (loop attempt pause left number) s (.ok a, number) t
  exhausted {ε α : Type} {attempt : Running (Except ε α)} {pause : Nat → Running Unit} {number : Nat}
    {s t : RunState} {e : ε} (failed : Returns attempt s (.error e) t) :
    Returns (loop attempt pause 0 number) s (.error e, number) t
  again {ε α : Type} {attempt : Running (Except ε α)} {pause : Nat → Running Unit} {left number : Nat}
    {s t u : RunState} {e : ε} (failed : Returns attempt s (.error e) t) (paused : Returns (pause number) t () u) :
    ends (loop attempt pause (left + 1) number) s = ends (loop attempt pause left (number + 1)) u
  stopped {ε α : Type} {attempt : Running (Except ε α)} {pause : Nat → Running Unit} {left number : Nat}
    {s t : RunState} {f : Fault} (broken : ends attempt s = (.error f, t)) :
    ends (loop attempt pause left number) s = (.error f, t)
  stoppedPause {ε α : Type} {attempt : Running (Except ε α)} {pause : Nat → Running Unit} {left number : Nat}
    {s t u : RunState} {e : ε} {f : Fault} (failed : Returns attempt s (.error e) t)
    (broken : ends (pause number) t = (.error f, u)) :
    ends (loop attempt pause (left + 1) number) s = (.error f, u)

theorem documented_repeated : Documented repeated where
  success {_ _ _ _ left _ _ _ _} succeeded := by
    cases left <;> rw [repeated, Returns, succeeded.ends_bind] <;> rfl
  exhausted failed := by
    rw [repeated, Returns, failed.ends_bind]
    rfl
  again failed paused := by
    rw [repeated, failed.ends_bind]
    exact paused.ends_bind _
  stopped {_ _ _ _ left _ _ _ _} broken := by
    cases left <;> rw [repeated, ends_bind, broken]
  stoppedPause failed broken := by
    rw [repeated, failed.ends_bind]
    change ends (_ >>= _) _ = _
    rw [ends_bind, broken]

/-- **A loop that does what is documented ends as the tries of this library do.** -/
theorem Documented.ends_eq {loop : {ε α : Type} → Running (Except ε α) → (Nat → Running Unit) → Nat → Nat →
    Running (Except ε α × Nat)} (documented : Documented loop) (left number : Nat) (s : RunState) :
    ends (loop attempt pause left number) s = ends (repeated attempt pause left number) s := by
  induction left generalizing number s with
  | zero =>
      rcases outcome : ends attempt s with ⟨f | e | a, t⟩
      · rw [documented.stopped outcome, documented_repeated.stopped outcome]
      · exact (documented.exhausted outcome).trans (documented_repeated.exhausted outcome).symm
      · exact (documented.success outcome).trans (documented_repeated.success outcome).symm
  | succ left ih =>
      rcases outcome : ends attempt s with ⟨f | e | a, t⟩
      · rw [documented.stopped outcome, documented_repeated.stopped outcome]
      · rcases pausing : ends (pause number) t with ⟨f | ⟨⟩, u⟩
        · rw [documented.stoppedPause outcome pausing, documented_repeated.stoppedPause outcome pausing]
        · rw [documented.again outcome pausing, documented_repeated.again outcome pausing, ih]
      · exact (documented.success outcome).trans (documented_repeated.success outcome).symm

/-! ## Tries -/

/-- From a state on, with so many repetitions left, a try of some number begins at another state: every try before it
has failed and was followed by a pause. -/
inductive TryAt (attempt : Running (Except ε α)) (pause : Nat → Running Unit) :
    (left number : Nat) → RunState → Nat → RunState → Prop
  | first {left number : Nat} {s : RunState} : TryAt attempt pause left number s number s
  | again {left number last : Nat} {s t u v : RunState} {e : ε} (failed : Returns attempt s (.error e) t)
      (paused : Returns (pause number) t () u) (rest : TryAt attempt pause left (number + 1) u last v) :
      TryAt attempt pause (left + 1) number s last v

theorem ends_repeated_zero (number : Nat) (s : RunState) :
    ends (repeated attempt pause 0 number) s = ends ((·, number) <$> attempt) s := by
  rw [repeated, bind_pure_comp]

/-- **The tries end as the last of them ends.** -/
theorem repeated_ends (calm : ∀ n, Safe (pause n)) (left number : Nat) (s : RunState) :
    ∃ last u, TryAt attempt pause left number s last u ∧
      ends (repeated attempt pause left number) s = ends ((·, last) <$> attempt) u := by
  induction left generalizing number s with
  | zero => exact ⟨number, s, .first, ends_repeated_zero number s⟩
  | succ left ih =>
      rcases outcome : ends attempt s with ⟨f | e | a, t⟩
      · refine ⟨number, s, .first, ?_⟩
        rw [repeated, ← bind_pure_comp, ends_bind, ends_bind, outcome]
      · obtain ⟨⟨⟩, v, paused⟩ := (calm number).returns t
        obtain ⟨last, u, reached, same⟩ := ih (number + 1) v
        refine ⟨last, u, .again outcome paused reached, ?_⟩
        rw [repeated, ends_bind, outcome, ← same]
        change ends (pause number >>= fun _ => repeated attempt pause left (number + 1)) t = _
        rw [ends_bind, show ends (pause number) t = (.ok (), v) from paused]
      · refine ⟨number, s, .first, ?_⟩
        rw [repeated, ← bind_pure_comp, ends_bind, ends_bind, outcome]

/-- A try that stops ends all tries. -/
theorem TryAt.stops {left number last : Nat} {s u : RunState} {f : Fault}
    (reached : TryAt attempt pause left number s last u) (stopped : Stops attempt u f) :
    Stops (repeated attempt pause left number) s f := by
  induction reached with
  | @first left number s =>
      cases left with
      | zero => exact stops_bind.mpr (.inl stopped)
      | succ left => exact stops_bind.mpr (.inl stopped)
  | again failed paused _ ih =>
      rw [repeated]
      exact stops_bind.mpr (.inr ⟨_, _, failed, stops_bind.mpr (.inr ⟨_, _, paused, ih stopped⟩)⟩)

/-- What each failed try and each pause carries on holds from the first try to any other. -/
theorem TryAt.carries {R : RunState → RunState → Prop} (refl : ∀ s, R s s) (trans : ∀ {s t u}, R s t → R t u → R s u)
    (attempted : ∀ {s t e}, Returns attempt s (.error e) t → R s t) (paused : ∀ {n s t}, Returns (pause n) s () t → R s t)
    {left number last : Nat} {s u : RunState} (reached : TryAt attempt pause left number s last u) : R s u := by
  induction reached with
  | first => exact refl _
  | again failed waited _ ih => exact trans (attempted failed) (trans (paused waited) ih)

theorem safe_pause (r : Retry) (setup : Setup) (wait : Double) (number : Nat) : Safe (r.pause setup wait number) :=
  Safe.bind (safe_say _ _) fun _ => safe_sleep _

/-- The tries of a rule stop at once if its wait is too long, else they end as the last of them ends. -/
theorem run_ends (r : Retry) (setup : Setup) (s : RunState) :
    (∃ f, Duration.seconds (max r.waitMs 0) = .error f ∧ ends (r.run setup attempt) s = (.error f, s)) ∨
      ∃ wait last u, Duration.seconds (max r.waitMs 0) = .ok wait ∧
        TryAt attempt (r.pause setup wait) (max r.retries 0).toNat 1 s last u ∧
        ends (r.run setup attempt) s = ends ((·, last) <$> attempt) u := by
  rcases span : Duration.seconds (max r.waitMs 0) with f | wait
  · refine .inl ⟨f, rfl, ?_⟩
    rw [run, span, ends_bind]
    rfl
  · obtain ⟨last, u, reached, same⟩ :=
      @repeated_ends _ _ attempt _ (safe_pause r setup wait) (max r.retries 0).toNat 1 s
    refine .inr ⟨wait, last, u, rfl, reached, ?_⟩
    rw [run, span, (returns_guard.mpr ⟨rfl, rfl⟩).ends_bind, same]

/-- The tries of a rule stop if its wait is too long or one of them stops. -/
theorem stops_run_iff {r : Retry} {setup : Setup} {s : RunState} {f : Fault} :
    Stops (r.run setup attempt) s f ↔ Duration.seconds (max r.waitMs 0) = .error f ∨
      ∃ wait last u, Duration.seconds (max r.waitMs 0) = .ok wait ∧
        TryAt attempt (r.pause setup wait) (max r.retries 0).toNat 1 s last u ∧ Stops attempt u f := by
  constructor
  · intro stopped
    rcases @run_ends _ _ attempt r setup s with ⟨g, span, same⟩ | ⟨wait, last, u, span, reached, same⟩
    · rw [Stops, same] at stopped
      cases stopped
      exact .inl span
    · rw [Stops, same] at stopped
      exact .inr ⟨wait, last, u, span, reached, stops_map.mp stopped⟩
  · rintro (span | ⟨wait, last, u, span, reached, stopped⟩)
    · exact stops_bind.mpr (.inl span)
    · exact stops_bind.mpr (.inr ⟨wait, s, returns_guard.mpr ⟨span, rfl⟩, reached.stops stopped⟩)

end Retry

namespace Running

variable {setup : Setup} {s t : RunState}

/-! ## One request -/

/-- The state after a request was sent. -/
def afterSend (setup : Setup) (request : Request) (s : RunState) : RunState :=
  { s with sent := s.sent ++ [request], clock := s.clock.add (setup.service s.sent.length request).elapsed }

/-- What an outcome of the service means for the request. -/
def received (budgetMs : Int) : ServiceOutcome → Except Fault (Except SendError Response)
  | .response r => .ok (withinBudget budgetMs r)
  | .noResponse reason => .ok (.error (.noResponse reason))
  | .broken message => .error (.service message)

theorem ends_sendOnce (request : Request) (budgetMs : Int) (s : RunState) :
    ends (sendOnce setup request budgetMs) s =
      (received budgetMs (setup.service s.sent.length request).outcome, afterSend setup request s) := by
  rw [sendOnce, (returns_get.mpr ⟨rfl, rfl⟩).ends_bind, (returns_modify (u := ()) |>.mpr rfl).ends_bind,
    (returns_pass (u := ()) |>.mpr rfl).ends_bind]
  cases (setup.service s.sent.length request).outcome <;> rfl

theorem withinBudget_eq_ok {budgetMs : Int} {r r' : Response} :
    withinBudget budgetMs r = .ok r' ↔ r' = r ∧ (0 < budgetMs → r.durationMs ≤ budgetMs) := by
  by_cases tooSlow : 0 < budgetMs ∧ budgetMs < r.durationMs
  · have refused : withinBudget budgetMs r = .error (.overBudget r.durationMs budgetMs) := by
      simp [withinBudget, tooSlow]
    rw [refused]
    refine iff_of_false (by simp) fun ⟨_, within⟩ => ?_
    have := within tooSlow.1
    omega
  · have accepted : withinBudget budgetMs r = .ok r := by
      unfold withinBudget
      rw [if_neg (by simpa using tooSlow)]
    rw [accepted, Except.ok.injEq, eq_comm, iff_self_and]
    intro _ positive
    omega

theorem withinBudget_eq_error {budgetMs : Int} {r : Response} {e : SendError}
    (refused : withinBudget budgetMs r = .error e) : e = .overBudget r.durationMs budgetMs := by
  unfold withinBudget at refused
  split at refused
  · cases refused
    rfl
  · cases refused

/-! ## One command -/

/-- The state after a command was run. -/
def afterCommand (setup : Setup) (command : Text) (limit : Double) (s : RunState) : RunState :=
  { s with
    commands := s.commands ++ [(command, limit)]
    clock := s.clock.add (setup.shell s.commands.length command limit).elapsed }

/-- What an outcome of the shell means for the command. -/
def brought (limit : Double) : ShellOutcome → Except Fault (Except CommandError Output)
  | .output o => .ok (withoutFailure o)
  | .refused reason => .ok (.error (.refused reason))
  | .timedOut => .ok (.error (.timedOut limit))
  | .broken message => .error (.service message)

theorem ends_runOnce (command : Text) (limit : Double) (s : RunState) :
    ends (runOnce setup command limit) s =
      (brought limit (setup.shell s.commands.length command limit).outcome, afterCommand setup command limit s) := by
  rw [runOnce, (returns_get.mpr ⟨rfl, rfl⟩).ends_bind, (returns_modify (u := ()) |>.mpr rfl).ends_bind,
    (returns_pass (u := ()) |>.mpr rfl).ends_bind]
  cases (setup.shell s.commands.length command limit).outcome <;> rfl

/-! ## What sends leave alone -/

variable {u : RunState}

/-- What a step is judged by, apart from the replies: variables, stored values and draws. -/
def knowledge (s : RunState) : Context × Option Store × Draws := (s.context, s.store?, s.draws)

/-- From one state to another requests may have been added, and what a step is judged by has not changed. -/
structure Onward (s t : RunState) : Prop where
  sent : s.sent <+: t.sent
  same : knowledge t = knowledge s

theorem Onward.refl (s : RunState) : Onward s s := ⟨List.prefix_rfl, rfl⟩

theorem Onward.trans (first : Onward s t) (second : Onward t u) : Onward s u :=
  ⟨first.sent.trans second.sent, second.same.trans first.same⟩

/-- What keeps the requests and the knowledge leads onward. -/
theorem onward_of_keeps {α : Type} {m : Running α} (keeps : Keeps (fun s => (s.sent, knowledge s)) m) {a : α}
    (returned : Returns m s a t) : Onward s t := by
  have same := Prod.ext_iff.mp (keeps returned)
  have sent : t.sent = s.sent := same.1
  exact ⟨sent ▸ List.prefix_rfl, same.2⟩

theorem onward_afterSend (request : Request) (s : RunState) : Onward s (afterSend setup request s) :=
  ⟨List.prefix_append _ _, rfl⟩

theorem keeps_sleep {γ : Type} (view : RunState → γ)
    (blind : ∀ s sleeps clock, view { s with sleeps := sleeps, clock := clock } = view s) (seconds : Double) :
    Keeps view (sleep seconds) := by
  intro s _ t returned
  obtain ⟨_, u, slept, passed⟩ := returns_bind.mp returned
  rw [returns_pass.mp passed, returns_modify.mp slept]
  exact blind s _ _

theorem keeps_pause (r : Retry) (setup : Setup) (wait : Double) (number : Nat) :
    Keeps (fun s => (s.sent, knowledge s)) (r.pause setup wait number) :=
  Keeps.bind (keeps_say setup _ (fun _ _ => rfl) _) fun _ => keeps_sleep _ (fun _ _ _ => rfl) wait

/-! ## The last reply -/

/-- What the service has said to the last request that was sent. -/
def lastReply? (setup : Setup) (s : RunState) : Option ServiceOutcome :=
  s.sent.getLast?.map fun request => (setup.service (s.sent.length - 1) request).outcome

theorem lastReply?_afterSend (setup : Setup) (request : Request) (s : RunState) :
    lastReply? setup (afterSend setup request s) = some (setup.service s.sent.length request).outcome := by
  simp [lastReply?, afterSend]

theorem lastReply?_congr (setup : Setup) (same : t.sent = s.sent) : lastReply? setup t = lastReply? setup s := by
  rw [lastReply?, same, lastReply?]

/-! ## One round -/

/-- What the last send of a round makes of it. -/
def Sent.of (attempts : Nat) : Except Fault (Except SendError Response) → Sent
  | .ok (.ok r) => .answer r attempts
  | .ok (.error e) => .failure e
  | .error f => .fault f

/-- The wait between two tries of a step. -/
def retryWait (step : Flow.Step) : Except Fault Double := Duration.seconds (max step.retryWaitMs 0)

theorem returns_sendRound {p : Plan} (attempts : Nat) (outcome : Except Fault (Except SendError Response))
    (ended : ends (send setup p.request ⟨p.step.retry, p.step.retryWaitMs⟩ p.step.maxDurationMs) s =
      (outcome.map (·, attempts), t)) :
    Returns (sendRound setup p) s (Sent.of attempts outcome) t := by
  rw [Returns, sendRound, ends_tryCatch, ends_bind, ended]
  rcases outcome with f | e | r <;> rfl

/-- **A round sends nothing if its wait is too long, and otherwise comes to what its last send comes to.** -/
theorem sendRound_ends (setup : Setup) (p : Plan) (s : RunState) :
    (∃ f, retryWait p.step = .error f ∧ Returns (sendRound setup p) s (.fault f) s) ∨
      ∃ wait attempts u, retryWait p.step = .ok wait ∧ Onward s u ∧
        Returns (sendRound setup p) s
          (.of attempts (received p.step.maxDurationMs (setup.service u.sent.length p.request).outcome))
          (afterSend setup p.request u) := by
  rcases @Retry.run_ends _ _ (sendOnce setup p.request p.step.maxDurationMs)
      ⟨p.step.retry, p.step.retryWaitMs⟩ setup s with
    ⟨f, tooLong, ended⟩ | ⟨wait, last, u, span, reached, ended⟩
  · refine .inl ⟨f, tooLong, ?_⟩
    exact returns_sendRound 0 (.error f) ended
  · refine .inr ⟨wait, last, u, span, ?_, ?_⟩
    · refine reached.carries Onward.refl Onward.trans ?_ ?_
      · intro s t e failed
        rw [Returns, ends_sendOnce] at failed
        have left : afterSend setup p.request s = t := congrArg Prod.snd failed
        exact left ▸ onward_afterSend p.request s
      · intro n s t paused
        exact onward_of_keeps (keeps_pause _ _ _ _) paused
    · refine returns_sendRound last _ ?_
      rw [send, ended, ends_map, ends_sendOnce]

/-! ## What comes before the rounds -/

/-- Prints the variables of a step, if they are to be shown. -/
def explain (setup : Setup) (vars : Table Text) (context : Context) : Running Unit :=
  if setup.showVariables then say setup (Report.resolution vars context) else return

theorem keeps_explain {γ : Type} (setup : Setup) (view : RunState → γ)
    (blind : ∀ s text, view { s with printed := text } = view s) (vars : Table Text) (context : Context) :
    Keeps view (explain setup vars context) := by
  unfold explain
  split
  · exact keeps_say setup view blind _
  · exact Keeps.pure

theorem safe_explain (setup : Setup) (vars : Table Text) (context : Context) : Safe (explain setup vars context) := by
  unfold explain
  split
  · exact safe_say setup _
  · exact fun _ _ => stops_pure

/-- The result of a request step before anything is known of it. -/
def blank (setup : Setup) (step : Flow.Step) (t : Flow.RequestTemplate) : StepResult :=
  { name := step.displayName, method := Text.upper t.method, url := t.url, start := setup.startTime }

theorem requestStep_of_incomplete {step : Flow.Step} {t : Flow.RequestTemplate} (incomplete : t.isComplete = false)
    (strict : Bool) (flowHeaders : Table Text) (record : Bool) :
    requestStep setup step t strict flowHeaders record =
      pure { blank setup step t with error := incompleteError step.line } := by
  simp [requestStep, incomplete, blank]

/-- A complete request is prepared with the variables at hand, and then sent in rounds. -/
theorem requestStep_of_complete {step : Flow.Step} {t : Flow.RequestTemplate} (complete : t.isComplete = true)
    (strict : Bool) (flowHeaders : Table Text) (record : Bool) :
    requestStep setup step t strict flowHeaders record = (do
      let s ← get
      explain setup (s.chain setup.settings) s.context
      match ← prepare setup t (s.chain setup.settings) strict flowHeaders step.maxDurationMs with
      | .error e => return { blank setup step t with error := e.message }
      | .ok request => poll setup step t record request { blank setup step t with url := request.url }) := by
  simp only [requestStep, complete, Bool.not_true, Bool.false_eq_true, if_false, blank, explain]
  cases setup.showVariables <;> rfl

end Running

end ApiFlow

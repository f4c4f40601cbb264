import ApiFlow.Proofs.Number.Rounding
import ApiFlow.Proofs.Run.Attempts
import ApiFlow.Proofs.Run.Effect
import ApiFlow.Proofs.Run.Lap

/-!
# Rounds until a step has passed

Without polling a step is sent in one round.  With it rounds go on until the first that passes or, failing that, the
first behind which the deadline is reached, and the step sleeps once between each two.  The last round decides; status
and body are those of the last accepted response, and the attempts of all accepted rounds are added up.

A step ends after some rounds because its clock moves: every sleep takes it over at least one double on the way to the
deadline, and replies do not turn it back.  Durations that are too long for a double stop a step before anything is
sent, and so do captures and assertions that cannot be worked out on a response.

* `Rounds` : rounds with one sleep between each two, until the first that ends them.
* `Ticks` : what is asked of the clock; `ticks_of_early` gives it for every clock that starts at zero or later.
* `rounds_lead` : what all rounds of a step come to.
* `Polled` : what the step should come to.
* `requestStep_polls_iff` : a prepared step comes to that exactly if it meets no hazard.
-/

set_option autoImplicit false

namespace ApiFlow.Running

open ApiFlow.Flow

variable {setup : Setup} {p : Plan} {s t u : RunState} {result : StepResult} {l : Lap} {r : Round}

/-! ## What the sends of a round do to the clock -/

/-- The clock shows a reading that is not before a given one. -/
def NotBefore (c : Double) (s : RunState) : Prop := s.clock.IsReading ∧ c.rank ≤ s.clock.rank

theorem NotBefore.later {c y : Double} (notBefore : NotBefore c s) (forward : (Double.zero false).le y = true)
    (same : t.clock = s.clock.add y) : NotBefore c t := by
  obtain ⟨reading, order⟩ := notBefore.1.add forward
  exact ⟨same ▸ reading, same ▸ notBefore.2.trans order⟩

theorem zero_le_of_seconds {ms : Int} {x : Double} (seconds : Duration.seconds (max ms 0) = .ok x) :
    (Double.zero false).le x = true := by
  obtain ⟨rfl, -⟩ := Duration.seconds_eq_ok_iff.mp seconds
  obtain ⟨n, whole⟩ := Int.eq_ofNat_of_zero_le (Int.le_max_right ms 0)
  rw [whole]
  exact Double.zero_le_ofQuotient n

/-- Sends do not turn the clock back, if no reply does. -/
theorem NotBefore.sends {c : Double} (notBefore : NotBefore c s) {request : Request} {retry : Retry} {budgetMs : Int}
    (forward : ∀ k, (Double.zero false).le (setup.service k request).elapsed = true)
    {o : Except Fault (Except SendError Response × Nat)} (sends : ends (send setup request retry budgetMs) s = (o, t)) :
    NotBefore c t := by
  have sent (u : RunState) (before : NotBefore c u) : NotBefore c (afterSend setup request u) :=
    before.later (forward u.sent.length) rfl
  rcases @Retry.run_ends _ _ (sendOnce setup request budgetMs) retry setup s with
    ⟨f, -, ended⟩ | ⟨wait, number, u, span, reached, ended⟩
  · obtain rfl : s = t := congrArg Prod.snd (ended.symm.trans sends)
    exact notBefore
  · rw [ends_map, ends_sendOnce] at ended
    obtain rfl : afterSend setup request u = t := congrArg Prod.snd (ended.symm.trans sends)
    refine sent u (reached.carries (R := fun s t => NotBefore c s → NotBefore c t) (fun _ => id)
      (fun first second => second ∘ first) ?_ ?_ notBefore)
    · intro v w e failed before
      rw [Returns, ends_sendOnce] at failed
      obtain rfl : afterSend setup request v = w := congrArg Prod.snd failed
      exact sent v before
    · intro n v w paused before
      obtain ⟨-, rfl⟩ := paused.unique (Retry.returns_pause retry setup wait n v)
      exact before.later (zero_le_of_seconds span) rfl

/-- A failing send has an error text, if every refusal has. -/
theorem message_ne_nil {request : Request} {retry : Retry} {budgetMs : Int} {e : SendError} {attempts : Nat}
    (spoken : ∀ k, (setup.service k request).outcome ≠ .noResponse [])
    (sends : ends (send setup request retry budgetMs) s = (.ok (.error e, attempts), t)) : e.message ≠ [] := by
  rcases @Retry.run_ends _ _ (sendOnce setup request budgetMs) retry setup s with
    ⟨f, -, ended⟩ | ⟨wait, number, u, -, -, ended⟩
  · cases ended.symm.trans sends
  · rw [ends_map, ends_sendOnce] at ended
    have last := congrArg Prod.fst (ended.symm.trans sends)
    dsimp only at last
    cases outcome : (setup.service u.sent.length request).outcome with
    | broken message =>
        rw [outcome] at last
        cases last
    | noResponse reason =>
        rw [outcome] at last
        cases last
        exact fun silent => spoken u.sent.length (outcome.trans (congrArg _ silent))
    | response response =>
        rcases within : withinBudget budgetMs response with e' | accepted
        · rw [outcome, received, within] at last
          obtain rfl : e' = e := by
            cases last
            rfl
          rw [withinBudget_eq_error within]
          exact overBudget_message_ne_nil _ _
        · rw [outcome, received, within] at last
          cases last

theorem clock_of_leads (leads : l.Leads setup p s t) : t.clock = l.sent.clock := by
  rcases leads.ended with ⟨-, -, rfl⟩ | ⟨-, -, rfl⟩
  · unfold afterFailure
    split <;> rfl
  · unfold afterAnswer
    dsimp only
    split
    · rfl
    · split <;> rfl

/-! ## All rounds of a step -/

/-- The state behind the sleep between two rounds. -/
def afterPoll (p : Plan) (s : RunState) : RunState :=
  { s with
    notes := s.notes ++ [pollNote p.step.displayName (pollIntervalMs p.step)]
    sleeps := s.sleeps ++ [p.interval]
    clock := s.clock.add p.interval }

/-- The rounds of a step: they go on until the first that ends them, with one sleep between each two. -/
inductive Rounds (setup : Setup) (p : Plan) : RunState → List Lap → RunState → Prop
  | last {s t : RunState} {l : Lap} (leads : l.Leads setup p s t) (isEnd : l.isEnd p = true) : Rounds setup p s [l] t
  | next {s t u : RunState} {l : Lap} {laps : List Lap} (leads : l.Leads setup p s t) (more : l.isEnd p = false)
      (rest : Rounds setup p (afterPoll p t) laps u) : Rounds setup p s (l :: laps) u

/-- A clock that moves only while something is sent and while a step sleeps: it starts with a reading, no reply turns it
back, and before the deadline every sleep between two rounds moves it forward. -/
structure Ticks (setup : Setup) (p : Plan) (start : Double) : Prop where
  reading : start.IsReading
  replies : ∀ k, (Double.zero false).le (setup.service k p.request).elapsed = true
  sleeps : ∀ c : Double, c.IsReading → start.le c = true → p.deadline.le c = false → c.lt (c.add p.interval) = true

/-- With so many rounds left the deadline is reached: there are more of them than doubles between it and the clock. -/
structure Enough (setup : Setup) (p : Plan) (start : Double) (left : Nat) (s : RunState) : Prop where
  ticks : Ticks setup p start
  deadline : p.deadline.IsReading
  interval : (Double.zero false).le p.interval = true
  notBefore : NotBefore start s
  bound : s.clock.gap p.deadline < left

/-- A round that ends before the deadline, and the sleep behind it, use up one of the rounds that are left. -/
theorem Enough.next {start : Double} {left : Nat} (enough : Enough setup p start (left + 1) s) {l : Lap}
    (leads : l.Leads setup p s t) (early : p.deadline.le l.sent.clock = false) :
    Enough setup p start left (afterPoll p t) ∧ 0 < left := by
  have clock : (afterPoll p t).clock = l.sent.clock.add p.interval := congrArg (·.add p.interval) (clock_of_leads leads)
  have sent := enough.notBefore.sends enough.ticks.replies leads.sends
  have sent' : NotBefore s.clock l.sent :=
    NotBefore.sends ⟨enough.notBefore.1, le_rfl⟩ enough.ticks.replies leads.sends
  have slept := sent.later enough.interval clock
  have before : l.sent.clock.rank < p.deadline.rank := by
    rw [← not_le, ← enough.deadline.le_iff sent.1, early]
    decide
  have moved : l.sent.clock.rank < (afterPoll p t).clock.rank := by
    have forward := enough.ticks.sleeps _ sent.1 ((enough.ticks.reading.le_iff sent.1).mpr sent.2) early
    rw [← clock] at forward
    exact (sent.1.lt_iff slept.1).mp forward
  have order := sent'.2
  have bound := enough.bound
  rw [Double.gap] at bound
  refine ⟨⟨enough.ticks, enough.deadline, enough.interval, slept, ?_⟩, ?_⟩
  · rw [Double.gap]
    omega
  · omega

theorem returns_afterPoll {v w : RunState} (noted : Returns (noteAll [pollNote p.step.displayName (pollIntervalMs p.step)]) s () v)
    (slept : Returns (sleep p.interval) v () w) : w = afterPoll p s := by
  obtain ⟨_, x, waited, passed⟩ := returns_bind.mp slept
  rw [returns_pass.mp passed, returns_modify.mp waited, returns_modify.mp noted]
  rfl

/-- **The rounds of a step** go on until the first that ends them, and give its result and its assertions. -/
theorem rounds_lead (going : p.closing = false) {start : Double} {left : Nat} (some : 0 < left)
    (enough : 0 < p.step.pollTimeoutMs → Enough setup p start left s)
    (returned : Returns (rounds setup p left result) s r t) :
    ∃ laps last, Rounds setup p s (laps ++ [last]) t ∧ r.result = (laps ++ [last]).foldl Lap.onto result ∧
      r.checked = last.checked := by
  induction left generalizing s result with
  | zero => exact absurd some (Nat.lt_irrefl 0)
  | succ left ih =>
      obtain ⟨first, u, tried, rest⟩ := returns_bind.mp returned
      obtain ⟨l, leads, onto, verdicts, settles⟩ := round_leads going tried
      by_cases settled : first.settled = true
      · rw [if_pos settled] at rest
        obtain ⟨rfl, rfl⟩ := returns_pure.mp rest
        exact ⟨[], l, .last leads (settles.mp settled).2, onto, verdicts⟩
      rw [if_neg settled] at rest
      obtain ⟨due, v, asked, rest⟩ := returns_bind.mp rest
      obtain ⟨same, rfl⟩ := returns_isOver.mp asked
      rw [clock_of_leads leads] at same
      cases due with
      | true =>
          obtain ⟨rfl, rfl⟩ := returns_pure.mp rest
          exact ⟨[], l, .last leads ((isEnd_iff going).mpr (.inr same.symm)), onto, verdicts⟩
      | false =>
          obtain ⟨⟨⟩, w, noted, rest⟩ := returns_bind.mp rest
          obtain ⟨⟨⟩, x, slept, rest⟩ := returns_bind.mp rest
          obtain rfl := returns_afterPoll noted slept
          obtain ⟨polling, early⟩ := Bool.or_eq_false_iff.mp same.symm
          have polls : 0 < p.step.pollTimeoutMs := by simpa [Plan.polling, going] using polling
          -- a round that has passed would have settled the step
          have more : l.isEnd p = false := by
            refine Bool.eq_false_iff.mpr fun isEnd => ?_
            rcases (isEnd_iff going).mp isEnd with passed | late
            · exact settled (settles.mpr ⟨(Bool.and_eq_true_iff.mp passed).1, isEnd⟩)
            · cases same.trans late
          obtain ⟨enough', some'⟩ := (enough polls).next leads early
          obtain ⟨laps, last, course, outcome, verdicts'⟩ := ih some' (fun _ => enough') rest
          rw [onto] at outcome
          exact ⟨l :: laps, last, .next leads more course, outcome, verdicts'⟩

/-! ## The result -/

theorem Lap.onto_accepted {response : Response} {attempts : Nat} (accepted : l.accepted? = some (response, attempts)) :
    l.onto result =
      { withResponse result response attempts with error := ((firstFailure? l.checked).map assertionError).getD [] } := by
  unfold Lap.accepted? at accepted
  split at accepted
  · rename_i same
    cases accepted
    rw [Lap.onto, same]
  · cases accepted

/-- A round without an accepted response leaves status, body and attempts as they are. -/
theorem Lap.onto_unanswered (result : StepResult) (failed : l.accepted? = none) :
    (l.onto result).status = result.status ∧ (l.onto result).body = result.body ∧
      (l.onto result).attempts = result.attempts := by
  unfold Lap.accepted? at failed
  unfold Lap.onto
  split at failed
  · cases failed
  · rename_i other
    split
    · rename_i same
      exact absurd same (other _ _)
    · unfold unanswered
      split <;> exact ⟨rfl, rfl, rfl⟩
    · exact ⟨rfl, rfl, rfl⟩

/-- Status and body are those of the last accepted response, and the attempts of all accepted rounds are added up. -/
theorem foldl_onto (laps : List Lap) (result : StepResult) :
    (laps.foldl Lap.onto result).status =
        ((laps.filterMap Lap.accepted?).getLast?.map (·.1.status)).getD result.status ∧
      (laps.foldl Lap.onto result).body = ((laps.filterMap Lap.accepted?).getLast?.map (·.1.body)).getD result.body ∧
      (laps.foldl Lap.onto result).attempts =
        result.attempts + ((laps.filterMap Lap.accepted?).map Prod.snd).sum := by
  induction laps generalizing result with
  | nil => exact ⟨rfl, rfl, rfl⟩
  | cons l laps ih =>
      obtain ⟨status, body, attempts⟩ := ih (l.onto result)
      rw [List.foldl_cons, status, body, attempts]
      cases accepted : l.accepted? with
      | none =>
          obtain ⟨status', body', attempts'⟩ := Lap.onto_unanswered result accepted
          rw [List.filterMap_cons_none accepted, status', body', attempts']
          exact ⟨rfl, rfl, rfl⟩
      | some a =>
          obtain ⟨response, n⟩ := a
          rw [List.filterMap_cons_some accepted, Lap.onto_accepted accepted, List.getLast?_cons]
          refine ⟨?_, ?_, ?_⟩
          · cases (laps.filterMap Lap.accepted?).getLast? <;> rfl
          · cases (laps.filterMap Lap.accepted?).getLast? <;> rfl
          · simp [withResponse, Nat.add_assoc]

theorem Rounds.last_leads {last : Lap} {laps : List Lap} (rounds : Rounds setup p s (laps ++ [last]) t) :
    ∃ u, last.Leads setup p u t := by
  induction laps generalizing s with
  | nil =>
      rcases rounds with ⟨leads, -⟩ | ⟨-, -, ⟨⟩⟩
      exact ⟨s, leads⟩
  | cons l laps ih =>
      rw [List.cons_append] at rounds
      generalize same : laps ++ [last] = more at rounds
      cases rounds with
      | last => simp at same
      | next _ _ rest => exact ih (same ▸ rest)

/-- The last round decides: the step is a success exactly if that round has passed. -/
theorem Lap.error_eq_nil_iff (spoken : ∀ k, (setup.service k p.request).outcome ≠ .noResponse [])
    (leads : l.Leads setup p s t) : (l.onto result).error = [] ↔ l.passed = true := by
  have sends := leads.sends
  rcases same : l.sends with f | ⟨e | response, attempts⟩
  · refine iff_of_false ?_ (by simp [Lap.passed, Lap.accepted?, same])
    rw [Lap.onto, same]
    exact faultError_ne_nil f
  · refine iff_of_false ?_ (by simp [Lap.passed, Lap.accepted?, same])
    rw [same] at sends
    have message := message_ne_nil spoken sends
    rw [Lap.onto, same]
    cases e <;> exact message
  · have accepted : l.accepted? = some (response, attempts) := by rw [Lap.accepted?, same]
    rw [passed_iff accepted, Lap.onto_accepted accepted]
    cases first : firstFailure? l.checked with
    | none => simp
    | some failed => simpa using assertionError_ne_nil failed

/-! ## The step -/

/-- What is printed of an assertion. -/
def checkedLines (c : Text × Assertion.Verdict) : Text := Report.assertion c.1 c.2.passed c.2.message

theorem returns_sayChecked (setup : Setup) (checked : List (Text × Assertion.Verdict)) (s : RunState) :
    Returns (checked.forM (sayChecked setup)) s () (afterSaying setup (checked.flatMap checkedLines) s) := by
  induction checked generalizing s with
  | nil => exact returns_pure.mpr ⟨rfl, by simp⟩
  | cons c rest ih =>
      refine returns_bind.mpr ⟨(), _, returns_say setup _ s, ?_⟩
      rw [List.flatMap_cons, ← afterSaying_append]
      exact ih _

/-- The plan of a step whose rounds begin at some time. -/
def planOf (step : Step) (template : RequestTemplate) (record : Bool) (request : Request) (start : Double) : Plan where
  step
  template
  request
  record
  interval := Double.ofQuotient (pollIntervalMs step) 1000
  deadline := start.add (Double.ofQuotient step.pollTimeoutMs 1000)

/-- **A clock that starts at zero or later moves with every sleep** for the next hundred thousand years. -/
theorem ticks_of_early {step : Step} {template : RequestTemplate} {record : Bool} {request : Request} {start : Double}
    (reading : start.IsReading) (started : (Double.zero false).le start = true)
    (replies : ∀ k, (Double.zero false).le (setup.service k request).elapsed = true)
    (early : (start.add (Double.ofQuotient step.pollTimeoutMs 1000)).le Double.ages = true) :
    Ticks setup (planOf step template record request start) start := by
  refine ⟨reading, replies, fun c shown late before => ?_⟩
  have deadline := (reading.add (Double.zero_le_ofQuotient step.pollTimeoutMs)).1
  have zero : Double.IsReading (Double.zero false) := .finite ⟨by decide, by decide, by decide, .inl rfl⟩
  rw [zero.le_iff reading] at started
  rw [reading.le_iff shown] at late
  rw [deadline.le_iff Double.isReading_ages] at early
  have below : c.rank < (start.add (Double.ofQuotient step.pollTimeoutMs 1000)).rank := by
    rw [← not_le, ← deadline.le_iff shown]
    exact Bool.eq_false_iff.mp before
  have some : 0 < pollIntervalMs step := by
    unfold pollIntervalMs defaultPollIntervalMs
    split <;> omega
  refine (shown.lt_iff (shown.add (Double.zero_le_ofQuotient _)).1).mpr (shown.rank_lt_add ?_ ?_ some)
  · exact (zero.le_iff shown).mpr (started.trans late)
  · exact (shown.lt_iff Double.isReading_ages).mpr (below.trans_le early)

/-- A step is sent in rounds as it should be, and its result tells what the rounds came to. -/
structure Polled (setup : Setup) (p : Plan) (laps : List Lap) (last : Lap) (s : RunState) (r : StepResult)
    (t : RunState) : Prop where
  /-- The rounds go on until the first that ends them, and what they have checked last is reported once. -/
  rounds : ∃ u, Rounds setup p s (laps ++ [last]) u ∧ t = afterSaying setup (last.checked.flatMap checkedLines) u
  /-- Without polling there is one round. -/
  single : p.step.pollTimeoutMs = 0 → laps = []
  success : r.success = true ↔ last.passed = true
  status : r.status = (((laps ++ [last]).filterMap Lap.accepted?).getLast?.map (·.1.status)).getD 0
  body : r.body = (((laps ++ [last]).filterMap Lap.accepted?).getLast?.map (·.1.body)).getD []
  error : ∀ failed, last.accepted?.isSome = true → firstFailure? last.checked = some failed → r.error = assertionError failed
  checked : last.checked.map Prod.fst = if last.accepted?.isSome then p.template.asserts else []
  attempts : r.attempts = (((laps ++ [last]).filterMap Lap.accepted?).map Prod.snd).sum

theorem Rounds.single {last : Lap} {laps : List Lap} (rounds : Rounds setup p s (laps ++ [last]) t)
    (alone : p.step.pollTimeoutMs = 0) : laps = [] := by
  cases laps with
  | nil => rfl
  | cons l laps =>
      rw [List.cons_append] at rounds
      generalize same : laps ++ [last] = rest at rounds
      cases rounds with
      | last => simp at same
      | next _ more _ => simp [Lap.isEnd, alone] at more

theorem Lap.Ended.names (ended : l.Ended setup p t) :
    l.checked.map Prod.fst = if l.accepted?.isSome then p.template.asserts else [] := by
  rcases ended with ⟨failed, unchecked, -⟩ | ⟨accepted, checks, -⟩
  · rw [failed, unchecked]
    rfl
  · rw [accepted, checks.names]
    rfl

/-- **A prepared request is sent in rounds as it should be**, if nothing stops the step. -/
theorem poll_polled {step : Step} {template : RequestTemplate} {record : Bool} {request : Request}
    (spoken : ∀ k, (setup.service k request).outcome ≠ .noResponse [])
    (ticks : 0 < step.pollTimeoutMs → Ticks setup (planOf step template record request s.clock) s.clock)
    {r : StepResult}
    (returned : Returns (poll setup step template record request { blank setup step template with url := request.url }) s r t) :
    ∃ laps last, Polled setup (planOf step template record request s.clock) laps last s r t := by
  obtain ⟨interval, u, guarded, rest⟩ := returns_bind.mp returned
  obtain ⟨fits, rfl⟩ := returns_guard.mp guarded
  obtain ⟨start, v, read, rest⟩ := returns_bind.mp rest
  obtain ⟨rfl, rfl⟩ := returns_now.mp read
  obtain ⟨span, w, guarded', rest⟩ := returns_bind.mp rest
  obtain ⟨fits', rfl⟩ := returns_guard.mp guarded'
  obtain ⟨lastRound, x, tried, rest⟩ := returns_bind.mp rest
  obtain ⟨_, y, reported, ended⟩ := returns_bind.mp rest
  obtain ⟨rfl, rfl⟩ := returns_pure.mp ended
  obtain ⟨rfl, -⟩ := Duration.seconds_eq_ok_iff.mp fits
  obtain ⟨rfl, -⟩ := Duration.seconds_eq_ok_iff.mp fits'
  have enough (polls : 0 < step.pollTimeoutMs) :
      Enough setup (planOf step template record request w.clock) w.clock
        (w.clock.gap (planOf step template record request w.clock).deadline + 1) w := by
    have reading := (ticks polls).reading
    exact ⟨ticks polls, (reading.add (Double.zero_le_ofQuotient _)).1, Double.zero_le_ofQuotient _, ⟨reading, le_rfl⟩,
      Nat.lt_succ_self _⟩
  obtain ⟨laps, last, rounds, outcome, verdicts⟩ :=
    rounds_lead (p := planOf step template record request w.clock) rfl (Nat.succ_pos _) enough tried
  obtain ⟨_, leads⟩ := rounds.last_leads
  rw [verdicts] at reported
  obtain ⟨-, rfl⟩ := reported.unique (returns_sayChecked setup last.checked x)
  obtain ⟨status, body, attempts⟩ := foldl_onto (laps ++ [last]) { blank setup step template with url := request.url }
  rw [← outcome] at status body attempts
  rw [List.foldl_append, List.foldl_cons, List.foldl_nil] at outcome
  refine ⟨laps, last, ⟨x, rounds, rfl⟩, rounds.single, ?_, status, body, fun failed accepted first => ?_, leads.ended.names,
    attempts.trans (Nat.zero_add _)⟩
  · rw [← last.error_eq_nil_iff spoken leads, ← outcome]
    exact List.isEmpty_iff
  · obtain ⟨a, accepted⟩ := Option.isSome_iff_exists.mp accepted
    change lastRound.result.error = _
    rw [outcome, Lap.onto_accepted accepted, first]
    rfl

/-- **A prepared step is sent in rounds as it should be, exactly if it meets no hazard**: no duration is too long, and no
accepted response has captures or assertions that stop.  Refusals have a reason, and the clock moves. -/
theorem requestStep_polls_iff {step : Step} {template : RequestTemplate} {strict record : Bool}
    {flowHeaders : Table Text} {request : Request} (complete : template.isComplete = true)
    (explained : Returns (explain setup (s.chain setup.settings) s.context) s () t)
    (prepared : Returns (prepare setup template (s.chain setup.settings) strict flowHeaders step.maxDurationMs) t
      (.ok request) u)
    (spoken : ∀ k, (setup.service k request).outcome ≠ .noResponse [])
    (ticks : 0 < step.pollTimeoutMs → Ticks setup (planOf step template record request u.clock) u.clock) :
    (∃ laps last r v, Returns (requestStep setup step template strict flowHeaders record) s r v ∧
        Polled setup (planOf step template record request u.clock) laps last u r v) ↔
      ∀ f, ¬ PollHazard setup step template record request { blank setup step template with url := request.url } u f := by
  have same : ends (requestStep setup step template strict flowHeaders record) s =
      ends (poll setup step template record request { blank setup step template with url := request.url }) u := by
    rw [requestStep_of_complete complete, (returns_get.mpr ⟨rfl, rfl⟩).ends_bind, explained.ends_bind, prepared.ends_bind]
  constructor
  · rintro ⟨laps, last, r, v, returned, -⟩ f hazard
    rw [Returns, same] at returned
    exact Returns.not_stops returned f (stops_poll_iff.mpr hazard)
  · intro never
    obtain ⟨r, v, returned⟩ := exists_returns_iff.mpr fun f stopped => never f (stops_poll_iff.mp stopped)
    obtain ⟨laps, last, polled⟩ := poll_polled spoken ticks returned
    exact ⟨laps, last, r, v, same.trans returned, polled⟩

theorem returns_ok_of_any {ε α : Type} {m : Running (Except ε α)}
    (any : (ends m s).1.toOption.any Except.isOk = true) : ∃ a, Returns m s (.ok a) (ends m s).2 := by
  obtain ⟨outcome, returned, ok⟩ := returns_of_any any
  cases outcome with
  | error e => cases ok
  | ok a => exact ⟨a, returned⟩

/-- The token step as it was prepared. -/
def tokenPrepared : Except Fault (Except PrepareError Request) × RunState :=
  ends (prepare tokenService tokenStep.request (fresh.chain tokenService.settings) true [] tokenStep.maxDurationMs) fresh

/-- The polled run of the token step. -/
def tokenPolled : Except Fault StepResult × RunState :=
  ends (requestStep tokenService tokenStep tokenStep.request true [] true) fresh

/-- The token step polls a second time, and passes then. -/
theorem requestStep_polls_iff_token :
    ∃ request laps last r v, Returns (requestStep tokenService tokenStep tokenStep.request true [] true) fresh r v ∧
      Polled tokenService (planOf tokenStep tokenStep.request true request tokenPrepared.2.clock) laps last
        tokenPrepared.2 r v ∧
      r.success = true ∧ r.attempts = 2 := by
  obtain ⟨request, prepared⟩ : ∃ request, Returns (prepare tokenService tokenStep.request
      (fresh.chain tokenService.settings) true [] tokenStep.maxDurationMs) fresh (.ok request) tokenPrepared.2 :=
    returns_ok_of_any (by decide +kernel)
  obtain ⟨r, returned, good⟩ :
      ∃ r, Returns (requestStep tokenService tokenStep tokenStep.request true [] true) fresh r tokenPolled.2 ∧
        (r.success && r.attempts == 2) = true :=
    returns_of_any (by decide +kernel)
  have clock : tokenPrepared.2.clock = Double.zero false :=
    keeps_drawing_prepare RunState.clock (fun _ _ => rfl) tokenService tokenStep.request _ true [] _ prepared
  have explained : Returns (explain tokenService (fresh.chain tokenService.settings) fresh.context) fresh () fresh :=
    returns_pure.mpr ⟨rfl, rfl⟩
  have answers (k : Nat) : ∃ response, tokenService.service k request = { outcome := .response response } := by
    unfold tokenService
    dsimp only
    split
    · exact ⟨_, rfl⟩
    · exact ⟨_, rfl⟩
  have spoken (k : Nat) : (tokenService.service k request).outcome ≠ .noResponse [] := by
    obtain ⟨response, same⟩ := answers k
    rw [same]
    nofun
  have replies (k : Nat) : (Double.zero false).le (tokenService.service k request).elapsed = true := by
    obtain ⟨response, same⟩ := answers k
    rw [same]
    exact (by decide : (Double.zero false).le (Double.zero false) = true)
  have deadline :
      ((Double.zero false).add (Double.ofQuotient tokenStep.pollTimeoutMs 1000)).le Double.ages = true := by decide +kernel
  have ticks : Ticks tokenService (planOf tokenStep tokenStep.request true request tokenPrepared.2.clock)
      tokenPrepared.2.clock := by
    rw [clock]
    exact ticks_of_early (.finite ⟨by decide, by decide, by decide, .inl rfl⟩) (by decide) replies deadline
  obtain ⟨laps, last, r', v, returned', polled⟩ :=
    (@requestStep_polls_iff tokenService fresh fresh tokenPrepared.2 tokenStep tokenStep.request true true [] request
      (by decide +kernel) explained prepared spoken fun _ => ticks).mpr fun f hazard =>
        returned.not_stops f (stops_requestStep_iff.mpr (.sending (by decide +kernel) explained prepared hazard))
  have same := (returned'.unique returned).1
  rw [← same, Bool.and_eq_true, beq_iff_eq] at good
  exact ⟨request, laps, last, r', v, returned', polled, good⟩

/-- A step without polling whose interval is more seconds than a double can hold. -/
def idleStep : Step := { probe with pollIntervalMs := 10 ^ 400 }

/-- The idle step as it was prepared. -/
def idlePrepared : Except Fault (Except PrepareError Request) × RunState :=
  ends (prepare (answering (.response {})) idleStep.request (fresh.chain (answering (.response {})).settings) true []
    idleStep.maxDurationMs) fresh

/-- The idle step is stopped by its interval before it is sent, though it would be sent once and answered. -/
theorem idle_interval_stops :
    idleStep.pollTimeoutMs = 0 ∧
      Stops (requestStep (answering (.response {})) idleStep idleStep.request true [] true) fresh .durationTooLarge ∧
      (ends (requestStep (answering (.response {})) idleStep idleStep.request true [] true) fresh).2.sent = [] ∧
      ¬ ∃ request laps last r v,
        Returns (requestStep (answering (.response {})) idleStep idleStep.request true [] true) fresh r v ∧
          Polled (answering (.response {})) (planOf idleStep idleStep.request true request idlePrepared.2.clock) laps last
            idlePrepared.2 r v := by
  have stopped : Stops (requestStep (answering (.response {})) idleStep idleStep.request true [] true) fresh
      .durationTooLarge := by
    obtain ⟨request, prepared⟩ : ∃ request, Returns (prepare (answering (.response {})) idleStep.request
        (fresh.chain (answering (.response {})).settings) true [] idleStep.maxDurationMs) fresh (.ok request)
        idlePrepared.2 :=
      returns_ok_of_any (by decide +kernel)
    have infinite : Double.ofQuotient (pollIntervalMs idleStep) 1000 = .infinite false := by decide +kernel
    have tooLong : Duration.seconds (pollIntervalMs idleStep) = .error .durationTooLarge := by
      rw [Duration.seconds, infinite]
    exact stops_requestStep_iff.mpr
      (.sending (by decide +kernel) (returns_pure.mpr ⟨rfl, rfl⟩) prepared (.interval tooLong))
  have unsent : (ends (requestStep (answering (.response {})) idleStep idleStep.request true [] true) fresh).2.sent = [] :=
    List.isEmpty_iff.mp (by decide +kernel)
  refine ⟨rfl, stopped, unsent, ?_⟩
  rintro ⟨request, laps, last, r, v, returned, -⟩
  exact returned.not_stops _ stopped

end ApiFlow.Running

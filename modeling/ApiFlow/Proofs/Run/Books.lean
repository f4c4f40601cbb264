import ApiFlow.Proofs.Order.Least
import ApiFlow.Proofs.Run.Turns

/-!
# The books of a run

A run that returns has a result for each of its steps up to some place, names the others as skipped, and says of every
step how it stands.  What it has called, its turns have called.

* `Booked` : the results and the skipped names of a run, next to its items.
* `FlowBook` : all that the run of a flow has written down about its steps.
* `run_keeps_books` : a run that returns has kept its books, be it of a flow or of plain requests in order.
-/

set_option autoImplicit false

namespace ApiFlow

open ApiFlow.Flow

theorem Summary.allPassed_eq (summary : Summary) : summary.allPassed = summary.results.all (·.success) := by
  rw [allPassed, failed, total, passed, Bool.eq_iff_iff, List.all_eq_true, decide_eq_true_iff, Nat.sub_eq_zero_iff_le]
  constructor
  · exact fun most => List.length_filter_eq_length_iff.mp (Nat.le_antisymm (List.length_filter_le ..) most)
  · exact fun all => (List.length_filter_eq_length_iff.mpr all).ge

namespace Running

variable {setup : Setup} {options : RunOptions} {s t : RunState}

/-! ## Results and skipped names -/

section Walk

variable {ι κ : Type} {take : κ → ι → Running (StepResult × κ)} {failFast : Bool} {items left : List ι} {k k' : κ}
  {turns : List (Turn ι κ)} {nameOf : ι → Text} {summary : Summary}

/-- A summary has results for the first of some items and names the others.  There are others only behind a failure that
is to end the run, and then everything before that failure has passed. -/
structure Booked (failFast : Bool) (nameOf : ι → Text) (items done left : List ι) (summary : Summary) : Prop where
  parts : items = done ++ left
  named : summary.results.map (·.name) = done.map nameOf
  skipped : summary.skipped = left.map nameOf
  whole : failFast = false → left = []
  passed : failFast = true → ∀ r ∈ summary.results.dropLast, r.success = true
  failed : left ≠ [] → ∃ r, summary.results.getLast? = some r ∧ r.success = false

/-- A walk that has written down its turns is booked. -/
theorem Walked.booked (walked : Walked take failFast items k s turns left k' t)
    (named : ∀ turn ∈ turns, turn.result.name = nameOf turn.item) (results : summary.results = turns.map (·.result))
    (skipped : summary.skipped = left.map nameOf) :
    Booked failFast nameOf items (turns.map (·.item)) left summary where
  parts := walked.taken.parts
  named := by
    rw [results, List.map_map, List.map_map]
    exact List.map_congr_left named
  skipped := skipped
  whole := walked.whole
  passed fast r listed := by
    rw [results, ← List.map_dropLast] at listed
    obtain ⟨turn, member, rfl⟩ := List.mem_map.mp listed
    exact walked.passed fast turn member
  failed some := by
    obtain ⟨turn, last, failed⟩ := walked.failed some
    refine ⟨turn.result, ?_, failed⟩
    rw [results, List.getLast?_map, last]
    rfl

end Walk

/-! ## How the steps stand -/

/-- The turns of steps with different ids say of each step how it has ended, and nothing of the others. -/
theorem Turns.stepStates {headers origins : Table Text} {items left : List Step} {course course' : Course}
    {turns : List (Turn Step Course)}
    (walked : Turns (takeStep setup headers origins) items course s turns left course' t)
    (distinct : (items.map (·.id)).Nodup) :
    (∀ turn ∈ turns, t.stepStates.get? turn.item.id = some (stateOf turn.result)) ∧
      ∀ id, id ∉ turns.map (·.item.id) → t.stepStates.get? id = s.stepStates.get? id := by
  induction walked with
  | none => exact ⟨List.forall_mem_nil _, fun _ _ => rfl⟩
  | @next step rest left course _ _ s u t r turns taken following ih =>
      obtain ⟨fresh, distinct⟩ := List.nodup_cons.mp distinct
      obtain ⟨ends, others⟩ := ih distinct
      have states := (stepTurn taken).states
      have once : step.id ∉ turns.map (·.item.id) := by
        intro again
        rw [following.parts] at fresh
        exact fresh (by simpa using Or.inl again)
      refine ⟨List.forall_mem_cons.mpr ⟨?_, ends⟩, fun id absent => ?_⟩
      · rw [others step.id once, states, Table.get?_set, if_pos rfl]
      · obtain ⟨other, absent⟩ := not_or.mp (mt List.mem_cons.mpr absent)
        rw [others id absent, states, Table.get?_set, if_neg (Ne.symm other), Table.get?_set, if_neg (Ne.symm other)]

/-- When a flow begins, every step is pending. -/
theorem get?_pending {ids : List Text} {id : Text} (member : id ∈ ids) :
    (Table.ofWrites (ids.map fun id => (id, StepState.pending))).get? id = some .pending := by
  have found : ∀ ids : List Text, id ∈ ids →
      Table.get? (ids.map fun id => (id, StepState.pending)) id = some .pending := by
    intro ids member
    induction ids with
    | nil => cases member
    | cons first rest ih =>
        by_cases here : first = id
        · simp [Table.get?, here]
        · simpa [Table.get?, here] using ih ((List.mem_cons.mp member).resolve_left (Ne.symm here))
  rw [Table.ofWrites, Table.get?_setAll, Table.last?, ← List.map_reverse, found _ (List.mem_reverse.mpr member)]
  rfl

/-! ## Whole flows -/

/-- The books of a flow: its turns in order, what they have called, and how the run and its steps stand at the end. -/
structure FlowBook (setup : Setup) (options : RunOptions) (d : Document) (source : Text) (s : RunState)
    (summary : Summary) (t : RunState) (turns : List (Turn Step Course)) (left : List Step) : Prop where
  walked : ∃ u course v, Returns (opening setup options d source) s () u ∧
    Turns (takeStep setup d.info.headers (captureOrigins (order d).1)) (order d).1
      { summary := { started := s.clock } } u turns left course v
  booked : Booked options.failFast Step.displayName (order d).1 (turns.map (·.item)) left summary
  results : summary.results = turns.map (·.result)
  sent : t.sent = s.sent ++ turns.flatMap Turn.sends
  commands : t.commands = s.commands ++ turns.flatMap Turn.runs
  rejected : ∀ turn ∈ turns, ∀ problem,
    preflight? setup.builtins (turn.before.chain setup.settings) turn.item (captureOrigins (order d).1)
      turn.course.failed = some problem →
    turn.result = rejected setup turn.item problem ∧ turn.sends = [] ∧ turn.runs = []
  phase : t.phase = if summary.results.all (·.success) then .allPassed else .someFailed
  states : (d.steps.map (·.id)).Nodup →
    (∀ turn ∈ turns, t.stepStates.get? turn.item.id = some (stateOf turn.result)) ∧
      ∀ step ∈ left, t.stepStates.get? step.id = some .pending

theorem keeps_stopAfter {γ : Type} (view : RunState → γ) (blind : ∀ s text, view { s with printed := text } = view s)
    (setup : Setup) (step : Step) (rest : List Step) (r : StepResult) (course : Course) :
    Keeps view (stopAfter setup step rest r course) :=
  Keeps.bind (keeps_say setup view blind _) fun _ => Keeps.pure

/-- How the run of a flow has gone: it was opened, it has taken its turns, and it has closed its summary. -/
structure FlowRun (setup : Setup) (options : RunOptions) (d : Document) (source : Text) (s : RunState)
    (summary : Summary) (t : RunState) (turns : List (Turn Step Course)) (left : List Step) (u : RunState)
    (course : Course) (v : RunState) : Prop where
  opened : Returns (opening setup options d source) s () u
  walked : Walked (takeStep setup d.info.headers (captureOrigins (order d).1)) options.failFast (order d).1
    { summary := { started := s.clock } } u turns left course v
  results : summary.results = turns.map (·.result)
  skipped : summary.skipped = left.map Step.displayName
  ledger : ledger t = ledger v
  stepStates : t.stepStates = v.stepStates
  phase : t.phase = if summary.allPassed then .allPassed else .someFailed

/-- A flow that returns has gone so. -/
theorem flowRun {d : Document} {source : Text} {summary : Summary}
    (returned : Returns (runDocument setup options d source) s summary t) :
    ∃ turns left u course v, FlowRun setup options d source s summary t turns left u course v := by
  obtain ⟨⟨⟩, u, opened⟩ := (safe_opening setup options d source).returns s
  rw [Returns, ends_runDocument opened] at returned
  obtain ⟨open_, v, taken, finished⟩ := returns_bind.mp returned
  obtain ⟨sameResults, sameSkipped⟩ := returns_finish finished
  obtain ⟨ended, phase⟩ := finish_leaves finished
  obtain ⟨turns, left, course, w, walked, recorded⟩ :=
    (walk_steps setup options d.info.headers (captureOrigins (order d).1)).walked (accounts_steps setup options _ _)
      (fun _ => Keeps.pure)
      (fun _ _ _ _ => keeps_stopAfter (fun s => (Running.ledger s, s.stepStates)) (fun _ _ => rfl) setup _ _ _ _)
      taken rfl
  obtain ⟨sameLedger, sameStates⟩ := Prod.mk.inj (ended.trans recorded.kept)
  refine ⟨turns, left, u, course, w, opened, walked, ?_, ?_, sameLedger, sameStates, phase⟩
  · rw [sameResults, recorded.results, List.nil_append]
  · rw [sameSkipped, recorded.skipped]

theorem FlowRun.book {d : Document} {source : Text} {summary : Summary} {turns : List (Turn Step Course)}
    {left : List Step} {u v : RunState} {course : Course}
    (run : FlowRun setup options d source s summary t turns left u course v) :
    FlowBook setup options d source s summary t turns left := by
  obtain ⟨begun, pending⟩ := opening_leaves run.opened
  have taken := run.walked.taken
  have each := taken.each fun taken => stepTurn taken
  constructor
  case walked => exact ⟨u, course, v, run.opened, taken⟩
  case booked =>
    exact run.walked.booked (taken.each fun taken => ((accounts_steps setup options _ _).take taken).2) run.results
      run.skipped
  case results => exact run.results
  case sent =>
    have grown : v.sent = u.sent ++ turns.flatMap Turn.sends := taken.log fun taken => (stepTurn taken).sent
    have before : u.sent = s.sent := congrArg Prod.fst begun
    have after : t.sent = v.sent := congrArg Prod.fst run.ledger
    rw [after, grown, before]
  case commands =>
    have grown : v.commands = u.commands ++ turns.flatMap Turn.runs := taken.log fun taken => (stepTurn taken).commands
    have before : u.commands = s.commands := congrArg (fun l => l.2.1) begun
    have after : t.commands = v.commands := congrArg (fun l => l.2.1) run.ledger
    rw [after, grown, before]
  case rejected => exact fun turn member => (each turn member).rejected
  case phase => rw [run.phase, Summary.allPassed_eq]
  case states =>
    intro distinct
    have ids : ((order d).1.map (·.id)).Nodup := ((order_perm d).map _).nodup_iff.mpr distinct
    obtain ⟨ended, others⟩ := taken.stepStates ids
    rw [run.stepStates]
    refine ⟨ended, fun step listed => ?_⟩
    have member : step.id ∈ (order d).1.map (·.id) := by
      rw [taken.parts]
      exact List.mem_map_of_mem (List.mem_append_right _ listed)
    have absent : step.id ∉ turns.map (·.item.id) := by
      rw [taken.parts, List.map_append, List.map_map] at ids
      exact fun taken => (List.nodup_append.mp ids).2.2 _ taken _ (List.mem_map_of_mem listed) rfl
    rw [others step.id absent, pending, get?_pending member]

/-- **The run of a flow that returns has kept its books.** -/
theorem flowBook {d : Document} {source : Text} {summary : Summary}
    (returned : Returns (runDocument setup options d source) s summary t) :
    ∃ turns left, FlowBook setup options d source s summary t turns left := by
  obtain ⟨turns, left, u, course, v, run⟩ := flowRun returned
  exact ⟨turns, left, run.book⟩

/-! ## Runs of either kind -/

theorem keeps_stopAfterPlain {γ : Type} (view : RunState → γ)
    (blind : ∀ s text, view { s with printed := text } = view s) (setup : Setup) (p : PlainRequest)
    (rest : List PlainRequest) (r : StepResult) (summary : Summary) :
    Keeps view (stopAfterPlain setup p rest r summary) :=
  Keeps.bind (keeps_say setup view blind _) fun _ => Keeps.pure

/-- **Plain requests that are run in order are booked.** -/
theorem booked_runPlainRequests {plains : List PlainRequest} {source : Text} {summary : Summary}
    (sequential : options.parallel = false)
    (returned : Returns (runPlainRequests setup options plains source) s summary t) :
    ∃ done left, Booked options.failFast PlainRequest.name plains done left summary := by
  obtain ⟨⟨⟩, u, opened⟩ := (safe_plainOpening setup plains source).returns s
  rw [Returns, ends_runPlainRequests sequential opened] at returned
  obtain ⟨open_, v, taken, finished⟩ := returns_bind.mp returned
  obtain ⟨sameResults, sameSkipped⟩ := returns_finish finished
  obtain ⟨turns, left, last, w, walked, recorded⟩ :=
    (walk_plains setup options).walked (accounts_plains setup options) (fun _ => Keeps.pure)
      (fun _ _ _ _ => keeps_stopAfterPlain ledger (fun _ _ => rfl) setup _ _ _ _) taken rfl
  refine ⟨turns.map (·.item), left, walked.booked ?_ ?_ ?_⟩
  · exact walked.taken.each fun taken => ((accounts_plains setup options).take taken).2
  · rw [sameResults, recorded.results]
    rfl
  · rw [sameSkipped, recorded.skipped]

/-- **A run that returns has kept its books.**  The run of a flow has a result for each of its steps up to some place and
has skipped the others; there are others only behind a failure that is to end the run.  All its calls are made in the
turns of steps, none of them for a step whose variables are missing; the run has passed exactly if all results are
successes; and if ids are different, each step is said to have ended as its result says, or to be pending still.  Plain
requests in order have results and skipped names in the same way. -/
theorem run_keeps_books (setup : Setup) (options : RunOptions) (source : Text) (s : RunState) :
    (∀ (d : Document) (summary : Summary) (t : RunState), Returns (runDocument setup options d source) s summary t →
      ∃ turns left, FlowBook setup options d source s summary t turns left) ∧
    (options.parallel = false → ∀ (plains : List PlainRequest) (summary : Summary) (t : RunState),
      Returns (runPlainRequests setup options plains source) s summary t →
        ∃ done left, Booked options.failFast PlainRequest.name plains done left summary) :=
  ⟨fun _ _ _ returned => flowBook returned, fun sequential _ _ _ returned => booked_runPlainRequests sequential returned⟩

/-- A second step, behind the probe. -/
def later : Step := { probe with id := "later" }

/-- A service that fails. -/
def failing : Setup := answering (.response { status := 500 })

/-- A flow that is to stop at its first failure, and does. -/
def stoppedFlow : Except Fault Summary × RunState :=
  ends (runDocument failing { failFast := true } { steps := [probe, later] } []) fresh

/-- Two lines that cannot be read, the first of which stops the run. -/
def stoppedLines : Except Fault Summary × RunState :=
  ends (runPlainRequests failing { failFast := true } [⟨1, "?", false⟩, ⟨2, "?", false⟩] []) fresh

/-- Both runs stop at their first failure; what is left is skipped, and the step that is left is pending. -/
theorem run_keeps_books_stopped :
    (∃ summary, Returns (runDocument failing { failFast := true } { steps := [probe, later] } []) fresh summary
      stoppedFlow.2 ∧ summary.skipped = ["later".toList] ∧
      stoppedFlow.2.stepStates.get? "later".toList = some .pending) ∧
    (∃ summary, Returns (runPlainRequests failing { failFast := true } [⟨1, "?", false⟩, ⟨2, "?", false⟩] []) fresh
      summary stoppedLines.2 ∧ summary.skipped = ["Line 2".toList]) := by
  obtain ⟨flows, lines⟩ := run_keeps_books failing { failFast := true } [] fresh
  have rest {α : Type} {first second : α} {done left : List α} (parts : [first, second] = done ++ left)
      (one : done.length = 1) : left = [second] := by
    obtain ⟨x, rfl⟩ := List.length_eq_one_iff.mp one
    exact (List.cons.inj parts).2.symm
  constructor
  · obtain ⟨summary, returned, one⟩ : ∃ summary, Returns
        (runDocument failing { failFast := true } { steps := [probe, later] } []) fresh summary stoppedFlow.2 ∧
        (summary.results.length == 1) = true := returns_of_any (by decide +kernel)
    obtain ⟨turns, left, book⟩ := flows _ summary _ returned
    obtain rfl : left = [later] := rest book.booked.parts (by simpa [book.results] using one)
    exact ⟨summary, returned, book.booked.skipped, (book.states (by decide)).2 later List.mem_cons_self⟩
  · obtain ⟨summary, returned, one⟩ : ∃ summary, Returns
        (runPlainRequests failing { failFast := true } [⟨1, "?", false⟩, ⟨2, "?", false⟩] []) fresh summary
        stoppedLines.2 ∧ (summary.results.length == 1) = true := returns_of_any (by decide +kernel)
    obtain ⟨done, left, booked⟩ := lines rfl _ summary _ returned
    have count : done.length = 1 := by
      have same := congrArg List.length booked.named
      simpa using same.symm.trans ((List.length_map ..).trans (by simpa using one))
    obtain rfl := rest booked.parts count
    exact ⟨summary, returned, booked.skipped.trans (by decide)⟩

end Running

end ApiFlow

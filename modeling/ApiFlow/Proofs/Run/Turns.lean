import ApiFlow.Proofs.Run.Effect
import ApiFlow.Proofs.Run.Escape

/-!
# The turns of a run

A walk that returns has taken its items one after the other, up to the last or up to a failure.  Its turns tell how: what
was known and how the run stood when an item was taken, what its result was, and how the run stood then.

* `Turns` : the turns of a walk, each beginning where the one before it has ended.
* `Walk.walked` : a walk that returns has turns, and the items that are left are those behind a failure that ended it.
* `StepTurn` : a turn of a flow; the step is written down as running and waits, its variables are checked, and it runs.
* `Turns.effect` : what the turns of a flow have written.
-/

set_option autoImplicit false

namespace ApiFlow.Running

open ApiFlow.Flow

variable {setup : Setup} {options : RunOptions} {s t u : RunState}

/-! ## Turns of a walk -/

section Walk

variable {ι κ : Type} {take : κ → ι → Running (StepResult × κ)} {failFast : Bool} {items left : List ι} {k k' : κ}

/-- An item that was taken: what was known, and how the run stood before and after. -/
structure Turn (ι κ : Type) where
  item : ι
  course : κ
  before : RunState
  result : StepResult
  after : RunState

/-- The requests that were sent in a turn. -/
def Turn.sends (turn : Turn ι κ) : List Request := turn.after.sent.drop turn.before.sent.length

/-- The commands that were run in a turn. -/
def Turn.runs (turn : Turn ι κ) : List (Text × Double) := turn.after.commands.drop turn.before.commands.length

/-- Some items were taken one after the other, and others are left. -/
inductive Turns (take : κ → ι → Running (StepResult × κ)) :
    List ι → κ → RunState → List (Turn ι κ) → List ι → κ → RunState → Prop
  | none {items : List ι} {k : κ} {s : RunState} : Turns take items k s [] items k s
  | next {i : ι} {rest left : List ι} {k k' k'' : κ} {s t u : RunState} {r : StepResult} {turns : List (Turn ι κ)}
      (taken : Returns (take k i) s (r, k') t) (following : Turns take rest k' t turns left k'' u) :
      Turns take (i :: rest) k s (⟨i, k, s, r, t⟩ :: turns) left k'' u

variable {turns : List (Turn ι κ)}

theorem Turns.parts (walked : Turns take items k s turns left k' t) : items = turns.map (·.item) ++ left := by
  induction walked with
  | none => rfl
  | next taken following ih => rw [ih, List.map_cons, List.cons_append]

/-- What every taking of an item guarantees holds of each turn. -/
theorem Turns.each {P : Turn ι κ → Prop} (walked : Turns take items k s turns left k' t)
    (one : ∀ {k i s r k' t}, Returns (take k i) s (r, k') t → P ⟨i, k, s, r, t⟩) : ∀ turn ∈ turns, P turn := by
  induction walked with
  | none => exact fun _ never => nomatch never
  | next taken following ih => exact List.forall_mem_cons.mpr ⟨one taken, ih⟩

/-- Behind any turn, the walk goes on as it has begun. -/
theorem Turns.split {before after : List (Turn ι κ)} {turn : Turn ι κ}
    (walked : Turns take items k s (before ++ turn :: after) left k' t) :
    ∃ rest k'', Returns (take turn.course turn.item) turn.before (turn.result, k'') turn.after ∧
      Turns take rest k'' turn.after after left k' t := by
  induction before generalizing items k s with
  | nil =>
      cases walked with
      | next taken following => exact ⟨_, _, taken, following⟩
  | cons first before ih =>
      cases walked with
      | next taken following => exact ih following

/-- A log that every taking of an item only adds to has gained what was added in the turns. -/
theorem Turns.log {α : Type} {log : RunState → List α} (walked : Turns take items k s turns left k' t)
    (grows : ∀ {k i s r k' t}, Returns (take k i) s (r, k') t → log s <+: log t) :
    log t = log s ++ turns.flatMap fun turn => (log turn.after).drop (log turn.before).length := by
  induction walked with
  | none => simp
  | next taken following ih =>
      obtain ⟨more, grown⟩ := grows taken
      rw [ih, List.flatMap_cons, ← grown, List.drop_left, List.append_assoc]

/-- How a walk has gone that may end at a failure: every item was taken, or those are left that come after the failure. -/
structure Walked (take : κ → ι → Running (StepResult × κ)) (failFast : Bool) (items : List ι) (k : κ) (s : RunState)
    (turns : List (Turn ι κ)) (left : List ι) (k' : κ) (t : RunState) : Prop where
  taken : Turns take items k s turns left k' t
  whole : failFast = false → left = []
  passed : failFast = true → ∀ turn ∈ turns.dropLast, turn.result.success = true
  failed : left ≠ [] → ∃ turn, turns.getLast? = some turn ∧ turn.result.success = false

theorem Walked.done : Walked take failFast [] k s [] [] k s where
  taken := .none
  whole _ := rfl
  passed _ _ never := nomatch never
  failed some := absurd rfl some

/-- A failure ends a walk that is to stop at failures. -/
theorem Walked.stop {i : ι} {r : StepResult} (taken : Returns (take k i) s (r, k') t)
    (isEnd : (!r.success && failFast) = true) : Walked take failFast (i :: left) k s [⟨i, k, s, r, t⟩] left k' t where
  taken := .next taken .none
  whole slow := by simp [slow] at isEnd
  passed _ _ never := nomatch never
  failed _ := ⟨_, rfl, by simpa using (Bool.and_eq_true_iff.mp isEnd).1⟩

/-- One more turn in front of a walk that goes on. -/
theorem Walked.next {i : ι} {rest : List ι} {k'' : κ} {r : StepResult} (taken : Returns (take k i) s (r, k') t)
    (goesOn : (!r.success && failFast) = false) (walked : Walked take failFast rest k' t turns left k'' u) :
    Walked take failFast (i :: rest) k s (⟨i, k, s, r, t⟩ :: turns) left k'' u where
  taken := .next taken walked.taken
  whole := walked.whole
  passed fast := by
    have success : r.success = true := by simpa [fast] using goesOn
    cases turns with
    | nil => exact fun _ never => nomatch never
    | cons turn turns => exact List.forall_mem_cons.mpr ⟨success, walked.passed fast⟩
  failed some := by
    obtain ⟨turn, last, failed⟩ := walked.failed some
    refine ⟨turn, ?_, failed⟩
    rw [List.getLast?_cons, last]
    rfl

/-- What a walk writes down about its turns, and what of the state it does not touch when it ends. -/
structure Recorded {γ : Type} (view : RunState → γ) (summaryOf : κ → Summary) (nameOf : ι → Text) (k : κ)
    (turns : List (Turn ι κ)) (left : List ι) (reached : RunState) (summary : Summary) (t : RunState) : Prop where
  results : summary.results = (summaryOf k).results ++ turns.map (·.result)
  skipped : summary.skipped = left.map nameOf
  kept : view t = view reached

/-- **A walk that returns has turns**, and it has written down their results and the names of the items that are left. -/
theorem Walk.walked {γ : Type} {view : RunState → γ} {walk : List ι → κ → Running Summary}
    {ending : ι → List ι → StepResult → κ → Running Summary} {summaryOf : κ → Summary} {nameOf : ι → Text}
    (w : Walk take failFast walk ending) (accounts : Accounts take walk ending summaryOf nameOf)
    (done : ∀ k, Keeps view (walk [] k)) (ended : ∀ i rest r k, Keeps view (ending i rest r k)) {summary : Summary}
    (returned : Returns (walk items k) s summary t) (fresh : (summaryOf k).skipped = []) :
    ∃ turns left k' u, Walked take failFast items k s turns left k' u ∧
      Recorded view summaryOf nameOf k turns left u summary t := by
  induction items generalizing k s with
  | nil =>
      refine ⟨[], [], k, s, .done, ?_, ?_, done k returned⟩
      · simp [accounts.nil returned]
      · simp [accounts.nil returned, fresh]
  | cons i rest ih =>
      rw [w.cons] at returned
      obtain ⟨⟨r, k₁⟩, v, taken, after⟩ := returns_bind.mp returned
      obtain ⟨added, -⟩ := accounts.take taken
      dsimp only at after
      cases isEnd : !r.success && failFast with
      | true =>
          rw [if_pos isEnd] at after
          refine ⟨[⟨i, k, s, r, v⟩], rest, k₁, v, .stop taken isEnd, ?_, ?_, ended i rest r k₁ after⟩
          · simp [accounts.ending after, added, Summary.skip, Summary.add]
          · simp [accounts.ending after, added, Summary.skip, Summary.add, fresh]
      | false =>
          rw [if_neg (by simp [isEnd])] at after
          obtain ⟨turns, left, k', u, walked, recorded⟩ := ih after (by rw [added, Summary.add, fresh])
          refine ⟨⟨i, k, s, r, v⟩ :: turns, left, k', u, walked.next taken isEnd, ?_, recorded.skipped, recorded.kept⟩
          rw [recorded.results, added]
          simp [Summary.add]

end Walk

/-! ## What a step calls, and what it stores -/

theorem runStep_calls {step : Step} {strict : Bool} {headers : Table Text} {r : StepResult}
    (returned : Returns (runStep setup step strict headers) s r t) :
    s.sent <+: t.sent ∧ s.commands <+: t.commands := by
  unfold runStep at returned
  cases action : step.action with
  | send template =>
      rw [action] at returned
      obtain ⟨_, answers, -⟩ := requestStep_effect returned
      have same : t.commands = s.commands :=
        congrArg Prod.fst (keeps_requestStep setup step template strict headers true returned)
      exact ⟨answers.grown, same ▸ List.prefix_rfl⟩
  | run c =>
      rw [action] at returned
      obtain ⟨_, outputs, (_ : Effect setup.settings s _ [] t)⟩ := commandStep_effect returned
      have same : t.sent = s.sent := congrArg Prod.fst (keeps_commandStep setup step c returned)
      exact ⟨same ▸ List.prefix_rfl, outputs.grown⟩

/-- The last of the requests that a step has sent has brought the last answer. -/
theorem lastAnswer?_mem {budgetMs : Int} {response : Response} (grown : s.sent <+: t.sent)
    (more : s.sent.length < t.sent.length) (answer : lastAnswer? setup budgetMs t = some response) :
    response ∈ (added s.sent t.sent).filterMap (accepted? setup budgetMs) := by
  obtain ⟨new, grown⟩ := grown
  rcases List.eq_nil_or_concat new with rfl | ⟨front, request, rfl⟩
  · rw [← grown, List.append_nil] at more
    exact absurd more (Nat.lt_irrefl _)
  · rw [List.concat_eq_append] at grown
    rw [lastAnswer?, lastReply?, ← grown] at answer
    rw [← grown, added_append, List.mem_filterMap]
    refine ⟨(request, s.sent.length + front.length), ?_, ?_⟩
    · rw [List.zipIdx_append]
      simp
    · simpa [accepted?, ← Nat.add_assoc] using answer

/-- **What a step stores it has captured.** -/
theorem storedOf_subset {step : Step} {strict : Bool} {headers : Table Text} {r : StepResult}
    (returned : Returns (runStep setup step strict headers) s r t) :
    storedOf setup step r.success t ⊆ captured setup step s t := by
  unfold storedOf
  split
  · rename_i stores
    obtain ⟨passed, request⟩ := Bool.and_eq_true_iff.mp stores
    have more := (runStep_effect returned).2 passed (by simpa using request)
    intro write member
    cases answer : lastAnswer? setup step.maxDurationMs t with
    | none => simp [lastCaptured, answer] at member
    | some response =>
        rw [lastCaptured, answer] at member
        have sent := lastAnswer?_mem (runStep_calls returned).1 more answer
        unfold Step.isCommand at request
        unfold captured products
        cases action : step.action with
        | run c => simp [action] at request
        | send template =>
            exact List.mem_flatMap.mpr ⟨.body response.body, List.mem_map_of_mem sent, member⟩
  · exact List.nil_subset _

/-! ## Turns of a flow -/

/-- What comes before a step is prepared: it is written down as running and announced, and it waits. -/
def comeUp (setup : Setup) (step : Step) : Running Unit := do
  markStep step.id .running
  say setup (Report.stepStarted step.displayName (detail step) step.line)
  waitBefore setup step

/-- Runs a step that has come up, unless a variable that it needs has no value. -/
def attempt (setup : Setup) (headers origins : Table Text) (failed : List Text) (step : Step) (vars : Table Text) :
    Running StepResult :=
  match preflight? setup.builtins vars step origins failed with
  | some problem => return rejected setup step problem
  | none => runStep setup step true headers

theorem takeStep_eq (headers origins : Table Text) (course : Course) (step : Step) :
    takeStep setup headers origins course step = (do
      comeUp setup step
      let r ← attempt setup headers origins course.failed step ((← get).chain setup.settings)
      say setup (Report.stepFinished r)
      markStep step.id (stateOf r)
      return (r, {
        summary := course.summary.add r
        failed := if r.success then course.failed else course.failed ++ [step.displayName] })) := by
  simp only [takeStep, flowStep, comeUp, bind_assoc]
  rfl

/-- What a run has called, written and stored. -/
def ledger (s : RunState) : List Request × List (Text × Double) × Context × Option Store :=
  (s.sent, s.commands, s.context, s.store?)

theorem keeps_ledger_comeUp (setup : Setup) (step : Step) : Keeps ledger (comeUp setup step) :=
  Keeps.bind (Keeps.modify fun _ => rfl) fun _ => Keeps.bind (keeps_say setup ledger (fun _ _ => rfl) _) fun _ =>
    keeps_waitBefore ledger (fun _ _ => rfl) (fun _ _ _ => rfl) setup step

theorem effect_of_ledger {settings : Settings} (same : ledger t = ledger s) : Effect settings s [] [] t :=
  .of_kept (congrArg (fun l => l.2.2.1) same) (congrArg (fun l => l.2.2.2) same)

theorem captured_congr {step : Step} {s' t' : RunState} (before : ledger s' = ledger s) (after : ledger t' = ledger t) :
    captured setup step s' t' = captured setup step s t := by
  simp only [ledger, Prod.mk.injEq] at before after
  simp only [captured, products, before.1, before.2.1, after.1, after.2.1]

theorem chain_of_ledger {settings : Settings} (same : ledger t = ledger s) : t.chain settings = s.chain settings := by
  simp only [ledger, Prod.mk.injEq] at same
  rw [RunState.chain, RunState.chain, RunState.stored, RunState.stored, same.2.2.1, same.2.2.2]

/-- What a step has captured in its turn. -/
def Turn.captured (setup : Setup) (turn : Turn Step Course) : List (Text × Text) :=
  Running.captured setup turn.item turn.before turn.after

/-- What is known of the turn of a step. -/
structure StepTurn (setup : Setup) (origins : Table Text) (turn : Turn Step Course) : Prop where
  effect : ∃ stored, stored ⊆ turn.captured setup ∧
    Effect setup.settings turn.before (turn.captured setup) stored turn.after
  sent : turn.before.sent <+: turn.after.sent
  commands : turn.before.commands <+: turn.after.commands
  rejected : ∀ problem,
    preflight? setup.builtins (turn.before.chain setup.settings) turn.item origins turn.course.failed = some problem →
      turn.result = rejected setup turn.item problem ∧ turn.sends = [] ∧ turn.runs = []
  states : turn.after.stepStates =
    (turn.before.stepStates.set turn.item.id .running).set turn.item.id (stateOf turn.result)

theorem keeps_stepStates_attempt (headers origins : Table Text) (failed : List Text) (step : Step) (vars : Table Text) :
    Keeps RunState.stepStates (attempt setup headers origins failed step vars) := by
  unfold attempt
  split
  · exact Keeps.pure
  · unfold runStep
    split
    · exact (keeps_requestStep setup step _ true headers true).comp fun o => o.2.2
    · exact (keeps_commandStep setup step _).comp fun o => o.2.2

theorem stepStates_comeUp {step : Step} (came : Returns (comeUp setup step) s () t) :
    t.stepStates = s.stepStates.set step.id .running := by
  obtain ⟨_, u, marked, waiting⟩ := returns_bind.mp came
  have kept : t.stepStates = u.stepStates :=
    Keeps.bind (keeps_say setup RunState.stepStates (fun _ _ => rfl) _)
      (fun _ => keeps_waitBefore RunState.stepStates (fun _ _ => rfl) (fun _ _ _ => rfl) setup step) waiting
  rw [kept, returns_modify.mp marked]

/-- An attempt of a step that needs a missing variable does nothing; any other runs the step. -/
theorem attempt_cases {headers origins : Table Text} {failed : List Text} {step : Step} {vars : Table Text}
    {r : StepResult} (attempted : Returns (attempt setup headers origins failed step vars) s r t) :
    (∃ problem, preflight? setup.builtins vars step origins failed = some problem ∧
      r = rejected setup step problem ∧ t = s) ∨
    (preflight? setup.builtins vars step origins failed = none ∧ Returns (runStep setup step true headers) s r t) := by
  unfold attempt at attempted
  cases ready : preflight? setup.builtins vars step origins failed with
  | some problem =>
      rw [ready] at attempted
      exact .inl ⟨problem, rfl, returns_pure.mp attempted⟩
  | none =>
      rw [ready] at attempted
      exact .inr ⟨rfl, attempted⟩

theorem captured_self (setup : Setup) (step : Step) (s : RunState) : captured setup step s s = [] := by
  cases action : step.action <;> simp [captured, products, added, action]

/-- What an attempt writes, and that it only adds to what the run has called. -/
theorem attempt_effect {headers origins : Table Text} {failed : List Text} {step : Step} {vars : Table Text}
    {r : StepResult} (attempted : Returns (attempt setup headers origins failed step vars) s r t) :
    (∃ stored, stored ⊆ captured setup step s t ∧ Effect setup.settings s (captured setup step s t) stored t) ∧
      s.sent <+: t.sent ∧ s.commands <+: t.commands := by
  rcases attempt_cases attempted with ⟨problem, -, -, rfl⟩ | ⟨-, ran⟩
  · rw [captured_self]
    exact ⟨⟨[], List.nil_subset _, .of_same rfl fun _ => rfl⟩, List.prefix_rfl, List.prefix_rfl⟩
  · exact ⟨⟨_, storedOf_subset ran, (runStep_effect ran).1⟩, runStep_calls ran⟩

/-- A turn in its parts: the step comes up, is attempted, is reported, and its end is written down. -/
theorem returns_takeStep {headers origins : Table Text} {course course' : Course} {step : Step} {r : StepResult}
    (taken : Returns (takeStep setup headers origins course step) s (r, course') t) :
    ∃ u v, Returns (comeUp setup step) s () u ∧
      Returns (attempt setup headers origins course.failed step (s.chain setup.settings)) u r v ∧
      ledger u = ledger s ∧ ledger t = ledger v ∧ t.stepStates = v.stepStates.set step.id (stateOf r) := by
  rw [takeStep_eq] at taken
  obtain ⟨_, u₀, came, attempting⟩ := returns_bind.mp taken
  obtain ⟨u₁, u, got, trying⟩ := returns_bind.mp attempting
  obtain ⟨rfl, rfl⟩ := returns_get.mp got
  obtain ⟨r', v, attempted, reporting⟩ := returns_bind.mp trying
  obtain ⟨_, w, said, marking⟩ := returns_bind.mp reporting
  obtain ⟨_, x, marked, last⟩ := returns_bind.mp marking
  obtain ⟨same, rfl⟩ := returns_pure.mp last
  obtain rfl : r = r' := congrArg Prod.fst same
  have before : ledger u = ledger s := keeps_ledger_comeUp setup step came
  have reported : (ledger w, w.stepStates) = (ledger v, v.stepStates) :=
    keeps_say setup (fun s => (ledger s, s.stepStates)) (fun _ _ => rfl) _ said
  obtain rfl := returns_modify.mp marked
  rw [chain_of_ledger before] at attempted
  refine ⟨u, v, came, attempted, before, congrArg Prod.fst reported, ?_⟩
  exact congrArg (fun states => states.set step.id (stateOf r)) (congrArg Prod.snd reported)

/-- **The turn of a step**: what it writes, what it calls, and how it is written down. -/
theorem stepTurn {headers origins : Table Text} {course course' : Course} {step : Step} {r : StepResult}
    (taken : Returns (takeStep setup headers origins course step) s (r, course') t) :
    StepTurn setup origins ⟨step, course, s, r, t⟩ := by
  obtain ⟨u, v, came, attempted, before, after, states⟩ := returns_takeStep taken
  obtain ⟨⟨stored, within, effect⟩, sent, commands⟩ := attempt_effect attempted
  have now : captured setup step s t = captured setup step u v := captured_congr before.symm after
  have calls : u.sent = s.sent ∧ u.commands = s.commands ∧ t.sent = v.sent ∧ t.commands = v.commands :=
    ⟨congrArg Prod.fst before, congrArg (fun l => l.2.1) before, congrArg Prod.fst after,
      congrArg (fun l => l.2.1) after⟩
  obtain ⟨sentBefore, commandsBefore, sentAfter, commandsAfter⟩ := calls
  constructor
  case effect =>
    refine ⟨stored, ?_, ?_⟩
    · rw [Turn.captured, now]
      exact within
    · rw [Turn.captured, now]
      exact (effect_of_ledger before).between effect (effect_of_ledger after)
  case sent =>
    rw [← sentBefore, sentAfter]
    exact sent
  case commands =>
    rw [← commandsBefore, commandsAfter]
    exact commands
  case rejected =>
    intro problem bad
    rcases attempt_cases attempted with ⟨problem', bad', same, rfl⟩ | ⟨ready, -⟩
    · obtain rfl : problem' = problem := Option.some.inj (bad'.symm.trans bad)
      refine ⟨same, ?_, ?_⟩
      · rw [Turn.sends, sentAfter, sentBefore, List.drop_length]
      · rw [Turn.runs, commandsAfter, commandsBefore, List.drop_length]
    · cases ready.symm.trans bad
  case states =>
    have kept : v.stepStates = u.stepStates := keeps_stepStates_attempt headers origins _ step _ attempted
    rw [states, kept, stepStates_comeUp came]

/-- **What the turns of a flow write**: their captures into the variables, and some of them into the store. -/
theorem Turns.effect {headers origins : Table Text} {items left : List Step} {course course' : Course}
    {turns : List (Turn Step Course)}
    (walked : Turns (takeStep setup headers origins) items course s turns left course' t) :
    ∃ stored, stored ⊆ turns.flatMap (Turn.captured setup) ∧
      Effect setup.settings s (turns.flatMap (Turn.captured setup)) stored t := by
  induction walked with
  | none => exact ⟨[], List.nil_subset _, .of_same rfl fun _ => rfl⟩
  | next taken following ih =>
      obtain ⟨first, within, effect⟩ := (stepTurn taken).effect
      obtain ⟨rest, within', effect'⟩ := ih
      refine ⟨first ++ rest, List.append_subset.mpr ⟨?_, ?_⟩, effect.trans effect'⟩
      · exact fun write member => List.mem_append_left _ (within member)
      · exact fun write member => List.mem_append_right _ (within' member)

/-! ## Whole flows -/

theorem keeps_announce {γ : Type} (view : RunState → γ) (blind : ∀ s text, view { s with printed := text } = view s)
    (blind' : ∀ s notes, view { s with notes := notes } = view s) (setup : Setup) (options : RunOptions) (d : Document)
    (count : Nat) (source : Text) : Keeps view (announce setup options d count source) := by
  have quiet (text : Text) : Keeps view (say setup text) := keeps_say setup view blind text
  have diagram : Keeps view (if !d.edges.isEmpty && setup.verbose then say setup (Report.flowchart (diagram d))
      else pure () : Running Unit) := by
    split
    · exact quiet _
    · exact Keeps.pure
  refine Keeps.bind (Keeps.forM (fun _ => quiet _) d.warnings) fun _ => Keeps.bind (quiet _) fun _ => ?_
  by_cases parallel : options.parallel = true
  · rw [if_pos parallel]
    exact Keeps.bind (keeps_noteAll view blind' _) fun _ => Keeps.bind (quiet _) fun _ => diagram
  · rw [if_neg parallel]
    exact diagram

/-- When a flow begins, nothing was called or written, and every step is pending. -/
theorem opening_leaves {d : Document} {source : Text} (opened : Returns (opening setup options d source) s () t) :
    ledger t = ledger s ∧
      t.stepStates = Table.ofWrites (((order d).1.map (·.id)).map fun id => (id, StepState.pending)) := by
  obtain ⟨_, u, noted, beginning⟩ := returns_bind.mp opened
  obtain ⟨_, v, begun, announced⟩ := returns_bind.mp beginning
  have kept : (ledger t, t.stepStates) = (ledger v, v.stepStates) :=
    keeps_announce (fun s => (ledger s, s.stepStates)) (fun _ _ => rfl) (fun _ _ => rfl) _ _ _ _ _ announced
  obtain ⟨same, states⟩ := Prod.mk.inj kept
  have before : ledger u = ledger s := keeps_noteAll ledger (fun _ _ => rfl) _ noted
  obtain rfl := returns_modify.mp begun
  exact ⟨same.trans before, states⟩

/-- When a run ends, nothing more is called or written, and it is said how the run stands. -/
theorem finish_leaves {summary closed : Summary} (finished : Returns (finish setup summary) s closed t) :
    (ledger t, t.stepStates) = (ledger s, s.stepStates) ∧
      t.phase = if closed.allPassed then .allPassed else .someFailed := by
  obtain ⟨-, rfl⟩ := Running.finished finished
  exact ⟨rfl, rfl⟩

end ApiFlow.Running

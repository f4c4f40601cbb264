import Mathlib.Data.List.Forall2
import Mathlib.Data.Prod.Basic
import ApiFlow.Proofs.Run.Effect
import ApiFlow.Proofs.Run.Lap
import ApiFlow.Proofs.Run.Ready

/-!
# What a request step adds to the history

Each response that a request step accepts goes into the history before anything is made of it, so retries, rounds and
later failures neither drop nor repeat a record.  A record is numbered by its place in the history.

* `Store.Gains` : from one store to another by single writes, with the records that were added and their numbers.
* `Record.Tells` : what a record says about a request and its response.
* `Enters` : the records that went into the store of a run from one state to another.
* `round_records`, `rounds_records` : one round, and all rounds of a step.
* `requestStep_records` : the records of a step are those of its accepted responses, in order.
-/

set_option autoImplicit false

namespace ApiFlow

open ApiFlow.Flow

/-! ## Stores that grow -/

namespace Store

variable {st st' st'' : Store} {given more : List (Nat × Record)}

/-- From one store to another by writes of variables and of records; each record with the number that it was given. -/
inductive Gains (st : Store) : List (Nat × Record) → Store → Prop
  | same : Gains st [] st
  | save {given : List (Nat × Record)} {st' : Store} (before : Gains st given st') (project env name value : Text) :
      Gains st given (st'.save project env name value)
  | append {given : List (Nat × Record)} {st' : Store} (before : Gains st given st') (record : Record) :
      Gains st (given ++ [((st'.append record).1, record)]) (st'.append record).2

theorem Gains.trans (first : Gains st given st') (second : Gains st' more st'') : Gains st (given ++ more) st'' := by
  induction second with
  | same => exact (List.append_nil given).symm ▸ first
  | save _ project env name value ih => exact ih.save project env name value
  | append _ record ih => exact List.append_assoc .. ▸ ih.append record

/-- What gains keeps its records, with the new ones behind them. -/
theorem Gains.records (gains : Gains st given st') : st'.records = st.records ++ given.map Prod.snd := by
  induction gains with
  | same => simp
  | save _ _ _ _ _ ih => exact ih
  | append _ record ih =>
      rw [Store.append, ih, List.map_append, List.append_assoc]
      rfl

/-- The numbers go on from the records that are there. -/
theorem Gains.numbered (gains : Gains st given st') :
    given = ((given.map Prod.snd).zipIdx (st.records.length + 1)).map Prod.swap := by
  induction gains with
  | same => rfl
  | save _ _ _ _ _ ih => exact ih
  | @append given st' before record ih =>
      have number : (st'.append record).1 = st.records.length + 1 + (given.map Prod.snd).length := by
        rw [Store.append, before.records, List.length_append]
        omega
      rw [number, List.map_append, List.zipIdx_append, List.map_append, ← ih]
      rfl

/-- **A record has the number of its place.** -/
theorem Gains.mem_iff (gains : Gains st given st') {number : Nat} {record : Record} :
    (number, record) ∈ given ↔ st.records.length < number ∧ st'.records[number - 1]? = some record := by
  have swapped : (number, record) ∈ given ↔ (record, number) ∈ (given.map Prod.snd).zipIdx (st.records.length + 1) := by
    conv_lhs => rw [gains.numbered]
    exact List.mem_map_of_injective (a := (record, number)) Prod.swap_injective
  rw [swapped, List.mk_mem_zipIdx_iff_le_and_getElem?_sub, gains.records]
  refine and_congr_right fun later => ?_
  rw [List.getElem?_append_right (by omega)]
  have place : number - (st.records.length + 1) = number - 1 - st.records.length := by omega
  rw [place]

/-- Captured values are saved one after the other. -/
theorem gains_saveCaptured (settings : Settings) (st : Store) (outcomes : List Capture.Outcome) :
    Gains st [] (outcomes.foldl (Running.saveCaptured settings) st) := by
  induction outcomes generalizing st with
  | nil => exact .same
  | cons o rest ih =>
      have one : Gains st [] (Running.saveCaptured settings st o) := by
        unfold Running.saveCaptured
        split
        · exact .same
        · exact .save .same _ _ _ _
      exact one.trans (ih _)

end Store

/-- What a record says: the request as it was sent, its response, and where it belongs. -/
structure Record.Tells (record : Record) (settings : Settings) (request : Request) (response : Response) : Prop where
  method : record.method = request.method
  url : record.url = request.url
  requestHeaders : record.requestHeaders = request.headers
  requestBody : record.requestBody = Utf8.decodeLossy request.body
  status : record.status = response.status
  responseHeaders : record.responseHeaders = response.headers
  responseBody : record.responseBody = response.body
  durationMs : record.durationMs = response.durationMs
  environment : record.environment = settings.activeEnv
  project : record.project = settings.projectId

theorem tells_recordOf (settings : Settings) (request : Request) (response : Response) :
    (Running.recordOf settings request response).Tells settings request response := by
  constructor <;> rfl

namespace Running

variable {setup : Setup} {s t u : RunState} {p : Plan} {records records' : List Record}

/-! ## What goes into the store -/

/-- From one state to another just these records went into the history, if there is one. -/
structure Enters (s : RunState) (records : List Record) (t : RunState) : Prop where
  absent : s.store? = none → t.store? = none
  present : ∀ st, s.store? = some st →
    ∃ st' given, t.store? = some st' ∧ st.Gains given st' ∧ given.map Prod.snd = records

theorem Enters.of_same (same : t.store? = s.store?) : Enters s [] t where
  absent none := same.trans none
  present st some := ⟨st, [], same.trans some, .same, rfl⟩

theorem Enters.trans (first : Enters s records t) (second : Enters t records' u) :
    Enters s (records ++ records') u where
  absent none := second.absent (first.absent none)
  present st some := by
    obtain ⟨st', given, some', gains, rfl⟩ := first.present st some
    obtain ⟨st'', more, some'', gains', rfl⟩ := second.present st' some'
    exact ⟨st'', given ++ more, some'', gains.trans gains', List.map_append⟩

theorem Enters.of_knowledge (same : knowledge t = knowledge s) : Enters s [] t :=
  .of_same (congrArg (fun known => known.2.1) same)

/-- The records of some responses, if the step belongs into the history. -/
def recordsOf (setup : Setup) (p : Plan) (found : List Response) : List Record :=
  if p.record && setup.keepHistory then found.map (recordOf setup.settings p.request) else []

theorem recordsOf_nil (setup : Setup) (p : Plan) : recordsOf setup p [] = [] := ite_self _

theorem recordsOf_append (setup : Setup) (p : Plan) (found more : List Response) :
    recordsOf setup p (found ++ more) = recordsOf setup p found ++ recordsOf setup p more := by
  unfold recordsOf
  split
  · exact List.map_append
  · rfl

theorem enters_keep {response : Response} (returned : Returns (keep setup p response) s () t) :
    Enters s (recordsOf setup p [response]) t := by
  obtain ⟨-, rfl⟩ := returned.unique (returns_keep setup p response s)
  unfold recordsOf afterKeeping
  cases wanted : p.record && setup.keepHistory with
  | false => exact .of_same rfl
  | true =>
      refine ⟨fun none => by simp [none], fun st some => ?_⟩
      have one : st.Gains _ _ := .append .same (recordOf setup.settings p.request response)
      exact ⟨_, _, Option.map_eq_some_iff.mpr ⟨st, some, rfl⟩, one, rfl⟩

theorem enters_settleCaptures {passed : Bool} {outcomes : List Capture.Outcome}
    (returned : Returns (settleCaptures setup passed outcomes) s () t) : Enters s [] t := by
  obtain ⟨-, rfl⟩ := returned.unique (returns_settleCaptures setup passed outcomes s)
  cases passed with
  | false => exact .of_same rfl
  | true =>
      refine ⟨fun none => by simp [afterSettling, none], fun st some => ?_⟩
      have gains := Store.gains_saveCaptured setup.settings st outcomes
      exact ⟨_, [], Option.map_eq_some_iff.mpr ⟨st, some, rfl⟩, gains, rfl⟩

theorem enters_settle {result : StepResult} {outcomes : List Capture.Outcome}
    {checked : List (Text × Assertion.Verdict)} {r : Round}
    (returned : Returns (settle setup p result outcomes checked) s r t) : Enters s [] t := by
  unfold settle at returned
  cases first : firstFailure? checked with
  | none =>
      rw [first] at returned
      obtain ⟨_, u, settled, last⟩ := returns_bind.mp returned
      obtain ⟨-, rfl⟩ := returns_pure.mp last
      exact enters_settleCaptures settled
  | some failed =>
      rw [first] at returned
      obtain ⟨isEnd, u, asked, rest⟩ := returns_bind.mp returned
      obtain ⟨-, rfl⟩ := returns_isOver.mp asked
      cases isEnd with
      | true =>
          obtain ⟨_, v, settled, rest⟩ := returns_bind.mp rest
          obtain ⟨_, w, marked, last⟩ := returns_bind.mp rest
          obtain ⟨-, rfl⟩ := returns_pure.mp last
          obtain rfl := returns_modify.mp marked
          have said : Enters u [] v := enters_settleCaptures settled
          exact said.trans (.of_same rfl)
      | false =>
          obtain ⟨-, rfl⟩ := returns_pure.mp rest
          exact .of_same rfl

/-- **A response** goes into the history before anything is made of it. -/
theorem enters_answered {result : StepResult} {response : Response} {attempts : Nat} {r : Round}
    (returned : Returns (answered setup p result response attempts) s r t) :
    Enters s (recordsOf setup p [response]) t := by
  rw [answered_eq] at returned
  obtain ⟨_, u, kept, rest⟩ := returns_bind.mp returned
  obtain ⟨outcomes, v, taken, rest⟩ := returns_bind.mp rest
  obtain ⟨_, w, got, rest⟩ := returns_bind.mp rest
  obtain ⟨checked, x, decided, rest⟩ := returns_bind.mp rest
  obtain ⟨-, rfl⟩ := returns_get.mp got
  obtain ⟨d, -, rfl⟩ := returns_checkAll.mp decided
  obtain ⟨-, -, rfl⟩ := returns_capture.mp taken
  have drawn : Enters u [] { afterCapture (.body response.body) p.step.displayName p.template.captures u with
      draws := d } := .of_same rfl
  have settled : Enters u [] t := drawn.trans (enters_settle rest)
  exact List.append_nil (recordsOf setup p [response]) ▸ (enters_keep kept).trans settled

/-! ## What is sent -/

/-- What a round sends is the request of the step. -/
theorem grows_sendRound {sent : Sent} (returned : Returns (sendRound setup p) s sent t) :
    Grows RunState.sent (· = p.request) s t := by
  have once : Adds RunState.sent (· = p.request) (sendOnce setup p.request p.step.maxDurationMs) := by
    intro s
    rw [ends_sendOnce]
    exact ⟨[p.request], rfl, by simp⟩
  have all := Retry.adds_run (r := ⟨p.step.retry, p.step.retryWaitMs⟩) once
    (fun wait number => (keeps_outer_pause _ setup wait number).comp Prod.fst) s
  rw [sendRound_eq, Returns, ends_tryCatch, bind_pure_comp, ends_map, send] at returned
  rcases ended : ends (Retry.run ⟨p.step.retry, p.step.retryWaitMs⟩ setup
      (sendOnce setup p.request p.step.maxDurationMs)) s with ⟨f | o, u⟩ <;>
    rw [ended] at returned all <;> cases returned <;> exact all

theorem mem_added_of_grows {request : Request} (sends : Grows RunState.sent (· = request) s t) :
    ∀ call ∈ added s.sent t.sent, call.1 = request := by
  obtain ⟨more, same, each⟩ := sends
  rw [same, added_append]
  exact fun call member => each call.1 (List.fst_mem_of_mem_zipIdx member)

/-! ## Rounds -/

/-- **One round** sends nothing but its request, and records the response that it has accepted. -/
theorem round_records {result : StepResult} {r : Round} (returned : Returns (round setup p result) s r t) :
    ∃ found, Answers setup p.step.maxDurationMs s found t ∧ Enters s (recordsOf setup p found) t ∧
      Grows RunState.sent (· = p.request) s t := by
  obtain ⟨sent, u, sending, rest⟩ := returns_bind.mp returned
  have answers := (answers_sendRound sending).toFinds
  have sends := grows_sendRound sending
  have before : Enters s [] u := .of_knowledge (sendRound_last sending).1
  cases sent with
  | answer response attempts =>
      have same : t.sent = u.sent := congrArg Prod.fst (keeps_outer_answered setup p result response attempts rest)
      have none : Answers setup p.step.maxDurationMs u [] t := .of_same same
      exact ⟨[response], answers.trans none, before.trans (enters_answered rest), sends.trans (.of_same same)⟩
  | failure e =>
      obtain ⟨-, rfl⟩ := returns_pure.mp rest
      exact ⟨[], answers, (recordsOf_nil setup p).symm ▸ before, sends⟩
  | fault f =>
      obtain ⟨_, v, noted, ended⟩ := returns_bind.mp rest
      obtain ⟨-, rfl⟩ := returns_pure.mp ended
      have same : t.sent = u.sent := keeps_noteAll RunState.sent (fun _ _ => rfl) _ noted
      have none : Answers setup p.step.maxDurationMs u [] t := .of_same same
      have quiet : Enters u [] t := .of_same (keeps_noteAll RunState.store? (fun _ _ => rfl) _ noted)
      exact ⟨[], answers.trans none, (recordsOf_nil setup p).symm ▸ before.trans quiet, sends.trans (.of_same same)⟩

/-- **All rounds** record the responses that they have accepted, in order. -/
theorem rounds_records {left : Nat} {result : StepResult} {r : Round}
    (returned : Returns (rounds setup p left result) s r t) :
    ∃ found, Answers setup p.step.maxDurationMs s found t ∧ Enters s (recordsOf setup p found) t ∧
      Grows RunState.sent (· = p.request) s t := by
  induction left generalizing s result with
  | zero => exact round_records (p := { p with closing := true }) returned
  | succ left ih =>
      obtain ⟨first, u, tried, rest⟩ := returns_bind.mp returned
      obtain ⟨found, answers, recorded, sends⟩ := round_records tried
      by_cases settled : first.settled = true
      · rw [if_pos settled] at rest
        obtain ⟨rfl, rfl⟩ := returns_pure.mp rest
        exact ⟨found, answers, recorded, sends⟩
      · rw [if_neg settled] at rest
        obtain ⟨isEnd, v, asked, rest⟩ := returns_bind.mp rest
        obtain ⟨-, rfl⟩ := returns_isOver.mp asked
        cases isEnd with
        | true =>
            obtain ⟨rfl, rfl⟩ := returns_pure.mp rest
            exact ⟨found, answers, recorded, sends⟩
        | false =>
            obtain ⟨_, w, noted, rest⟩ := returns_bind.mp rest
            obtain ⟨_, x, slept, rest⟩ := returns_bind.mp rest
            obtain ⟨more, answers', recorded', sends'⟩ := ih rest
            have kept : (x.sent, x.store?) = (v.sent, v.store?) :=
              (keeps_sleep (fun s => (s.sent, s.store?)) (fun _ _ _ => rfl) _ slept).trans
                (keeps_noteAll (fun s => (s.sent, s.store?)) (fun _ _ => rfl) _ noted)
            obtain ⟨sent, store⟩ := Prod.mk.inj kept
            have none : Answers setup p.step.maxDurationMs v [] x := .of_same sent
            have quiet : Enters v [] x := .of_same store
            have waited : Grows RunState.sent (· = p.request) v x := .of_same sent
            refine ⟨found ++ more, answers.trans (none.trans answers'), ?_, sends.trans (waited.trans sends')⟩
            rw [recordsOf_append]
            exact recorded.trans (quiet.trans recorded')

/-! ## Steps -/

theorem poll_records {step : Step} {template : RequestTemplate} {record : Bool} {request : Request}
    {result r : StepResult} (returned : Returns (poll setup step template record request result) s r t) :
    ∃ found, Answers setup step.maxDurationMs s found t ∧
      Enters s (if record && setup.keepHistory then found.map (recordOf setup.settings request) else []) t ∧
      Grows RunState.sent (· = request) s t := by
  obtain ⟨interval, u, guarded, rest⟩ := returns_bind.mp returned
  obtain ⟨start, v, read, rest⟩ := returns_bind.mp rest
  obtain ⟨span, w, guarded', rest⟩ := returns_bind.mp rest
  obtain ⟨last, x, tried, rest⟩ := returns_bind.mp rest
  obtain ⟨_, y, reported, rest⟩ := returns_bind.mp rest
  obtain ⟨-, rfl⟩ := returns_pure.mp rest
  obtain ⟨-, rfl⟩ := returns_guard.mp guarded
  obtain ⟨-, rfl⟩ := returns_now.mp read
  obtain ⟨-, rfl⟩ := returns_guard.mp guarded'
  have kept : (t.sent, t.store?) = (x.sent, x.store?) :=
    Keeps.forM (fun c => keeps_say setup (fun s => (s.sent, s.store?)) (fun _ _ => rfl) _) last.checked reported
  obtain ⟨sent, store⟩ := Prod.mk.inj kept
  obtain ⟨found, answers, recorded, sends⟩ := rounds_records tried
  have none : Answers setup step.maxDurationMs x [] t := .of_same sent
  refine ⟨found, List.append_nil found ▸ answers.trans none, ?_, sends.trans (.of_same sent)⟩
  have all := recorded.trans (Enters.of_same store)
  rw [List.append_nil] at all
  exact all

/-- The requests that were sent from one state to another and got a response within the budget, if there is one.  Each
stands with this response, in the order in which they were sent. -/
def exchanges (setup : Setup) (budgetMs : Int) (s t : RunState) : List (Request × Response) :=
  (added s.sent t.sent).filterMap fun call =>
    match (setup.service call.2 call.1).outcome with
    | .response r => if budgetMs ≤ 0 ∨ r.durationMs ≤ budgetMs then some (call.1, r) else none
    | _ => none

theorem exchanges_eq (setup : Setup) (budgetMs : Int) (s t : RunState) :
    exchanges setup budgetMs s t = (added s.sent t.sent).filterMap fun call =>
      (accepted? setup budgetMs call).map fun response => (call.1, response) := by
  refine List.filterMap_congr fun call _ => ?_
  unfold accepted? acceptable?
  cases (setup.service call.2 call.1).outcome with
  | response r =>
      by_cases within : budgetMs ≤ 0 ∨ r.durationMs ≤ budgetMs
      · have taken : withinBudget budgetMs r = .ok r := withinBudget_eq_ok.mpr ⟨rfl, fun positive => by omega⟩
        simp [within, taken, Except.toOption]
      · have refused : ∀ r', withinBudget budgetMs r ≠ .ok r' := fun r' taken =>
          within (by have := (withinBudget_eq_ok.mp taken).2; omega)
        cases outcome : withinBudget budgetMs r with
        | ok r' => exact absurd outcome (refused r')
        | error e => simp [within, outcome, Except.toOption]
  | noResponse reason => rfl
  | broken message => rfl

/-- The exchanges with one request are its accepted responses. -/
theorem exchanges_of_answers {budgetMs : Int} {found : List Response} {request : Request}
    (answers : Answers setup budgetMs s found t) (sends : Grows RunState.sent (· = request) s t) :
    exchanges setup budgetMs s t = found.map fun response => (request, response) := by
  rw [exchanges_eq, ← answers.found, List.map_filterMap]
  exact List.filterMap_congr fun call member => by rw [mem_added_of_grows sends call member]

/-- What recorded exchanges make of the store. -/
theorem history_of_enters {wanted : Bool} {pairs : List (Request × Response)}
    (recorded : Enters s (if wanted then pairs.map fun e => recordOf setup.settings e.1 e.2 else []) t) :
    (s.store? = none → t.store? = none) ∧
    ∀ st, s.store? = some st → ∃ st' given,
      t.store? = some st' ∧ st.Gains given st' ∧ st'.records = st.records ++ given.map Prod.snd ∧
      (∀ number entry, (number, entry) ∈ given ↔
        st.records.length < number ∧ st'.records[number - 1]? = some entry) ∧
      if wanted then
        List.Forall₂ (fun entry exchange => Record.Tells entry.2 setup.settings exchange.1 exchange.2) given pairs
      else given = [] := by
  refine ⟨recorded.absent, fun st some => ?_⟩
  obtain ⟨st', given, some', gains, same⟩ := recorded.present st some
  refine ⟨st', given, some', gains, gains.records, fun number entry => gains.mem_iff, ?_⟩
  cases wanted with
  | false => exact List.map_eq_nil_iff.mp same
  | true =>
      rw [if_pos rfl] at same
      have told : List.Forall₂ (fun record exchange => Record.Tells record setup.settings exchange.1 exchange.2)
          (given.map Prod.snd) pairs := by
        rw [same, List.forall₂_map_left_iff]
        exact List.forall₂_same.mpr fun e _ => tells_recordOf setup.settings e.1 e.2
      exact List.forall₂_map_left_iff.mp told

/-- **The history log of a request step.**  Everything that the step sends is the request as it was prepared.  Without a
store there is none afterwards.  A store keeps its records, and gains one for each response that was accepted, in the
order of the responses, which tells the request and the response.  If no history is kept, or the step does not belong into
it, nothing is added.  Each record is given the number of its place. -/
theorem requestStep_records {step : Step} {template : RequestTemplate} {strict record : Bool} {flowHeaders : Table Text}
    {r : StepResult} (returned : Returns (requestStep setup step template strict flowHeaders record) s r t) :
    (∀ call ∈ added s.sent t.sent,
      ∃ d, Returns (Preparing.request setup.settings setup.files ⟨setup.builtins, s.chain setup.settings, strict⟩
        flowHeaders step.maxDurationMs template) s.draws call.1 d) ∧
    (s.store? = none → t.store? = none) ∧
    ∀ st, s.store? = some st → ∃ st' given,
      t.store? = some st' ∧ st.Gains given st' ∧ st'.records = st.records ++ given.map Prod.snd ∧
      (∀ number entry, (number, entry) ∈ given ↔
        st.records.length < number ∧ st'.records[number - 1]? = some entry) ∧
      if record && setup.keepHistory then
        List.Forall₂ (fun entry exchange => Record.Tells entry.2 setup.settings exchange.1 exchange.2) given
          (exchanges setup step.maxDurationMs s t)
      else given = [] := by
  -- a step that is not sent leaves the log and the store as they were
  have idle {v : RunState} (same : trail v = trail s) :
      added s.sent v.sent = [] ∧
        Enters s (if record && setup.keepHistory then
          (exchanges setup step.maxDurationMs s v).map fun e => recordOf setup.settings e.1 e.2 else []) v := by
    have none : added s.sent v.sent = [] := by
      rw [show v.sent = s.sent from congrArg Prod.fst same, added, List.drop_length]
      rfl
    refine ⟨none, ?_⟩
    rw [exchanges, none, List.filterMap_nil, List.map_nil, ite_self]
    exact .of_same (congrArg (fun trail => trail.2.2) same)
  cases complete : template.isComplete with
  | false =>
      rw [requestStep_of_incomplete complete] at returned
      obtain ⟨-, rfl⟩ := returns_pure.mp returned
      obtain ⟨none, recorded⟩ := idle rfl
      exact ⟨none ▸ List.forall_mem_nil _, history_of_enters recorded⟩
  | true =>
      rw [requestStep_of_complete complete] at returned
      obtain ⟨_, u, got, rest⟩ := returns_bind.mp returned
      obtain ⟨rfl, rfl⟩ := returns_get.mp got
      obtain ⟨_, v, explained, rest⟩ := returns_bind.mp rest
      obtain ⟨outcome, w, prepared, rest⟩ := returns_bind.mp rest
      have before : trail w = trail u :=
        (keeps_drawing_prepare trail (fun _ _ => rfl) setup _ _ _ _ _ prepared).trans
          (keeps_explain setup trail (fun _ _ => rfl) _ _ explained)
      cases outcome with
      | error e =>
          obtain ⟨-, rfl⟩ := returns_pure.mp rest
          obtain ⟨none, recorded⟩ := idle before
          exact ⟨none ▸ List.forall_mem_nil _, history_of_enters recorded⟩
      | ok request =>
          have sent : w.sent = u.sent := congrArg Prod.fst before
          obtain ⟨found, answers, recorded, sends⟩ := poll_records rest
          have sends' := (Grows.of_same sent).trans sends
          have answers' := (Finds.of_same sent : Answers setup step.maxDurationMs u [] w).trans answers
          have draws : v.draws = u.draws := keeps_explain setup RunState.draws (fun _ _ => rfl) _ _ explained
          refine ⟨fun call member => ?_, history_of_enters ?_⟩
          · rcases returns_prepare prepared with ⟨_, d, ⟨⟩, requested⟩ | ⟨_, ⟨⟩, -⟩
            rw [mem_added_of_grows sends' call member, ← draws]
            exact ⟨d, requested⟩
          · rw [exchanges_of_answers answers' sends', List.map_map]
            exact (Enters.of_same (congrArg (fun trail => trail.2.2) before)).trans recorded

/-- The run of the token step over an empty store. -/
def tokenLogged : Except Fault StepResult × RunState :=
  ends (requestStep tokenService tokenStep tokenStep.request true [] true) freshStore

/-- Both rounds of the token step are recorded, the one that was too early as well. -/
theorem requestStep_records_token :
    ∃ r st given,
      Returns (requestStep tokenService tokenStep tokenStep.request true [] true) freshStore r tokenLogged.2 ∧
      tokenLogged.2.store? = some st ∧ Store.Gains {} given st ∧ st.records = given.map Prod.snd ∧
      given.map (·.2.status) = [202, 200] := by
  obtain ⟨r, returned⟩ :
      ∃ r, Returns (requestStep tokenService tokenStep tokenStep.request true [] true) freshStore r tokenLogged.2 :=
    returns_of_isOk (by decide +kernel)
  obtain ⟨-, -, present⟩ := requestStep_records returned
  obtain ⟨st, given, some, gains, records, -, told⟩ := present {} rfl
  have statuses : List.Forall₂ (· = ·) (given.map (·.2.status))
      ((exchanges tokenService tokenStep.maxDurationMs freshStore tokenLogged.2).map (·.2.status)) := by
    rw [List.forall₂_map_left_iff, List.forall₂_map_right_iff]
    exact List.Forall₂.imp (fun _ _ tells => tells.status) told
  rw [List.forall₂_eq_eq_eq] at statuses
  refine ⟨r, st, given, returned, some, gains, records, statuses.trans ?_⟩
  decide +kernel

end Running

end ApiFlow

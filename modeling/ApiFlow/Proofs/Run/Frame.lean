import ApiFlow.Proofs.Run.Command
import ApiFlow.Run.Step

/-!
# What a step leaves alone

A step changes variables, stored values and the clock, and it prints and takes notes.  Calls leave a run only where a
request is sent or a command is run, and how the run and its steps stand is written down by the run itself.

* `Still` : a computation leaves a part of the state as it was, whether it returns or stops.
* `outer` : the calls of a run, and how it stands.
* `keeps_requestStep`, `keeps_commandStep` : a request step runs no command and a command step sends nothing, and neither
  says how the run stands.
-/

set_option autoImplicit false

namespace ApiFlow

variable {ε σ α β γ δ : Type} {view : σ → γ}

/-- However the computation ends, what `view` sees is as it was. -/
def Still (view : σ → γ) (m : ExceptT ε (StateM σ) α) : Prop := ∀ s, view (ends m s).2 = view s

theorem Still.keeps {m : ExceptT ε (StateM σ) α} (still : Still view m) : Keeps view m := by
  intro s a t returned
  have left : (ends m s).2 = t := congrArg Prod.snd returned
  rw [← left, still s]

theorem Still.bind_pure {m : ExceptT ε (StateM σ) α} (still : Still view m) (f : α → β) :
    Still view (m >>= fun a => pure (f a)) := by
  intro s
  rw [bind_pure_comp, ends_map]
  exact still s

theorem Still.tryCatch {m : ExceptT ε (StateM σ) α} {recover : ε → ExceptT ε (StateM σ) α} (still : Still view m)
    (after : ∀ e, Still view (recover e)) : Still view (tryCatch m recover) := by
  intro s
  have first := still s
  rw [ends_tryCatch]
  rcases ended : ends m s with ⟨e | a, t⟩
  · rw [ended] at first
    exact (after e t).trans first
  · rw [ended] at first
    exact first

theorem Keeps.comp {m : ExceptT ε (StateM σ) α} (keeps : Keeps view m) (f : γ → δ) : Keeps (fun s => f (view s)) m :=
  fun _ _ _ returned => congrArg f (keeps returned)

theorem Keeps.get : Keeps view (get : ExceptT ε (StateM σ) σ) := by
  intro s r t returned
  rw [(returns_get.mp returned).2]

theorem Keeps.mapM {f : α → ExceptT ε (StateM σ) β} (each : ∀ a, Keeps view (f a)) (l : List α) :
    Keeps view (l.mapM f) := by
  induction l with
  | nil =>
      intro s bs t returned
      rw [(returns_mapM_nil.mp returned).2]
  | cons a rest ih =>
      intro s bs t returned
      obtain ⟨b, u, more, first, following, -⟩ := returns_mapM_cons.mp returned
      exact (ih following).trans (each a first)

namespace Retry

variable {ε α γ : Type} {attempt : Running (Except ε α)} {view : RunState → γ}

/-- What no try and no pause changes, all tries together do not change. -/
theorem still_run {r : Retry} {setup : Setup} (attempted : Still view attempt)
    (paused : ∀ wait number, Keeps view (r.pause setup wait number)) : Still view (r.run setup attempt) := by
  intro s
  rcases @run_ends _ _ attempt r setup s with ⟨f, -, same⟩ | ⟨wait, last, u, -, reached, same⟩
  · rw [same]
  · have before : view u = view s := by
      refine reached.carries (R := fun s t => view t = view s) (fun _ => rfl) (fun first next => next.trans first) ?_ ?_
      · exact fun failed => attempted.keeps failed
      · exact fun waited => paused wait _ waited
    rw [same, ends_map]
    exact (attempted u).trans before

end Retry

namespace Running

open ApiFlow.Flow

variable {setup : Setup} {s t : RunState}

/-- The calls of a run, and how the run and its steps stand. -/
def outer (s : RunState) : List Request × List (Text × Double) × Phase × Table StepState :=
  (s.sent, s.commands, s.phase, s.stepStates)

/-- What a request step leaves alone. -/
def besideSends (s : RunState) : List (Text × Double) × Phase × Table StepState := (outer s).2

/-- What a command step leaves alone. -/
def besideCommands (s : RunState) : List Request × Phase × Table StepState := ((outer s).1, (outer s).2.2)

/-! ## Parts of a step that call nothing -/

theorem keeps_outer_say (setup : Setup) (text : Text) : Keeps outer (say setup text) :=
  keeps_say setup outer (fun _ _ => rfl) text

theorem keeps_outer_noteAll (notes : List Note) : Keeps outer (noteAll notes) :=
  keeps_noteAll outer (fun _ _ => rfl) notes

theorem keeps_outer_sleep (seconds : Double) : Keeps outer (sleep seconds) := keeps_sleep outer (fun _ _ _ => rfl) seconds

theorem keeps_guard {α γ : Type} {view : RunState → γ} (result : Except Fault α) : Keeps view (guard result) := by
  intro s a t returned
  rw [(returns_guard.mp returned).2]

theorem keeps_now {γ : Type} {view : RunState → γ} : Keeps view now := by
  intro s x t returned
  rw [(returns_now.mp returned).2]

theorem keeps_outer_capture (product : Capture.Product) (step : Text) (entries : List Text) :
    Keeps outer (capture product step entries) := by
  intro s outcomes t returned
  rw [(returns_capture.mp returned).2.2]
  rfl

/-- Deciding an assertion keeps whatever does not look at the draws. -/
theorem keeps_drawing_check {γ : Type} (view : RunState → γ) (blind : ∀ s draws, view { s with draws := draws } = view s)
    (setup : Setup) (subject : Assertion.Subject) (vars : Table Text) (assertion : Text) :
    Keeps view (check setup subject vars assertion) := by
  intro s v t returned
  obtain ⟨d, -, rfl⟩ := returns_check.mp returned
  exact blind s d

theorem keeps_outer_checkAll (setup : Setup) (subject : Assertion.Subject) (vars : Table Text) (assertions : List Text) :
    Keeps outer (checkAll setup subject vars assertions) :=
  Keeps.mapM (fun a => Keeps.bind (keeps_drawing_check outer (fun _ _ => rfl) setup subject vars a) fun _ => Keeps.pure)
    assertions

theorem keeps_drawing_checkAloud {γ : Type} (view : RunState → γ)
    (blind : ∀ s draws, view { s with draws := draws } = view s)
    (blind' : ∀ s text, view { s with printed := text } = view s)
    (setup : Setup) (subject : Assertion.Subject) (vars : Table Text) (assertion : Text) :
    Keeps view (checkAloud setup subject vars assertion) :=
  Keeps.bind (keeps_drawing_check view blind setup subject vars assertion) fun _ =>
    Keeps.bind (keeps_say setup view blind' _) fun _ => Keeps.pure

theorem keeps_outer_sayCaptured (setup : Setup) (o : Capture.Outcome) : Keeps outer (sayCaptured setup o) := by
  unfold sayCaptured
  split <;> exact keeps_outer_say setup _

theorem keeps_outer_settleCaptures (setup : Setup) (passed : Bool) (outcomes : List Capture.Outcome) :
    Keeps outer (settleCaptures setup passed outcomes) := by
  refine Keeps.forM (fun o => Keeps.bind (keeps_outer_sayCaptured setup o) fun _ => ?_) outcomes
  split
  · unfold store
    split
    · exact Keeps.pure
    · exact Keeps.modify fun _ => rfl
  · exact Keeps.pure

theorem keeps_outer_keep (setup : Setup) (p : Plan) (r : Response) : Keeps outer (keep setup p r) := by
  unfold keep
  split
  · exact Keeps.modify fun _ => rfl
  · exact Keeps.pure

theorem keeps_outer_markFailed (step : Text) : Keeps outer (markFailed step) := Keeps.modify fun _ => rfl

theorem keeps_outer_isOver (p : Plan) : Keeps outer (isOver p) := Keeps.bind keeps_now fun _ => Keeps.pure

/-- Preparing a request keeps whatever does not look at the draws. -/
theorem keeps_drawing_prepare {γ : Type} (view : RunState → γ)
    (blind : ∀ s draws, view { s with draws := draws } = view s) (setup : Setup) (t : RequestTemplate)
    (vars : Table Text) (strict : Bool) (flowHeaders : Table Text)
    (maxDurationMs : Int) : Keeps view (prepare setup t vars strict flowHeaders maxDurationMs) := by
  refine Keeps.bind ?_ fun outcome => ?_
  · intro s _ t drawn
    rw [(returns_draw.mp drawn).2]
    exact blind s _
  · rcases outcome with (e | f) | r
    · exact Keeps.pure
    · exact fun _ _ _ thrown => absurd thrown returns_throw
    · exact Keeps.pure

theorem keeps_waitBefore {γ : Type} (view : RunState → γ)
    (blind : ∀ s text, view { s with printed := text } = view s)
    (blind' : ∀ s sleeps clock, view { s with sleeps := sleeps, clock := clock } = view s) (setup : Setup) (step : Step) :
    Keeps view (waitBefore setup step) := by
  unfold waitBefore
  split
  · exact Keeps.pure
  · exact Keeps.bind (keeps_say setup view blind _) fun _ => Keeps.bind (keeps_guard _) fun _ => keeps_sleep view blind' _

theorem keeps_outer_pause (r : Retry) (setup : Setup) (wait : Double) (number : Nat) :
    Keeps outer (r.pause setup wait number) :=
  Keeps.bind (keeps_outer_say setup _) fun _ => keeps_outer_sleep wait

/-! ## Request steps -/

theorem keeps_outer_settle (setup : Setup) (p : Plan) (result : StepResult) (outcomes : List Capture.Outcome)
    (checked : List (Text × Assertion.Verdict)) : Keeps outer (settle setup p result outcomes checked) := by
  unfold settle
  split
  · exact Keeps.bind (keeps_outer_settleCaptures setup true outcomes) fun _ => Keeps.pure
  · refine Keeps.bind (keeps_outer_isOver p) fun isEnd => ?_
    split
    · exact Keeps.bind (keeps_outer_settleCaptures setup false outcomes) fun _ =>
        Keeps.bind (keeps_outer_markFailed _) fun _ => Keeps.pure
    · exact Keeps.pure

/-- Working with a response calls nothing. -/
theorem keeps_outer_answered (setup : Setup) (p : Plan) (result : StepResult) (r : Response) (attempts : Nat) :
    Keeps outer (answered setup p result r attempts) := by
  rw [answered_eq]
  exact Keeps.bind (keeps_outer_keep setup p r) fun _ => Keeps.bind (keeps_outer_capture _ _ _) fun outcomes =>
    Keeps.bind Keeps.get fun _ => Keeps.bind (keeps_outer_checkAll setup _ _ _) fun checked =>
      keeps_outer_settle setup p _ outcomes checked

theorem still_sendOnce (setup : Setup) (request : Request) (budgetMs : Int) :
    Still besideSends (sendOnce setup request budgetMs) := by
  intro s
  rw [ends_sendOnce]
  rfl

theorem still_send (setup : Setup) (request : Request) (retry : Retry) (budgetMs : Int) :
    Still besideSends (send setup request retry budgetMs) :=
  Retry.still_run (still_sendOnce setup request budgetMs) fun wait number =>
    (keeps_outer_pause retry setup wait number).comp Prod.snd

/-- What the outcome of a round's sends is called. -/
def Sent.ofOutcome : Except SendError Response × Nat → Sent
  | (.ok r, attempts) => .answer r attempts
  | (.error e, _) => .failure e

theorem sendRound_eq (setup : Setup) (p : Plan) :
    sendRound setup p = tryCatch
      (send setup p.request ⟨p.step.retry, p.step.retryWaitMs⟩ p.step.maxDurationMs >>= fun o => pure (Sent.ofOutcome o))
      fun f => pure (.fault f) := by
  unfold sendRound
  congr 1
  refine congrArg _ (funext fun o => ?_)
  rcases o with ⟨e | r, attempts⟩ <;> rfl

theorem keeps_sendRound (setup : Setup) (p : Plan) : Keeps besideSends (sendRound setup p) := by
  rw [sendRound_eq]
  exact (Still.tryCatch (Still.bind_pure (still_send setup _ _ _) _) fun _ _ => rfl).keeps

theorem keeps_round (setup : Setup) (p : Plan) (result : StepResult) : Keeps besideSends (round setup p result) := by
  refine Keeps.bind (keeps_sendRound setup p) fun sent => ?_
  cases sent with
  | answer r attempts => exact (keeps_outer_answered setup p result r attempts).comp Prod.snd
  | failure e => exact Keeps.pure
  | fault f => exact Keeps.bind ((keeps_outer_noteAll _).comp Prod.snd) fun _ => Keeps.pure

theorem keeps_rounds (setup : Setup) (p : Plan) (left : Nat) (result : StepResult) :
    Keeps besideSends (rounds setup p left result) := by
  induction left generalizing result with
  | zero => exact keeps_round setup _ result
  | succ left ih =>
      refine Keeps.bind (keeps_round setup p result) fun r => ?_
      split
      · exact Keeps.pure
      · refine Keeps.bind ((keeps_outer_isOver p).comp Prod.snd) fun isEnd => ?_
        split
        · exact Keeps.pure
        · exact Keeps.bind ((keeps_outer_noteAll _).comp Prod.snd) fun _ =>
            Keeps.bind ((keeps_outer_sleep _).comp Prod.snd) fun _ => ih r.result

theorem keeps_poll (setup : Setup) (step : Step) (template : RequestTemplate) (record : Bool) (request : Request)
    (result : StepResult) : Keeps besideSends (poll setup step template record request result) := by
  refine Keeps.bind (keeps_guard _) fun _ => Keeps.bind keeps_now fun _ =>
    Keeps.bind (keeps_guard _) fun _ => Keeps.bind (keeps_rounds setup _ _ result) fun last => ?_
  exact Keeps.bind (Keeps.forM (fun c => (keeps_outer_say setup _).comp Prod.snd) last.checked) fun _ => Keeps.pure

/-- **A request step runs no command, and does not say how the run stands.** -/
theorem keeps_requestStep (setup : Setup) (step : Step) (template : RequestTemplate) (strict : Bool)
    (flowHeaders : Table Text) (record : Bool) :
    Keeps besideSends (requestStep setup step template strict flowHeaders record) := by
  cases complete : template.isComplete with
  | false =>
      rw [requestStep_of_incomplete complete]
      exact Keeps.pure
  | true =>
      rw [requestStep_of_complete complete]
      refine Keeps.bind Keeps.get fun s => ?_
      refine Keeps.bind ((keeps_explain setup outer (fun _ _ => rfl) _ _).comp Prod.snd) fun _ => ?_
      refine Keeps.bind (keeps_drawing_prepare besideSends (fun _ _ => rfl) setup _ _ _ _ _) fun outcome => ?_
      cases outcome with
      | error e => exact Keeps.pure
      | ok request => exact keeps_poll setup step template record request _

/-! ## Command steps -/

/-- The tries of a command keep whatever neither a command nor a pause changes. -/
theorem keeps_tries {γ : Type} (view : RunState → γ)
    (ran : ∀ command limit s, view (afterCommand setup command limit s) = view s)
    (paused : ∀ r wait number, Keeps view (Retry.pause r setup wait number)) (step : Step) (c : CommandTemplate)
    (limit : Double) (s : RunState) : Keeps view (tries setup step c limit s) := by
  have once : Still view (runOnce setup (commandText setup c s) limit) := by
    intro t
    rw [ends_runOnce]
    exact ran _ _ t
  exact (Still.bind_pure (Retry.still_run once (paused _)) Prod.fst).keeps

theorem keeps_knowledge_tries (step : Step) (c : CommandTemplate) (limit : Double) (s : RunState) :
    Keeps knowledge (tries setup step c limit s) :=
  keeps_tries knowledge (fun _ _ _ => rfl) (fun r wait number => (keeps_pause r setup wait number).comp Prod.snd)
    step c limit s

theorem keeps_outer_sayOutput (setup : Setup) (label text : Text) : Keeps outer (sayOutput setup label text) := by
  unfold sayOutput
  split
  · exact keeps_outer_say setup _
  · exact Keeps.pure

theorem keeps_outer_decided (step : Step) (result : StepResult) (checked : List (Text × Assertion.Verdict)) :
    Keeps outer (decided step result checked) := by
  unfold decided
  split
  · exact Keeps.pure
  · exact Keeps.bind (keeps_outer_markFailed _) fun _ => Keeps.pure

/-- Working with the output of a command calls nothing. -/
theorem keeps_outer_succeeded (setup : Setup) (step : Step) (c : CommandTemplate) (result : StepResult) (o : Output) :
    Keeps outer (succeeded setup step c result o) := by
  rw [succeeded_eq]
  refine Keeps.bind (keeps_outer_sayOutput setup _ _) fun _ => Keeps.bind (keeps_outer_sayOutput setup _ _) fun _ =>
    Keeps.bind (keeps_outer_capture _ _ _) fun outcomes => ?_
  refine Keeps.bind (Keeps.forM (keeps_outer_sayCaptured setup) outcomes) fun _ => Keeps.bind Keeps.get fun _ => ?_
  exact Keeps.bind (Keeps.mapM (keeps_drawing_checkAloud outer (fun _ _ => rfl) (fun _ _ => rfl) setup _ _) _)
    fun checked => keeps_outer_decided step _ checked

theorem keeps_conclude (setup : Setup) (step : Step) (c : CommandTemplate) (begun : StepResult) (start : Double)
    (outcome : Except CommandError Output) : Keeps outer (conclude setup step c begun start outcome) := by
  cases outcome with
  | error e => exact Keeps.bind keeps_now fun _ => Keeps.bind (keeps_guard _) fun _ => Keeps.pure
  | ok o => exact keeps_outer_succeeded setup step c begun o

/-- **A command step sends nothing, and does not say how the run stands.** -/
theorem keeps_commandStep (setup : Setup) (step : Step) (c : CommandTemplate) :
    Keeps besideCommands (commandStep setup step c) := by
  by_cases given : c.command = []
  · simp only [commandStep, given, List.isEmpty_nil, if_true]
    exact Keeps.pure
  · intro s r t returned
    have drop {α : Type} {m : Running α} (keeps : Keeps outer m) : Keeps besideCommands m :=
      keeps.comp fun o => (o.1, o.2.2)
    obtain ⟨limit, outcome, u, -, ran, concluding⟩ := (returns_commandStep_iff given).mp returned
    have tried : besideCommands u = besideCommands (beforeCommand setup c s) :=
      keeps_tries besideCommands (fun _ _ _ => rfl) (fun r wait number => drop (keeps_outer_pause r setup wait number))
        step c limit s ran
    exact (drop (keeps_conclude setup step c _ _ outcome) concluding).trans tried

end Running

end ApiFlow

import ApiFlow.Proofs.Run.Turns

/-!
# What a step sees of the variables

When a step of a flow is prepared, the value of a name is the last one that was captured in the run.  A name that was not
captured has the value of the command line, else the one that was stored when the run began, else the configured one.

* `PreparedAt` : a step of a flow is prepared, after some turns.
* `chain_along_run` : the value of each name at that moment.
-/

set_option autoImplicit false

namespace ApiFlow

open ApiFlow.Flow

variable {settings : Settings} {s t : RunState}

theorem RunState.stored_eq (s : RunState) (settings : Settings) :
    s.stored settings = (s.saved settings.place).getD [] := by
  rw [stored, saved, Settings.place]
  cases s.store? <;> rfl

/-- The variables of the run come first, then the stored ones, then the configured ones. -/
theorem RunState.get?_chain (s : RunState) (settings : Settings) (name : Text) :
    (s.chain settings).get? name =
      (Table.last? s.context.values name).or
        ((Table.last? (s.stored settings) name).or (settings.environment.values.get? name)) := by
  rw [chain, Table.get?_setAll, Table.get?_setAll]

namespace Running

variable {setup : Setup} {options : RunOptions} {written stored : List (Text × Text)} {vars : Table Text}

/-- **What writes do to the variables that a step sees.**  If nothing is stored that was not written into the variables of
the run as well, stored values show only under names that the run has not written. -/
theorem Effect.get?_chain (effect : Effect settings s written stored t) (within : stored ⊆ written)
    (given : s.context.values = vars) (distinct : (Table.names vars).Nodup)
    (distinctStored : (Table.names (s.stored settings)).Nodup) (name : Text) :
    (t.chain settings).get? name =
      (Table.last? written name).or
        ((vars.get? name).or (((s.stored settings).get? name).or (settings.environment.values.get? name))) := by
  have context : Table.last? t.context.values name = (Table.last? written name).or (vars.get? name) := by
    rw [effect.context, given, Table.last?_of_nodup (Table.nodup_names_setAll distinct written), Table.get?_setAll]
  rw [RunState.get?_chain, context, Option.or_assoc]
  cases last : Table.last? written name with
  | some value => rfl
  | none =>
      have unsaved : Table.last? stored name = none := by
        have unwritten := Table.last?_eq_none_iff.mp last
        exact Table.last?_eq_none_iff.mpr fun saved => unwritten (List.map_subset _ within saved)
      have here : (t.stored settings).get? name = (s.stored settings).get? name := by
        rw [RunState.stored_eq, RunState.stored_eq, effect.here]
        cases s.saved settings.place with
        | none => rfl
        | some table =>
            rw [Option.map_some, Option.getD_some, Option.getD_some, Table.get?_setAll, unsaved, Option.none_or]
      have distinct' : (Table.names (t.stored settings)).Nodup := by
        rw [RunState.stored_eq] at distinctStored ⊢
        rw [effect.here]
        cases saved : s.saved settings.place with
        | none => exact List.nodup_nil
        | some table =>
            rw [saved] at distinctStored
            exact Table.nodup_names_setAll distinctStored stored
      rw [Table.last?_of_nodup distinct', here]

/-- A step of a flow is prepared: the flow was opened, its turns have taken the steps before this one without a failure
that ends the run, and the step has come up.  Its variables are checked and its request is prepared in this state. -/
structure PreparedAt (setup : Setup) (options : RunOptions) (d : Document) (source : Text) (s : RunState)
    (turns : List (Turn Step Course)) (step : Step) (u : RunState) : Prop where
  reached : ∃ o course rest v, Returns (opening setup options d source) s () o ∧
    Turns (takeStep setup d.info.headers (captureOrigins (order d).1)) (order d).1
      { summary := { started := s.clock } } o turns (step :: rest) course v ∧
    Returns (comeUp setup step) v () u
  goesOn : options.failFast = true → ∀ turn ∈ turns, turn.result.success = true

/-- **What a step of a flow sees.**  The value of a name is the last one that was captured in the turns so far, whether
those steps have passed or not; else that of the command line; else what was stored when the run began, at the place in
use; else the configured one. -/
theorem chain_along_run {d : Document} {source : Text} {turns : List (Turn Step Course)} {step : Step} {u : RunState}
    (given : s.context = Context.ofCommandLine vars) (distinct : (Table.names vars).Nodup)
    (distinctStored : (Table.names (s.stored setup.settings)).Nodup)
    (prepared : PreparedAt setup options d source s turns step u) (name : Text) :
    (u.chain setup.settings).get? name =
      (Table.last? (turns.flatMap (Turn.captured setup)) name).or
        ((vars.get? name).or
          (((s.stored setup.settings).get? name).or (setup.settings.environment.values.get? name))) := by
  obtain ⟨o, course, rest, v, opened, walked, came⟩ := prepared.reached
  obtain ⟨stored, within, effect⟩ := walked.effect
  have begun : Effect setup.settings s [] [] o := effect_of_ledger (opening_leaves opened).1
  have up : Effect setup.settings v [] [] u := effect_of_ledger (keeps_ledger_comeUp setup step came)
  have values : s.context.values = vars := given ▸ Context.values_ofCommandLine vars
  exact (begun.between effect up).get?_chain within values distinct distinctStored name

/-- A flow that fetches a token and then probes. -/
def tokenFlow : Document := { steps := [tokenStep, probe] }

/-- What the command line gives to that flow. -/
def tokenVars : Table Text := [("token".toList, "given".toList), ("user".toList, "given".toList)]

/-- The start of the flow, with some values stored, one of them in another environment. -/
def tokenStart : RunState :=
  { fresh with
    context := Context.ofCommandLine tokenVars
    store? := some
      { tables :=
          [(([], "default".toList), [("user".toList, "stored".toList), ("host".toList, "stored".toList)]),
            (([], "other".toList), [("proxy".toList, "stored".toList)])] } }

/-- The state in which the first step of the flow is taken. -/
def tokenOpened : RunState := (ends (opening tokenService {} tokenFlow []) tokenStart).2

/-- The first turn of the flow. -/
def tokenTaken : Except Fault (StepResult × Course) × RunState :=
  ends (takeStep tokenService [] (captureOrigins tokenFlow.steps) { summary := { started := tokenStart.clock } }
    tokenStep) tokenOpened

/-- The state in which the second step of the flow is prepared. -/
def probePrepared : RunState := (ends (comeUp tokenService probe) tokenTaken.2).2

/-- The probe sees the captured token, the user of the command line and the stored host, and no value of another
environment. -/
theorem chain_along_run_token :
    ∃ turns, PreparedAt tokenService {} tokenFlow [] tokenStart turns probe probePrepared ∧
      (probePrepared.chain tokenService.settings).get? "token".toList = some "ready".toList ∧
      (probePrepared.chain tokenService.settings).get? "user".toList = some "given".toList ∧
      (probePrepared.chain tokenService.settings).get? "host".toList = some "stored".toList ∧
      (probePrepared.chain tokenService.settings).get? "proxy".toList = none := by
  obtain ⟨⟨⟩, opened⟩ : ∃ a, Returns (opening tokenService {} tokenFlow []) tokenStart a tokenOpened :=
    returns_of_isOk (by decide +kernel)
  obtain ⟨⟨r, course⟩, taken⟩ : ∃ a, Returns (takeStep tokenService [] (captureOrigins tokenFlow.steps)
      { summary := { started := tokenStart.clock } } tokenStep) tokenOpened a tokenTaken.2 :=
    returns_of_isOk (by decide +kernel)
  obtain ⟨⟨⟩, came⟩ : ∃ a, Returns (comeUp tokenService probe) tokenTaken.2 a probePrepared :=
    returns_of_isOk (by decide +kernel)
  have prepared : PreparedAt tokenService {} tokenFlow [] tokenStart
      [⟨tokenStep, { summary := { started := tokenStart.clock } }, tokenOpened, r, tokenTaken.2⟩] probe probePrepared :=
    ⟨⟨_, course, [], _, opened, .next taken .none, came⟩, nofun⟩
  have captures : captured tokenService tokenStep tokenOpened tokenTaken.2 =
      [("token".toList, "early".toList), ("next".toList, "1".toList), ("token".toList, "ready".toList)] := by
    decide +kernel
  have given : tokenStart.context = Context.ofCommandLine tokenVars := rfl
  have sees := chain_along_run given (by decide) (by decide) prepared
  simp only [List.flatMap_singleton, Turn.captured, captures] at sees
  refine ⟨_, prepared, ?_, ?_, ?_, ?_⟩ <;> rw [sees] <;> decide

end Running

end ApiFlow

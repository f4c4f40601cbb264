import ApiFlow.Proofs.Run.Alike
import ApiFlow.Proofs.Run.Naming
import ApiFlow.Proofs.Run.Standing
import ApiFlow.Proofs.Template.Undrawn

/-!
# What a plain request can tell apart

A plain request that captures nothing writes into no variable, and nothing in a run reads the history.  If the request
names no built-in either, and the service answers in the same way every time, then it cannot tell two states apart that
have the same variables.

* `Logged` : from one state to another, no variable was changed, and some records were added.
* `SeenAlike` : two states with the same variables, to whose histories the same was added.
* `Undemanding` : a plain request that captures nothing and names no built-in.
* `alike_runPlain` : such a request comes to the same result in both, and adds the same to both.
* `sameVars_runPlain` : it leaves the variables as they were.
-/

set_option autoImplicit false

namespace ApiFlow

open ApiFlow.Flow

/-! ## Histories -/

/-- The history that a run has kept so far; without a store it is empty. -/
def RunState.history (s : RunState) : List Record :=
  match s.store? with
  | none => []
  | some store => store.records

theorem RunState.history_save (s : RunState) (settings : Settings) (name value : Text) :
    RunState.history
        { s with store? := s.store?.map (Store.save · settings.projectId settings.activeEnv name value) } =
      s.history := by
  cases store : s.store? <;> simp [history, store, Store.save]

theorem RunState.history_append (s : RunState) (record : Record) :
    RunState.history { s with store? := s.store?.map fun store => (store.append record).2 } =
      s.history ++ if s.store?.isSome then [record] else [] := by
  cases store : s.store? <;> simp [history, store, Store.append]

theorem RunState.saved_append (s : RunState) (record : Record) (place : Text × Text) :
    RunState.saved { s with store? := s.store?.map fun store => (store.append record).2 } place = s.saved place := by
  cases store : s.store? <;> simp [saved, store, Store.append, Store.values]

/-- A saved value is found at the place in use, and nowhere else. -/
theorem RunState.saved_save (s : RunState) (settings : Settings) (name value : Text) (place : Text × Text) :
    RunState.saved { s with store? := s.store?.map (Store.save · settings.projectId settings.activeEnv name value) }
        place =
      (s.saved place).map fun table => if place = settings.place then table.set name value else table := by
  cases store : s.store? with
  | none => simp [saved, store]
  | some st =>
      obtain ⟨project, env⟩ := place
      simp only [saved, store, Option.map_some, Store.values_save]
      by_cases here : (project, env) = settings.place
      · obtain ⟨rfl, rfl⟩ := Prod.mk.inj here
        rw [if_pos rfl, if_pos here]
      · rw [if_neg here]
        exact congrArg some (if_neg here)

namespace Context

/-- A step that has written nothing flags no variable that the command line gives. -/
theorem afterStep_ofCommandLine (vars : Table Text) {step : Text} (named : step ≠ []) (flagged : Bool) :
    (ofCommandLine vars).afterStep step [] flagged = ofCommandLine vars := by
  have unwritten : (ofCommandLine vars).writeAll step [] = ofCommandLine vars := rfl
  rw [afterStep, unwritten, markFailed]
  split
  · rw [ofCommandLine, List.map_map]
    refine List.map_congr_left fun entry _ => ?_
    have other : ¬ ([] : Text) = step := Ne.symm named
    simp [flag, other]
  · rfl

end Context

namespace Running

variable {setup : Setup} {s s' t u v : RunState}

/-! ## States with the same variables -/

/-- Two states with the same variables, those of the run and those in the store. -/
structure SameVars (s t : RunState) : Prop where
  context : t.context = s.context
  saved : ∀ place, t.saved place = s.saved place

theorem SameVars.refl (s : RunState) : SameVars s s := ⟨rfl, fun _ => rfl⟩

theorem SameVars.symm (same : SameVars s t) : SameVars t s := ⟨same.context.symm, fun place => (same.saved place).symm⟩

theorem SameVars.trans (first : SameVars s t) (second : SameVars t u) : SameVars s u :=
  ⟨second.context.trans first.context, fun place => (second.saved place).trans (first.saved place)⟩

/-- The variables are as they were, and these records were added to the history. -/
structure Logged (s : RunState) (added : List Record) (t : RunState) : Prop extends SameVars s t where
  history : t.history = s.history ++ added

theorem Logged.of_same (same : (t.context, t.store?) = (s.context, s.store?)) : Logged s [] t := by
  obtain ⟨context, store⟩ := Prod.mk.inj same
  refine ⟨⟨context, fun place => ?_⟩, ?_⟩
  · rw [RunState.saved, store, RunState.saved]
  · rw [RunState.history, store, List.append_nil, RunState.history]

theorem Logged.trans {added more : List Record} (first : Logged s added t) (second : Logged t more u) :
    Logged s (added ++ more) u :=
  ⟨first.toSameVars.trans second.toSameVars, by rw [second.history, first.history, List.append_assoc]⟩

/-- What keeps the variables and the store adds no record behind others. -/
theorem Logged.still {added : List Record} (recorded : Logged s added t)
    (same : (u.context, u.store?) = (t.context, t.store?)) : Logged s added u := by
  have both := recorded.trans (Logged.of_same same)
  rwa [List.append_nil] at both

/-- Two states with the same variables, whose histories have grown by the same records from where they began. -/
structure SeenAlike (before before' : List Record) (s s' : RunState) : Prop extends SameVars s s' where
  grown : ∃ added, s.history = before ++ added ∧ s'.history = before' ++ added

variable {before before' : List Record}

theorem SameVars.seenAlike (same : SameVars s s') : SeenAlike s.history s'.history s s' :=
  ⟨same, [], (List.append_nil _).symm, (List.append_nil _).symm⟩

theorem SeenAlike.store_isSome (linked : SeenAlike before before' s s') : s'.store?.isSome = s.store?.isSome := by
  have somewhere := congrArg Option.isSome (linked.saved ([], []))
  rwa [RunState.saved, Option.isSome_map, RunState.saved, Option.isSome_map] at somewhere

/-- A record that both add. -/
theorem SeenAlike.record (linked : SeenAlike before before' s s') (record : Record) :
    SeenAlike before before' { s with store? := s.store?.map fun store => (store.append record).2 }
      { s' with store? := s'.store?.map fun store => (store.append record).2 } := by
  obtain ⟨added, grown, grown'⟩ := linked.grown
  refine ⟨⟨linked.context, fun place => ?_⟩, added ++ if s.store?.isSome then [record] else [], ?_, ?_⟩
  · rw [RunState.saved_append, RunState.saved_append, linked.saved]
  · rw [RunState.history_append, grown, List.append_assoc]
  · rw [RunState.history_append, grown', linked.store_isSome, List.append_assoc]

/-- A value that both store. -/
theorem SeenAlike.save (linked : SeenAlike before before' s s') (settings : Settings) (name value : Text) :
    SeenAlike before before'
      { s with store? := s.store?.map (Store.save · settings.projectId settings.activeEnv name value) }
      { s' with store? := s'.store?.map (Store.save · settings.projectId settings.activeEnv name value) } := by
  refine ⟨⟨linked.context, fun place => ?_⟩, ?_⟩
  · rw [RunState.saved_save, RunState.saved_save, linked.saved]
  · rw [RunState.history_save, RunState.history_save]
    exact linked.grown

/-- Nothing in a run reads the history, and a service that disregards what it was asked before answers alike. -/
theorem link_seenAlike (before before' : List Record)
    (answers : ∀ m n request, (setup.service m request).outcome = (setup.service n request).outcome) :
    Link setup (SeenAlike before before') where
  context linked := linked.context.symm
  stored {s s'} linked := by
    have stored (s : RunState) : s.stored setup.settings = (s.saved setup.settings.place).getD [] := by
      cases store : s.store? <;> simp [RunState.stored, RunState.saved, store, Settings.place]
    rw [stored, stored, linked.saved]
  printed linked _ _ := ⟨⟨linked.context, linked.saved⟩, linked.grown⟩
  noted linked _ _ := ⟨⟨linked.context, linked.saved⟩, linked.grown⟩
  written linked _ := ⟨⟨rfl, linked.saved⟩, linked.grown⟩
  saved linked := linked.save setup.settings
  recorded linked := linked.record
  slept linked _ := ⟨⟨linked.context, linked.saved⟩, linked.grown⟩
  replied _ request := answers _ _ request
  sent linked _ := ⟨⟨linked.context, linked.saved⟩, linked.grown⟩

/-! ## Steps that draw nothing -/

section

variable {E : RunState → RunState → Prop}

theorem alike_draw_of_undrawn {α : Type} {f : Draws → α × Draws} (undrawn : Undrawn f) :
    Alike E Eq (draw f) (draw f) := by
  obtain ⟨a, same⟩ := undrawn
  intro s s' linked
  have drawn (s : RunState) : ends (draw f) s = (.ok a, s) := by
    change (Except.ok (f s.draws).1, { s with draws := (f s.draws).2 }) = _
    rw [same]
  rw [drawn, drawn]
  exact ⟨.ok rfl, linked⟩

theorem decidedAlike_of_undrawn {asserts : List Text}
    (free : ∀ a ∈ asserts, ∀ text, Assertion.expectedIn? a = some text → Template.NamesNoBuiltin setup.builtins text) :
    DecidedAlike setup E asserts :=
  fun _ _ a listed => (alike_draw_of_undrawn (Assertion.undrawn_check (free a listed))).next fun _ => alike_guard _

theorem alike_prepare_of_undrawn {t : RequestTemplate} {flowHeaders : Table Text} (vars : Table Text) (strict : Bool)
    (maxDurationMs : Int)
    (layers : ∀ h ∈ setup.settings.headers ++ flowHeaders, Template.NamesNoBuiltin setup.builtins h.2)
    (texts : ∀ text ∈ t.filledTexts, Template.NamesNoBuiltin setup.builtins text) :
    Alike E Eq (prepare setup t vars strict flowHeaders maxDurationMs)
      (prepare setup t vars strict flowHeaders maxDurationMs) := by
  refine (alike_draw_of_undrawn (Preparing.undrawn_request _ _ _ layers texts)).next fun outcome => ?_
  rcases outcome with (_ | _) | _
  · exact .pure rfl
  · exact .throw _
  · exact .pure rfl

/-! ## Steps of one round -/

variable (link : Link setup E) (w w' : Watch)
include link

/-- A step that does not poll makes one round, whatever the clock says. -/
theorem alike_rounds_once {p : Plan} (once : p.polling = false) (deadline : Double)
    (checks : DecidedAlike setup E p.template.asserts) (left left' : Nat) {result result' : StepResult}
    (dated : result.Redated result') :
    Alike E Round.Redated (rounds (setup.watched w) p (left + 1) result)
      (rounds (setup.watched w') { p with deadline } (left' + 1) result') := by
  have ended (q : Plan) (once : q.polling = false) (s : RunState) : ends (isOver q) s = (.ok true, s) := by
    change (Except.ok (!q.polling || q.deadline.le s.clock), s) = _
    rw [once]
    rfl
  have closes : Alike E (fun a b => a = true ∧ b = true) (isOver p) (isOver { p with deadline }) := by
    intro s s' linked
    rw [ended p once, ended { p with deadline } once]
    exact ⟨.ok ⟨rfl, rfl⟩, linked⟩
  have same : Alike E Eq (isOver p) (isOver { p with deadline }) := closes.mono fun _ _ both => both.1.trans both.2.symm
  refine (link.round w w' same checks dated).bind fun r r' decided => ?_
  rw [← decided.settled]
  split
  · exact .pure decided
  · refine closes.bind fun isEnd isEnd' both => ?_
    rw [both.1, both.2]
    exact .pure decided

theorem alike_poll_once {step : Step} {t : RequestTemplate} (once : step.pollTimeoutMs = 0)
    (checks : DecidedAlike setup E t.asserts) (record : Bool) (request : Request) {result result' : StepResult}
    (dated : result.Redated result') :
    Alike E StepResult.Redated (poll (setup.watched w) step t record request result)
      (poll (setup.watched w') step t record request result') := by
  have started : Alike E (fun _ _ => True) now now := fun _ _ linked => ⟨.ok trivial, linked⟩
  refine (alike_guard _).next fun interval => started.bind fun start start' _ => (alike_guard _).next fun seconds => ?_
  have single (deadline : Double) :
      Plan.polling { step, template := t, request, record, interval, deadline } = false := by
    simp [Plan.polling, once]
  refine (alike_rounds_once link w w' (single _) (start'.add seconds) checks _ _ dated).bind
    fun last last' decided => ?_
  rw [← decided.checked]
  refine (Alike.forM fun checked _ => link.say w w' _ _).next fun _ => .pure ?_
  obtain ⟨start, same⟩ := decided.result
  exact ⟨start, by rw [same]; rfl⟩

end

/-! ## Plain requests -/

/-- A plain request that can be read captures nothing, and none of its texts names a built-in. -/
def Undemanding (builtins : Builtins) (p : PlainRequest) : Prop :=
  ∀ step t record, readPlain p = .ok (step, t, record) →
    t.captures = [] ∧ ∀ text ∈ t.filledTexts, Template.NamesNoBuiltin builtins text

theorem undemanding_iff {builtins : Builtins} {p : PlainRequest} :
    Undemanding builtins p ↔ ∀ plain ∈ (readPlain p).toOption,
      plain.2.1.captures = [] ∧ ∀ text ∈ plain.2.1.filledTexts, Template.NamesNoBuiltin builtins text := by
  constructor
  · rintro undemanding ⟨step, t, record⟩ listed
    refine undemanding step t record ?_
    cases read : readPlain p with
    | error reason => simp [read, Except.toOption] at listed
    | ok plain => simpa [read, Except.toOption] using listed
  · intro each step t record read
    exact each (step, t, record) (by rw [read]; rfl)

instance (builtins : Builtins) (p : PlainRequest) : Decidable (Undemanding builtins p) :=
  decidable_of_iff _ undemanding_iff.symm

/-- A plain request does not poll. -/
theorem pollTimeoutMs_readPlain {p : PlainRequest} {step : Step} {t : RequestTemplate} {record : Bool}
    (read : readPlain p = .ok (step, t, record)) : step.pollTimeoutMs = 0 := by
  unfold readPlain at read
  split at read
  · split at read
    · cases read
      rfl
    · cases read
  · split at read
    · rename_i l parsed
      cases read
      unfold Scenario.Line.read at parsed
      split at parsed
      · split at parsed
        · cases parsed
        · cases parsed
        · split at parsed
          · cases parsed
            rfl
          · cases parsed
      · cases parsed
    · cases read

variable {strict : Bool} {p : PlainRequest}

theorem alike_runPlain (strict : Bool)
    (answers : ∀ m n request, (setup.service m request).outcome = (setup.service n request).outcome)
    (defaults : ∀ h ∈ setup.settings.headers, Template.NamesNoBuiltin setup.builtins h.2)
    (request : Undemanding setup.builtins p) (w w' : Watch) :
    Alike (SeenAlike before before') StepResult.Redated (runPlain (setup.watched w) p strict)
      (runPlain (setup.watched w') p strict) := by
  have link := link_seenAlike before before' answers
  unfold runPlain
  cases read : readPlain p with
  | error reason => exact .pure ⟨w'.startTime, rfl⟩
  | ok plain =>
      obtain ⟨step, t, record⟩ := plain
      obtain ⟨-, texts⟩ := request step t record read
      have layers : ∀ h ∈ setup.settings.headers ++ [], Template.NamesNoBuiltin setup.builtins h.2 := by
        rwa [List.append_nil]
      have checks : DecidedAlike setup (SeenAlike before before') t.asserts := by
        refine decidedAlike_of_undrawn fun a listed text expects => texts text ?_
        exact List.mem_append_right _ (List.mem_filterMap.mpr ⟨a, listed, expects⟩)
      refine (link.say w w' _ _).next fun _ => link.requestStep w w' (fun vars => ?_) fun request _ _ dated => ?_
      · exact alike_prepare_of_undrawn vars strict _ layers texts
      · exact alike_poll_once link w w' (pollTimeoutMs_readPlain read) checks record request dated

theorem name_ne_nil (p : PlainRequest) : p.name ≠ [] := by
  rw [PlainRequest.name]
  split <;> exact List.cons_ne_nil _ _

/-- A plain request without captures leaves all variables as the command line and the store have given them. -/
theorem sameVars_runPlain (request : Undemanding setup.builtins p) {vars : Table Text}
    (given : s.context = .ofCommandLine vars) {r : StepResult} (returned : Returns (runPlain setup p strict) s r t) :
    SameVars s t := by
  unfold runPlain at returned
  cases read : readPlain p with
  | error reason =>
      rw [read] at returned
      obtain ⟨-, rfl⟩ := returns_pure.mp returned
      exact .refl _
  | ok plain =>
      obtain ⟨step, template, record⟩ := plain
      obtain ⟨none, -⟩ := request step template record read
      rw [read] at returned
      obtain ⟨_, u, said, ran⟩ := returns_bind.mp returned
      have opened : SameVars s u :=
        (Logged.of_same (keeps_say setup (fun s => (s.context, s.store?)) (fun _ _ => rfl) _ said)).toSameVars
      have nothing (found : List Response) : bodyCaptures template.captures found = [] := by
        simp [none, bodyCaptures, Capture.writes]
      have named : step.displayName ≠ [] := by
        rw [displayName_readPlain read]
        exact name_ne_nil p
      obtain ⟨found, leave⟩ := requestStep_leaves ran
      obtain ⟨found', -, effect, -⟩ := requestStep_effect ran
      refine opened.trans ⟨?_, ?_⟩
      · rw [leave.context, nothing, opened.context, given, Context.afterStep_ofCommandLine vars named]
      · have unstored : storedIf setup step template.captures r.success t = [] := by
          rw [storedIf, nothing, ite_self]
        rw [unstored] at effect
        exact effect.saved_eq

end Running

end ApiFlow

import ApiFlow.Proofs.Run.Command
import ApiFlow.Proofs.Run.Frame
import Mathlib.Data.List.Forall2

/-!
# Two runs side by side

Two runs are compared through a link between their states.  Whatever keeps two runs linked when they take one step
each, keeps them linked to the end, with results that differ in nothing that the link does not allow.

* `Alike` : two computations that begin in linked states come to related values or to one fault, and end in linked
  states.
* `Setup.watched` : a setup with another way of being watched.
* `Link` : a link through which two runs cannot be told apart by their variables and by what answers them.
* `Link.round` : one round of a request step in each of two linked runs.
-/

set_option autoImplicit false

namespace ApiFlow

section

variable {ε σ α β γ δ : Type} {E : σ → σ → Prop} {R : α → β → Prop} {T : γ → δ → Prop}

/-- Two outcomes agree: their values are related, or they are one error. -/
inductive Agree (R : α → β → Prop) : Except ε α → Except ε β → Prop
  | ok {a : α} {b : β} (related : R a b) : Agree R (.ok a) (.ok b)
  | error (e : ε) : Agree R (.error e) (.error e)

/-- Two computations that begin in linked states come to agreeing outcomes and end in linked states. -/
def Alike (E : σ → σ → Prop) (R : α → β → Prop) (m : ExceptT ε (StateM σ) α) (m' : ExceptT ε (StateM σ) β) : Prop :=
  ∀ ⦃s s'⦄, E s s' → Agree R (ends m s).1 (ends m' s').1 ∧ E (ends m s).2 (ends m' s').2

namespace Alike

variable {m : ExceptT ε (StateM σ) α} {m' : ExceptT ε (StateM σ) β}

theorem pure {a : α} {b : β} (related : R a b) :
    Alike E R (pure a : ExceptT ε (StateM σ) α) (pure b : ExceptT ε (StateM σ) β) :=
  fun _ _ linked => ⟨.ok related, linked⟩

theorem throw (e : ε) : Alike E R (throw e : ExceptT ε (StateM σ) α) (throw e : ExceptT ε (StateM σ) β) :=
  fun _ _ linked => ⟨.error e, linked⟩

theorem get : Alike E E (get : ExceptT ε (StateM σ) σ) get := fun _ _ linked => ⟨.ok linked, linked⟩

theorem modify {g g' : σ → σ} (keeps : ∀ {s s'}, E s s' → E (g s) (g' s')) :
    Alike E Eq (modify g : ExceptT ε (StateM σ) Unit) (modify g') :=
  fun _ _ linked => ⟨.ok rfl, keeps linked⟩

/-- The ways in which two computations can end alike. -/
theorem outcomes (alike : Alike E R m m') {s s' : σ} (linked : E s s') :
    (∃ a b t t', ends m s = (.ok a, t) ∧ ends m' s' = (.ok b, t') ∧ R a b ∧ E t t') ∨
      ∃ e t t', ends m s = (.error e, t) ∧ ends m' s' = (.error e, t') ∧ E t t' := by
  have both := alike linked
  generalize ends m s = x at both ⊢
  generalize ends m' s' = x' at both ⊢
  obtain ⟨x, t⟩ := x
  obtain ⟨x', t'⟩ := x'
  obtain ⟨agree, next⟩ := both
  cases agree with
  | ok related => exact .inl ⟨_, _, t, t', rfl, rfl, related, next⟩
  | error e => exact .inr ⟨e, t, t', rfl, rfl, next⟩

/-- If the first returns, so does the second. -/
theorem returns (alike : Alike E R m m') {s s' t : σ} (linked : E s s') {a : α} (ran : Returns m s a t) :
    ∃ b t', Returns m' s' b t' ∧ R a b ∧ E t t' := by
  obtain ⟨a', b, u, t', one, two, related, next⟩ | ⟨e, u, t', one, -, -⟩ := alike.outcomes linked
  · cases ran.symm.trans one
    exact ⟨b, t', two, related, next⟩
  · cases ran.symm.trans one

theorem mono {R' : α → β → Prop} (alike : Alike E R m m') (weaker : ∀ a b, R a b → R' a b) : Alike E R' m m' := by
  intro s s' linked
  obtain ⟨a, b, t, t', one, two, related, next⟩ | ⟨e, t, t', one, two, next⟩ := alike.outcomes linked <;> rw [one, two]
  · exact ⟨.ok (weaker a b related), next⟩
  · exact ⟨.error e, next⟩

theorem bind {k : α → ExceptT ε (StateM σ) γ} {k' : β → ExceptT ε (StateM σ) δ} (first : Alike E R m m')
    (rest : ∀ a b, R a b → Alike E T (k a) (k' b)) : Alike E T (m >>= k) (m' >>= k') := by
  intro s s' linked
  rw [ends_bind, ends_bind]
  obtain ⟨a, b, t, t', one, two, related, next⟩ | ⟨e, t, t', one, two, next⟩ := first.outcomes linked <;> rw [one, two]
  · exact rest a b related next
  · exact ⟨.error e, next⟩

/-- Two computations that begin with one value each go on from the same value. -/
theorem next {m' : ExceptT ε (StateM σ) α} {k : α → ExceptT ε (StateM σ) γ} {k' : α → ExceptT ε (StateM σ) δ}
    (first : Alike E Eq m m') (rest : ∀ a, Alike E T (k a) (k' a)) : Alike E T (m >>= k) (m' >>= k') :=
  first.bind fun a _ same => same ▸ rest a

theorem tryCatch {recover : ε → ExceptT ε (StateM σ) α} {recover' : ε → ExceptT ε (StateM σ) β}
    (tried : Alike E R m m') (after : ∀ e, Alike E R (recover e) (recover' e)) :
    Alike E R (tryCatch m recover) (tryCatch m' recover') := by
  intro s s' linked
  rw [ends_tryCatch, ends_tryCatch]
  obtain ⟨a, b, t, t', one, two, related, next⟩ | ⟨e, t, t', one, two, next⟩ := tried.outcomes linked <;> rw [one, two]
  · exact ⟨.ok related, next⟩
  · exact after e next

theorem mapM {f : α → ExceptT ε (StateM σ) γ} {f' : α → ExceptT ε (StateM σ) δ} {l : List α}
    (each : ∀ a ∈ l, Alike E T (f a) (f' a)) : Alike E (List.Forall₂ T) (l.mapM f) (l.mapM f') := by
  induction l with
  | nil => exact .pure .nil
  | cons a l ih =>
      obtain ⟨here, others⟩ := List.forall_mem_cons.mp each
      rw [List.mapM_cons, List.mapM_cons]
      exact here.bind fun _ _ first => (ih others).bind fun _ _ rest => .pure (.cons first rest)

theorem mapM_eq {f f' : α → ExceptT ε (StateM σ) γ} {l : List α} (each : ∀ a ∈ l, Alike E Eq (f a) (f' a)) :
    Alike E Eq (l.mapM f) (l.mapM f') :=
  (mapM each).mono fun _ _ same => List.forall₂_eq_eq_eq ▸ same

theorem forM {f f' : α → ExceptT ε (StateM σ) PUnit} {l : List α} (each : ∀ a ∈ l, Alike E Eq (f a) (f' a)) :
    Alike E Eq (l.forM f) (l.forM f') := by
  induction l with
  | nil => exact .pure rfl
  | cons a l ih =>
      obtain ⟨here, others⟩ := List.forall_mem_cons.mp each
      exact here.next fun _ => ih others

end Alike

end

/-! ## Ways of being watched -/

/-- How a run is watched: what it prints, and when it is said to have begun. -/
structure Watch where
  quiet : Bool := false
  verbose : Bool := false
  showVariables : Bool := false
  startTime : TimeOfDay := {}

/-- A setup that is watched in such a way. -/
def Setup.watched (setup : Setup) (w : Watch) : Setup :=
  { setup with
    quiet := w.quiet
    verbose := w.verbose
    showVariables := w.showVariables
    startTime := w.startTime }

/-- How a setup is watched. -/
def Setup.watch (setup : Setup) : Watch := ⟨setup.quiet, setup.verbose, setup.showVariables, setup.startTime⟩

theorem Setup.watched_watch (setup : Setup) : setup.watched setup.watch = setup := rfl

/-- The first second of a day. -/
def TimeOfDay.midnight : TimeOfDay := ⟨⟨0, by decide⟩, ⟨0, by decide⟩, ⟨0, by decide⟩⟩

/-- A result without the time at which its step began. -/
def StepResult.undated (r : StepResult) : StepResult := { r with start := .midnight }

/-- The same result with another time at which its step began. -/
def StepResult.Redated (r r' : StepResult) : Prop := ∃ start, r' = { r with start }

theorem StepResult.Redated.undated {r r' : StepResult} (dated : r.Redated r') : r.undated = r'.undated := by
  obtain ⟨start, rfl⟩ := dated
  rfl

namespace Running

open ApiFlow.Flow

section

variable {setup : Setup} {E : RunState → RunState → Prop}

theorem alike_guard {α : Type} (result : Except Fault α) : Alike E Eq (guard result) (guard result) := by
  intro s s' linked
  cases result with
  | ok a => exact ⟨.ok rfl, linked⟩
  | error f => exact ⟨.error f, linked⟩

theorem alike_repeated {ε α : Type} {attempt attempt' : Running (Except ε α)} {pause pause' : Nat → Running Unit}
    (tried : Alike E Eq attempt attempt') (paused : ∀ n, Alike E Eq (pause n) (pause' n)) (left number : Nat) :
    Alike E Eq (Retry.repeated attempt pause left number) (Retry.repeated attempt' pause' left number) := by
  induction left generalizing number with
  | zero => exact tried.next fun _ => .pure rfl
  | succ left ih =>
      refine tried.next fun outcome => ?_
      cases outcome with
      | ok a => exact .pure rfl
      | error e => exact (paused number).next fun _ => ih (number + 1)

theorem alike_checkAll {subject : Assertion.Subject} {vars : Table Text} {asserts : List Text}
    (checks : ∀ a ∈ asserts, Alike E Eq (check setup subject vars a) (check setup subject vars a)) :
    Alike E Eq (checkAll setup subject vars asserts) (checkAll setup subject vars asserts) :=
  .mapM_eq fun a listed => (checks a listed).next fun _ => .pure rfl

end

/-- A computation that prints and takes notes, or neither, and does nothing else. -/
def Tells (m : Running Unit) : Prop := ∀ s, ∃ printed notes, ends m s = (.ok (), { s with printed, notes })

theorem tells_nothing : Tells (pure ()) := fun s => ⟨s.printed, s.notes, rfl⟩

theorem tells_say (setup : Setup) (text : Text) : Tells (say setup text) := by
  intro s
  have ended : ends (say setup text) s =
      (.ok (), if setup.quiet then s else { s with printed := s.printed ++ text }) := rfl
  rw [ended]
  split <;> exact ⟨_, _, rfl⟩

theorem tells_noteAll (notes : List Note) : Tells (noteAll notes) := fun _ => ⟨_, _, rfl⟩

theorem Tells.bind {m : Running Unit} {k : Unit → Running Unit} (first : Tells m) (rest : ∀ u, Tells (k u)) :
    Tells (m >>= k) := by
  intro s
  obtain ⟨printed, notes, ended⟩ := first s
  obtain ⟨printed', notes', ended'⟩ := rest () { s with printed, notes }
  exact ⟨printed', notes', by rw [ends_bind, ended]; exact ended'⟩

theorem Tells.forM {α : Type} {f : α → Running Unit} (each : ∀ a, Tells (f a)) (l : List α) : Tells (l.forM f) := by
  induction l with
  | nil => exact tells_nothing
  | cons a l ih => exact (each a).bind fun _ => ih

theorem tells_explain (setup : Setup) (vars : Table Text) (context : Context) : Tells (explain setup vars context) := by
  unfold explain
  split
  · exact tells_say setup _
  · exact tells_nothing

/-- Two linked runs decide assertions alike. -/
def DecidedAlike (setup : Setup) (E : RunState → RunState → Prop) (asserts : List Text) : Prop :=
  ∀ subject vars, ∀ a ∈ asserts, Alike E Eq (check setup subject vars a) (check setup subject vars a)

/-- A link between two runs of one setup: they see the same variables and are answered alike, neither prints nor notes
anything that matters, and the same change to both keeps the link. -/
structure Link (setup : Setup) (E : RunState → RunState → Prop) : Prop where
  context : ∀ {s s'}, E s s' → s.context = s'.context
  stored : ∀ {s s'}, E s s' → s.stored setup.settings = s'.stored setup.settings
  printed : ∀ {s s'}, E s s' → ∀ text text', E { s with printed := text } { s' with printed := text' }
  noted : ∀ {s s'}, E s s' → ∀ notes notes', E { s with notes := notes } { s' with notes := notes' }
  written : ∀ {s s'}, E s s' → ∀ context, E { s with context } { s' with context }
  saved : ∀ {s s'}, E s s' → ∀ name value,
    E { s with store? := s.store?.map (Store.save · setup.settings.projectId setup.settings.activeEnv name value) }
      { s' with store? := s'.store?.map (Store.save · setup.settings.projectId setup.settings.activeEnv name value) }
  recorded : ∀ {s s'}, E s s' → ∀ record : Record,
    E { s with store? := s.store?.map fun store => (store.append record).2 }
      { s' with store? := s'.store?.map fun store => (store.append record).2 }
  slept : ∀ {s s'}, E s s' → ∀ seconds,
    E { s with sleeps := s.sleeps ++ [seconds], clock := s.clock.add seconds }
      { s' with sleeps := s'.sleeps ++ [seconds], clock := s'.clock.add seconds }
  replied : ∀ {s s'}, E s s' → ∀ request,
    (setup.service s.sent.length request).outcome = (setup.service s'.sent.length request).outcome
  sent : ∀ {s s'}, E s s' → ∀ request, E (afterSend setup request s) (afterSend setup request s')

/-- Two rounds with the same verdict. -/
structure Round.Redated (r r' : Round) : Prop where
  result : r.result.Redated r'.result
  checked : r.checked = r'.checked
  settled : r.settled = r'.settled

namespace Link

variable {setup : Setup} {E : RunState → RunState → Prop} (link : Link setup E) (w w' : Watch)
include link

theorem chain {s s' : RunState} (linked : E s s') : s.chain setup.settings = s'.chain setup.settings := by
  rw [RunState.chain, RunState.chain, link.stored linked, link.context linked]

theorem tell {m m' : Running Unit} (first : Tells m) (second : Tells m') : Alike E Eq m m' := by
  intro s s' linked
  obtain ⟨printed, notes, ended⟩ := first s
  obtain ⟨printed', notes', ended'⟩ := second s'
  rw [ended, ended']
  exact ⟨.ok rfl, link.noted (link.printed linked printed printed') notes notes'⟩

theorem say (text text' : Text) : Alike E Eq (say (setup.watched w) text) (Running.say (setup.watched w') text') :=
  link.tell (tells_say _ _) (tells_say _ _)

theorem noteAll (notes notes' : List Note) : Alike E Eq (noteAll notes) (Running.noteAll notes') :=
  link.tell (tells_noteAll _) (tells_noteAll _)

theorem sleep (seconds : Double) : Alike E Eq (sleep seconds) (Running.sleep seconds) :=
  fun _ _ linked => ⟨.ok rfl, link.slept linked seconds⟩

/-! ### Tries -/

theorem pause (r : Retry) (wait : Double) (number : Nat) :
    Alike E Eq (r.pause (setup.watched w) wait number) (r.pause (setup.watched w') wait number) :=
  (link.say w w' _ _).next fun _ => link.sleep wait

theorem run {ε α : Type} {attempt attempt' : Running (Except ε α)} (tried : Alike E Eq attempt attempt') (r : Retry) :
    Alike E Eq (r.run (setup.watched w) attempt) (r.run (setup.watched w') attempt') :=
  (alike_guard _).next fun wait => alike_repeated tried (link.pause w w' r wait) _ _

theorem sendOnce (request : Request) (budgetMs : Int) :
    Alike E Eq (sendOnce (setup.watched w) request budgetMs) (sendOnce (setup.watched w') request budgetMs) := by
  intro s s' linked
  rw [ends_sendOnce, ends_sendOnce]
  refine ⟨?_, link.sent linked request⟩
  dsimp only [Setup.watched]
  rw [link.replied linked]
  cases received budgetMs (setup.service s'.sent.length request).outcome with
  | ok outcome => exact .ok rfl
  | error f => exact .error f

theorem sendRound (p : Plan) (deadline : Double) :
    Alike E Eq (sendRound (setup.watched w) p) (sendRound (setup.watched w') { p with deadline }) := by
  rw [sendRound_eq, sendRound_eq]
  have sends := link.run w w' (link.sendOnce w w' p.request p.step.maxDurationMs) ⟨p.step.retry, p.step.retryWaitMs⟩
  exact .tryCatch (sends.next fun _ => .pure rfl) fun _ => .pure rfl

/-! ### Captures and assertions -/

theorem capture (product : Capture.Product) (step : Text) (entries : List Text) :
    Alike E Eq (capture product step entries) (Running.capture product step entries) := by
  intro s s' linked
  rw [ends_capture, ends_capture, link.context linked]
  refine ⟨?_, link.noted (?_ : E { s with context := _ } { s' with context := _ }) _ _⟩
  · cases Capture.faultIn? product entries with
    | some f => exact .error f
    | none => exact .ok rfl
  · rw [link.context linked]
    exact link.written linked _

theorem markFailed (step : Text) : Alike E Eq (markFailed step) (Running.markFailed step) := by
  refine .modify fun {s s'} linked => ?_
  rw [link.context linked]
  exact link.written linked _

theorem sayCaptured (o : Capture.Outcome) :
    Alike E Eq (sayCaptured (setup.watched w) o) (sayCaptured (setup.watched w') o) := by
  unfold Running.sayCaptured
  split <;> exact link.say w w' _ _

theorem store (o : Capture.Outcome) : Alike E Eq (store (setup.watched w) o) (store (setup.watched w') o) := by
  unfold Running.store
  split
  · exact .pure rfl
  · exact .modify fun linked => link.saved linked _ _

theorem settleCaptures (passed : Bool) (outcomes : List Capture.Outcome) :
    Alike E Eq (settleCaptures (setup.watched w) passed outcomes)
      (settleCaptures (setup.watched w') passed outcomes) := by
  refine .forM fun o _ => (link.sayCaptured w w' o).next fun _ => ?_
  split
  · exact link.store w w' o
  · exact .pure rfl

/-! ### Rounds -/

theorem keep (p : Plan) (deadline : Double) (r : Response) :
    Alike E Eq (keep (setup.watched w) p r) (keep (setup.watched w') { p with deadline } r) := by
  change Alike E Eq (Running.keep setup p r) (Running.keep setup p r)
  unfold Running.keep
  by_cases kept : (p.record && setup.keepHistory) = true
  · rw [if_pos kept]
    exact .modify fun linked => link.recorded linked _
  · rw [if_neg kept]
    exact .pure rfl

theorem settle {p : Plan} {deadline : Double} (closes : Alike E Eq (isOver p) (isOver { p with deadline }))
    {result result' : StepResult} (dated : result.Redated result') (outcomes : List Capture.Outcome)
    (checked : List (Text × Assertion.Verdict)) :
    Alike E Round.Redated (settle (setup.watched w) p result outcomes checked)
      (settle (setup.watched w') { p with deadline } result' outcomes checked) := by
  unfold Running.settle
  obtain ⟨start, rfl⟩ := dated
  split
  · exact (link.settleCaptures w w' true outcomes).next fun _ => .pure ⟨⟨start, rfl⟩, rfl, rfl⟩
  · refine closes.next fun isEnd => ?_
    split
    · exact (link.settleCaptures w w' false outcomes).next fun _ =>
        (link.markFailed _).next fun _ => .pure ⟨⟨start, rfl⟩, rfl, rfl⟩
    · exact .pure ⟨⟨start, rfl⟩, rfl, rfl⟩

theorem answer {p : Plan} {deadline : Double} (closes : Alike E Eq (isOver p) (isOver { p with deadline }))
    (checks : DecidedAlike setup E p.template.asserts)
    {result result' : StepResult} (dated : result.Redated result') (r : Response) (attempts : Nat) :
    Alike E Round.Redated (answered (setup.watched w) p result r attempts)
      (answered (setup.watched w') { p with deadline } result' r attempts) := by
  rw [answered_eq, answered_eq]
  refine (link.keep w w' p deadline r).next fun _ => (link.capture _ _ _).next fun outcomes =>
    Alike.get.bind fun s s' linked => ?_
  have vars : s.chain (setup.watched w).settings = s'.chain (setup.watched w').settings := link.chain linked
  rw [vars]
  refine (alike_checkAll (checks _ _)).next fun checked => link.settle w w' closes ?_ outcomes checked
  obtain ⟨start, rfl⟩ := dated
  exact ⟨start, rfl⟩

/-- **One round in each of two linked runs**: they come to the same verdict. -/
theorem round {p : Plan} {deadline : Double} (closes : Alike E Eq (isOver p) (isOver { p with deadline }))
    (checks : DecidedAlike setup E p.template.asserts)
    {result result' : StepResult} (dated : result.Redated result') :
    Alike E Round.Redated (round (setup.watched w) p result)
      (round (setup.watched w') { p with deadline } result') := by
  refine (link.sendRound w w' p deadline).next fun sent => ?_
  cases sent with
  | answer r attempts => exact link.answer w w' closes checks dated r attempts
  | failure e =>
      obtain ⟨start, rfl⟩ := dated
      cases e with
      | noResponse reason => exact .pure ⟨⟨start, rfl⟩, rfl, rfl⟩
      | overBudget durationMs budgetMs => exact .pure ⟨⟨start, rfl⟩, rfl, rfl⟩
  | fault f =>
      obtain ⟨start, rfl⟩ := dated
      exact (link.noteAll _ _).next fun _ => .pure ⟨⟨start, rfl⟩, rfl, rfl⟩

/-! ### Request steps -/

/-- **A request step in each of two linked runs**, if they prepare the request alike and the rounds come to the same. -/
theorem requestStep {step : Step} {t : RequestTemplate} {strict record : Bool} {flowHeaders : Table Text}
    (prepared : ∀ vars, Alike E Eq (prepare setup t vars strict flowHeaders step.maxDurationMs)
      (prepare setup t vars strict flowHeaders step.maxDurationMs))
    (polled : ∀ request {result result' : StepResult}, result.Redated result' →
      Alike E StepResult.Redated (poll (setup.watched w) step t record request result)
        (poll (setup.watched w') step t record request result')) :
    Alike E StepResult.Redated (requestStep (setup.watched w) step t strict flowHeaders record)
      (requestStep (setup.watched w') step t strict flowHeaders record) := by
  by_cases complete : t.isComplete = true
  · rw [requestStep_of_complete complete, requestStep_of_complete complete]
    refine Alike.get.bind fun s s' linked => ?_
    have vars : s.chain (setup.watched w).settings = s'.chain (setup.watched w').settings := link.chain linked
    rw [vars, link.context linked]
    refine (link.tell (tells_explain _ _ _) (tells_explain _ _ _)).next fun _ => (prepared _).next fun outcome => ?_
    cases outcome with
    | error e => exact .pure ⟨w'.startTime, rfl⟩
    | ok request => exact polled request ⟨w'.startTime, rfl⟩
  · have incomplete := Bool.eq_false_iff.mpr complete
    rw [requestStep_of_incomplete incomplete, requestStep_of_incomplete incomplete]
    exact .pure ⟨w'.startTime, rfl⟩

end Link

end Running

end ApiFlow

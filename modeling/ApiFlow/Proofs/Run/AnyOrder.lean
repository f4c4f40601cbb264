import ApiFlow.Proofs.Number.Digits
import ApiFlow.Proofs.Run.SeenAlike
import ApiFlow.Proofs.Run.Turns

/-!
# Plain requests in any order

Plain requests that capture nothing and name no built-in do not depend on each other: each comes to the result and adds
the records that it would by itself, in whatever order they are run, and if they are run all at once, in whatever order
they come to an end.

* `resultAlone`, `recordsAlone` : what a plain request comes to by itself.
* `runPlain_alone` : it comes to the same behind others.
* `Adds` : a computation adds some records wherever it begins, and changes no variable.
* `runAtOnce` : a run in which all requests are under way at once and come to their ends in a given order.
* `Reports` : a run reports some results and has added some records.
* `plains_in_any_order` : plain requests in any order, and all at once.
-/

set_option autoImplicit false

namespace ApiFlow

open ApiFlow.Flow

/-- Two plain requests of one name stand in one line. -/
theorem Flow.PlainRequest.line_eq_of_name {p q : PlainRequest} (same : p.name = q.name) : p.line = q.line := by
  have apart (m n : Nat) : "Block at line ".toList ++ Text.ofNat m ≠ "Line ".toList ++ Text.ofNat n :=
    fun texts => absurd (List.cons.inj texts).1 (by decide)
  rw [PlainRequest.name, PlainRequest.name] at same
  by_cases block : p.isBlock = true <;> by_cases block' : q.isBlock = true <;>
    simp only [block, block', if_true] at same
  · exact ofNat_injective (List.append_cancel_left same)
  · exact absurd same (apart _ _)
  · exact absurd same.symm (apart _ _)
  · exact ofNat_injective (List.append_cancel_left same)

namespace Running

variable {setup : Setup} {options : RunOptions} {strict : Bool} {s t u v : RunState} {p : PlainRequest}

/-! ## One request -/

/-- What a plain request comes to if it is run by itself, but for the time at which it begins. -/
def resultAlone (setup : Setup) (strict : Bool) (s : RunState) (p : PlainRequest) : StepResult :=
  ((ends (runPlain setup p strict) s).1.toOption.getD { name := p.name, start := .midnight }).undated

/-- The records that a plain request adds to the history if it is run by itself. -/
def recordsAlone (setup : Setup) (strict : Bool) (s : RunState) (p : PlainRequest) : List Record :=
  (ends (runPlain setup p strict) s).2.history.drop s.history.length

theorem name_resultAlone (setup : Setup) (strict : Bool) (s : RunState) (p : PlainRequest) :
    (resultAlone setup strict s p).name = p.name := by
  rw [resultAlone]
  rcases ended : ends (runPlain setup p strict) s with ⟨f | r, t⟩
  · rfl
  · have named : r.name = p.name := named_runPlain p strict ended
    exact named

/-- A service that answers a request in the same way every time, and headers of the settings that name no built-in. -/
structure Steady (setup : Setup) : Prop where
  answers : ∀ m n request, (setup.service m request).outcome = (setup.service n request).outcome
  defaults : ∀ h ∈ setup.settings.headers, Template.NamesNoBuiltin setup.builtins h.2

section

variable (steady : Steady setup) {vars : Table Text} (given : s.context = .ofCommandLine vars)
include steady given

/-- A plain request that returns from one state returns in the same way from another with the same variables. -/
theorem runPlain_behind (request : Undemanding setup.builtins p) (same : SameVars s u) {r : StepResult}
    (ran : Returns (runPlain setup p strict) s r t) (w : Watch) :
    ∃ added r' v, Logged s added t ∧ Returns (runPlain (setup.watched w) p strict) u r' v ∧
      r'.undated = r.undated ∧ Logged u added v := by
  obtain ⟨r', v, ran', dated, linked⟩ :=
    (alike_runPlain strict steady.answers steady.defaults request setup.watch w).returns same.seenAlike ran
  obtain ⟨added, grown, grown'⟩ := linked.grown
  have kept : SameVars s t := sameVars_runPlain request given ran
  exact ⟨added, r', v, ⟨kept, grown⟩, ran', dated.undated.symm,
    ⟨same.symm.trans (kept.trans linked.toSameVars), grown'⟩⟩

/-- **A plain request comes to the same behind others as by itself.** -/
theorem runPlain_alone (request : Undemanding setup.builtins p)
    (returns : ∃ r t, Returns (runPlain setup p strict) s r t) (same : SameVars s u) (w : Watch) :
    ∃ r v, Returns (runPlain (setup.watched w) p strict) u r v ∧ r.undated = resultAlone setup strict s p ∧
      Logged u (recordsAlone setup strict s p) v := by
  obtain ⟨r, t, ran⟩ := returns
  obtain ⟨added, r', v, first, ran', dated, second⟩ := runPlain_behind steady given request same ran w
  have ended : ends (runPlain setup p strict) s = (.ok r, t) := ran
  refine ⟨r', v, ran', ?_, ?_⟩
  · rw [dated, resultAlone, ended]
    rfl
  · rwa [recordsAlone, ended, first.history, List.drop_left]

/-- Of requests that return one after the other, each returns by itself. -/
theorem returns_each {plains : List PlainRequest} (requests : ∀ p ∈ plains, Undemanding setup.builtins p)
    {results : List StepResult} (same : SameVars s u)
    (returned : Returns (plains.mapM fun p => runPlain setup p strict) u results v) :
    ∀ p ∈ plains, ∃ r t, Returns (runPlain setup p strict) s r t := by
  induction plains generalizing u results with
  | nil => nofun
  | cons p rest ih =>
      obtain ⟨here, others⟩ := List.forall_mem_cons.mp requests
      obtain ⟨r, t, more, first, following, -⟩ := returns_mapM_cons.mp returned
      have started : u.context = .ofCommandLine vars := same.context.trans given
      obtain ⟨added, r', t', reached, alone, -⟩ := runPlain_behind steady started here same.symm first setup.watch
      exact List.forall_mem_cons.mpr ⟨⟨r', t', alone⟩, ih others (same.trans reached.toSameVars) following⟩

end

/-! ## Computations that add records -/

section

variable {α β : Type} {P : α → Prop} {Q : β → Prop} {added more : List Record}

/-- From every state with the same variables, the computation returns something of a kind and adds these records. -/
def Adds (s : RunState) (added : List Record) (P : α → Prop) (m : Running α) : Prop :=
  ∀ u, SameVars s u → ∃ a v, Returns m u a v ∧ P a ∧ Logged u added v

namespace Adds

theorem pure {a : α} (holds : P a) : Adds s [] P (pure a) :=
  fun u _ => ⟨a, u, returns_pure.mpr ⟨rfl, rfl⟩, holds, .of_same rfl⟩

theorem modify {g : RunState → RunState} (blind : ∀ u, ((g u).context, (g u).store?) = (u.context, u.store?)) :
    Adds s [] (fun _ => True) (modify g : Running Unit) :=
  fun u _ => ⟨(), g u, returns_modify.mpr rfl, trivial, .of_same (blind u)⟩

theorem say (setup : Setup) (text : Text) : Adds s [] (fun _ => True) (say setup text) := by
  refine modify fun u => ?_
  split <;> rfl

theorem begin (names : List Text) : Adds s [] (fun _ => True) (begin names) := modify fun _ => rfl

theorem mark (id : Text) (state : StepState) : Adds s [] (fun _ => True) (markStep id state) := modify fun _ => rfl

theorem bind {m : Running α} {k : α → Running β} (first : Adds s added P m) (rest : ∀ a, P a → Adds s more Q (k a)) :
    Adds s (added ++ more) Q (m >>= k) := by
  intro u same
  obtain ⟨a, v, ran, holds, before⟩ := first u same
  obtain ⟨b, w, following, good, after⟩ := rest a holds v (same.trans before.toSameVars)
  exact ⟨b, w, returns_bind.mpr ⟨a, v, ran, following⟩, good, before.trans after⟩

/-- What adds nothing may stand in front. -/
theorem after {m : Running α} {k : α → Running β} (first : Adds s [] P m) (rest : ∀ a, P a → Adds s added Q (k a)) :
    Adds s added Q (m >>= k) :=
  first.bind rest

/-- What adds nothing may stand behind. -/
theorem before {m : Running α} {k : α → Running β} (first : Adds s added P m) (rest : ∀ a, P a → Adds s [] Q (k a)) :
    Adds s added Q (m >>= k) := by
  have both := first.bind rest
  rwa [List.append_nil] at both

theorem mapM {ι : Type} {f : ι → Running α} {R : ι → α → Prop} {records : ι → List Record} {items : List ι}
    (each : ∀ i ∈ items, Adds s (records i) (R i) (f i)) :
    Adds s (items.flatMap records) (List.Forall₂ R items) (items.mapM f) := by
  induction items with
  | nil => exact pure .nil
  | cons i rest ih =>
      obtain ⟨here, others⟩ := List.forall_mem_cons.mp each
      rw [List.mapM_cons, List.flatMap_cons]
      exact here.bind fun a holds => (ih others).before fun more all => pure (.cons holds all)

end Adds

end

/-! ## Requests one after the other -/

/-- A plain request comes to a result as it does by itself. -/
def AsAlone (setup : Setup) (strict : Bool) (s : RunState) (p : PlainRequest) (r : StepResult) : Prop :=
  r.undated = resultAlone setup strict s p

theorem undated_of_asAlone {plains : List PlainRequest} {results : List StepResult}
    (each : List.Forall₂ (AsAlone setup strict s) plains results) :
    results.map StepResult.undated = plains.map (resultAlone setup strict s) := by
  induction each with
  | nil => rfl
  | cons first _ ih => rw [List.map_cons, List.map_cons, first, ih]

/-- However it is watched, and whatever has been run before it, a plain request comes to the same. -/
def Indifferent (setup : Setup) (strict : Bool) (s : RunState) (p : PlainRequest) : Prop :=
  ∀ w, Adds s (recordsAlone setup strict s p) (AsAlone setup strict s p) (runPlain (setup.watched w) p strict)

theorem adds_runPlains {order : List PlainRequest} (indifferent : ∀ p ∈ order, Indifferent setup strict s p)
    (w : Watch) :
    Adds s (order.flatMap (recordsAlone setup strict s)) (List.Forall₂ (AsAlone setup strict s) order)
      (order.mapM fun p => runPlain (setup.watched w) p strict) :=
  .mapM fun p listed => indifferent p listed w

theorem adds_plainAside (indifferent : Indifferent setup options.strict s p) :
    Adds s (recordsAlone setup options.strict s p) (fun o => ∃ r, o = .ok r ∧ AsAlone setup options.strict s p r)
      (plainAside setup options p) := by
  intro u same
  obtain ⟨r, v, ran, alone, logged⟩ := indifferent { setup.watch with quiet := true } u same
  have caught : Returns (plainAside setup options p) u (.ok r) v := by
    have tried : Returns (do return .ok (← runPlain { setup with quiet := true } p options.strict) :
        Running (Except Fault StepResult)) u (.ok r) v :=
      returns_bind.mpr ⟨r, v, ran, returns_pure.mpr ⟨rfl, rfl⟩⟩
    rw [Returns, plainAside, ends_tryCatch, show ends _ u = _ from tried]
  exact ⟨.ok r, v, caught, ⟨r, rfl, alone⟩, logged⟩

/-- Outcomes that are no faults come up as results. -/
theorem adds_guards {plains : List PlainRequest} {outcomes : List (Except Fault StepResult)}
    (each : List.Forall₂ (fun p o => ∃ r, o = .ok r ∧ AsAlone setup strict s p r) plains outcomes) :
    Adds s [] (List.Forall₂ (AsAlone setup strict s) plains) (outcomes.mapM guard) := by
  induction each with
  | nil => exact .pure .nil
  | cons first _ ih =>
      obtain ⟨r, rfl, alone⟩ := first
      rw [List.mapM_cons]
      have here : Adds s [] (· = r) (guard (.ok r)) :=
        fun u _ => ⟨r, u, returns_guard.mpr ⟨rfl, rfl⟩, rfl, .of_same rfl⟩
      exact here.after fun _ same => ih.after fun _ all => .pure (.cons (same ▸ alone) all)

/-- **Plain requests that are run all at once come to what each comes to by itself.** -/
theorem adds_plainsAtOnce {ended : List PlainRequest}
    (indifferent : ∀ p ∈ ended, Indifferent setup options.strict s p) :
    Adds s (ended.flatMap (recordsAlone setup options.strict s)) (List.Forall₂ (AsAlone setup options.strict s) ended)
      (plainsAtOnce setup options ended) :=
  (Adds.mapM fun p listed => adds_plainAside (indifferent p listed)).before fun _ each => adds_guards each

theorem adds_takeResults (results : List StepResult) (summary : Summary) :
    Adds s [] (· = { summary with results := summary.results ++ results }) (results.foldlM takeResult summary) := by
  induction results generalizing summary with
  | nil => exact .pure (by rw [List.append_nil])
  | cons r rest ih =>
      rw [List.foldlM_cons]
      refine Adds.after (P := (· = summary.add r)) ?_ fun taken same => ?_
      · exact (Adds.mark _ _).after fun _ _ => .pure rfl
      · subst same
        simpa [Summary.add] using ih (summary.add r)

theorem adds_takePlain (indifferent : Indifferent setup options.strict s p) (summary : Summary) :
    Adds s (recordsAlone setup options.strict s p)
      (fun taken => AsAlone setup options.strict s p taken.1 ∧ taken.2 = summary.add taken.1)
      (takePlain setup options summary p) :=
  (Adds.mark _ _).after fun _ _ => (indifferent setup.watch).before fun _ alone =>
    (Adds.mark _ _).after fun _ _ => (Adds.say setup _).after fun _ _ => .pure ⟨alone, rfl⟩

/-- **Plain requests that are run in order come to what each comes to by itself**, if no failure is to stop them. -/
theorem adds_takePlains (goesOn : options.failFast = false) {plains : List PlainRequest}
    (indifferent : ∀ p ∈ plains, Indifferent setup options.strict s p) (summary : Summary) :
    Adds s (plains.flatMap (recordsAlone setup options.strict s))
      (fun taken => ∃ results, List.Forall₂ (AsAlone setup options.strict s) plains results ∧
        taken = { summary with results := summary.results ++ results })
      (takePlains setup options plains summary) := by
  induction plains generalizing summary with
  | nil => exact .pure ⟨[], .nil, by rw [List.append_nil]⟩
  | cons p rest ih =>
      obtain ⟨here, others⟩ := List.forall_mem_cons.mp indifferent
      rw [takePlains, List.flatMap_cons]
      refine (adds_takePlain here summary).bind fun taken alone => ?_
      obtain ⟨r, next⟩ := taken
      obtain ⟨alone, rfl : next = summary.add r⟩ := alone
      simp only [goesOn, Bool.and_false, Bool.false_eq_true, if_false]
      intro u same
      obtain ⟨closed, v, ran, ⟨results, each, rfl⟩, logged⟩ := ih others (summary.add r) u same
      exact ⟨_, v, ran, ⟨r :: results, .cons alone each, by simp [Summary.add]⟩, logged⟩

/-! ## Whole runs -/

/-- What a run does before it closes its summary, if it runs plain requests all at once and they come to their ends in
the given order. -/
def takeAtOnce (setup : Setup) (options : RunOptions) (plains ended : List PlainRequest) (source : Text)
    (started : Double) : Running Summary := do
  begin (plains.map (·.name))
  say setup (Report.runStarted plains.length source ("parallel (" ++ Text.ofInt (workers options) ++ " workers)"))
  let results ← plainsAtOnce setup options ended
  results.foldlM takeResult { started }

/-- What a run does before it closes its summary, if it runs plain requests in order. -/
def takeInOrder (setup : Setup) (options : RunOptions) (plains : List PlainRequest) (source : Text)
    (started : Double) : Running Summary := do
  begin (plains.map (·.name))
  say setup (Report.runStarted plains.length source "sequential")
  takePlains setup options plains { started }

/-- Runs plain requests all at once; they come to their ends in the given order. -/
def runAtOnce (setup : Setup) (options : RunOptions) (plains ended : List PlainRequest) (source : Text) :
    Running Summary := do
  finish setup (← takeAtOnce setup options plains ended source (← now))

theorem runPlainRequests_of_parallel (parallel : options.parallel = true) (plains : List PlainRequest) (source : Text) :
    runPlainRequests setup options plains source = runAtOnce setup options plains plains source := by
  simp only [runPlainRequests, runAtOnce, takeAtOnce, parallel, if_true, bind_assoc]

theorem runPlainRequests_of_sequential (sequential : options.parallel = false) (plains : List PlainRequest)
    (source : Text) :
    runPlainRequests setup options plains source =
      (do finish setup (← takeInOrder setup options plains source (← now))) := by
  simp only [runPlainRequests, takeInOrder, sequential, Bool.false_eq_true, if_false, bind_assoc]

/-- If a run returns, it reports these results, but for the times at which their steps began, and has skipped nothing;
it has left the variables as they were and added these records to the history.  It returns unless the time that it took
is no number. -/
structure Reports (m : Running Summary) (s : RunState) (results : List StepResult) (added : List Record) : Prop where
  returned : ∀ summary t, Returns m s summary t →
    summary.results.map StepResult.undated = results ∧ summary.skipped = [] ∧ Logged s added t
  stopped : ∀ f, Stops m s f → ∃ x, elapsedMs s.clock x = .error f

theorem close_eq_error {results : List StepResult} {started x : Double} {f : Fault}
    (bad : Summary.close { started, results } x = .error f) : elapsedMs started x = .error f := by
  cases elapsed : elapsedMs started x with
  | ok ms => simp [Summary.close, elapsed, Except.map] at bad
  | error e => simpa [Summary.close, elapsed, Except.map] using bad

theorem reports_of_adds {plains : List PlainRequest} {added : List Record} {take : Double → Running Summary}
    (adds : Adds s added (fun summary => ∃ results, List.Forall₂ (AsAlone setup strict s) plains results ∧
      summary = { started := s.clock, results }) (take s.clock)) :
    Reports (do finish setup (← take (← now))) s (plains.map (resultAlone setup strict s)) added := by
  obtain ⟨_, u, taken, ⟨results, each, rfl⟩, logged⟩ := adds s (.refl s)
  have ended : ends (do finish setup (← take (← now))) s = ends (finish setup { started := s.clock, results }) u := by
    rw [(returns_now.mpr ⟨rfl, rfl⟩).ends_bind, taken.ends_bind]
  constructor
  · intro summary t returned
    rw [Returns, ended] at returned
    obtain ⟨same, skipped⟩ := returns_finish returned
    have kept : (t.context, t.store?) = (u.context, u.store?) :=
      congrArg (fun l => (l.2.2.1, l.2.2.2)) (Prod.mk.inj (finish_leaves returned).1).1
    exact ⟨by rw [same, undated_of_asAlone each], skipped, logged.still kept⟩
  · intro f stopped
    rw [Stops, ended] at stopped
    exact ⟨u.clock, close_eq_error (stops_finish_iff.mp stopped)⟩

/-- **Plain requests that are run all at once** report what each comes to by itself, in the order of their ends. -/
theorem reports_runAtOnce (options : RunOptions) {ended : List PlainRequest}
    (indifferent : ∀ p ∈ ended, Indifferent setup options.strict s p) (plains : List PlainRequest) (source : Text) :
    Reports (runAtOnce setup options plains ended source) s (ended.map (resultAlone setup options.strict s))
      (ended.flatMap (recordsAlone setup options.strict s)) := by
  refine reports_of_adds ?_
  refine (Adds.begin _).after fun _ _ => (Adds.say setup _).after fun _ _ => ?_
  refine (adds_plainsAtOnce indifferent).before fun results each => ?_
  intro u same
  obtain ⟨_, v, taken, rfl, logged⟩ := adds_takeResults results { started := s.clock } u same
  exact ⟨_, v, taken, ⟨results, each, rfl⟩, logged⟩

/-- **Plain requests report what each comes to by itself**, if no failure is to stop them. -/
theorem reports_runPlainRequests (options : RunOptions) (goesOn : options.failFast = false) {plains : List PlainRequest}
    (indifferent : ∀ p ∈ plains, Indifferent setup options.strict s p) (source : Text) :
    Reports (runPlainRequests setup options plains source) s (plains.map (resultAlone setup options.strict s))
      (plains.flatMap (recordsAlone setup options.strict s)) := by
  cases parallel : options.parallel with
  | true =>
      rw [runPlainRequests_of_parallel parallel]
      exact reports_runAtOnce options indifferent plains source
  | false =>
      rw [runPlainRequests_of_sequential parallel]
      refine reports_of_adds ?_
      refine (Adds.begin _).after fun _ _ => (Adds.say setup _).after fun _ _ => ?_
      exact adds_takePlains goesOn indifferent { started := s.clock }

/-- **Plain requests do not depend on their order**, if the service answers a request in the same way every time,
nothing is captured, and neither the requests nor the headers of the settings name a built-in.  If they return one after
the other in one order, they do so in every order, however they are watched: each has the result that it has by itself,
but for the time at which it began, and adds the records that it adds by itself, and all variables are left as they
were.  A run of all at once reports the same results and adds the same records, with whatever number of workers and in
whatever order the requests come to their ends; so does a run of either kind in the order of the requests, if no failure
is to stop it.  Each result bears the name of its request, and no two requests have one name. -/
theorem plains_in_any_order (steady : Steady setup) {plains : List PlainRequest}
    (distinct : (plains.map (·.line)).Nodup) (requests : ∀ p ∈ plains, Undemanding setup.builtins p) {vars : Table Text}
    (given : s.context = .ofCommandLine vars) {results : List StepResult}
    (returned : Returns (plains.mapM fun p => runPlain setup p strict) s results t) {order : List PlainRequest}
    (shuffled : order.Perm plains) (w : Watch) (jobs : Int) (failFast : Bool) (source : Text) :
    ((∀ p, (resultAlone setup strict s p).name = p.name) ∧ (order.map (·.name)).Nodup) ∧
      (∃ results t, Returns (order.mapM fun p => runPlain (setup.watched w) p strict) s results t ∧
        results.map StepResult.undated = order.map (resultAlone setup strict s) ∧
        Logged s (order.flatMap (recordsAlone setup strict s)) t) ∧
      Reports (runAtOnce setup { parallel := true, jobs, failFast, strict } plains order source) s
        (order.map (resultAlone setup strict s)) (order.flatMap (recordsAlone setup strict s)) ∧
      ∀ parallel, Reports (runPlainRequests setup { parallel, jobs, strict } plains source) s
        (plains.map (resultAlone setup strict s)) (plains.flatMap (recordsAlone setup strict s)) := by
  have alone := returns_each steady given requests (.refl s) returned
  have indifferent : ∀ p ∈ plains, Indifferent setup strict s p := fun p listed w u same =>
    runPlain_alone steady given (requests p listed) (alone p listed) same w
  have shuffledIndifferent : ∀ p ∈ order, Indifferent setup strict s p := fun p listed =>
    indifferent p (shuffled.mem_iff.mp listed)
  have once : (order.map (·.name)).Nodup := by
    have lines : (order.map (·.line)).Nodup := (shuffled.map _).nodup_iff.mpr distinct
    rw [List.Nodup, List.pairwise_map] at lines ⊢
    exact lines.imp fun apart same => apart (PlainRequest.line_eq_of_name same)
  refine ⟨⟨name_resultAlone setup strict s, once⟩, ?_, ?_, fun parallel => ?_⟩
  · obtain ⟨results, t, ran, each, logged⟩ := adds_runPlains shuffledIndifferent w s (.refl s)
    exact ⟨results, t, ran, undated_of_asAlone each, logged⟩
  · exact reports_runAtOnce { parallel := true, jobs, failFast, strict } shuffledIndifferent plains source
  · exact reports_runPlainRequests { parallel, jobs, strict } rfl indifferent source

/-- A service that answers a request with its address, behind settings that add a header to each. -/
def echoing (header : Text × Text) : Setup :=
  { answering (.response {}) with
    settings := { headers := [header] }
    service := fun _ request => { outcome := .response { body := request.url } } }

/-- Two requests, the second of which fails. -/
def errands : List PlainRequest :=
  [{ line := 1, raw := "GET http://api.test/{{user}}\n\n[Asserts]\nbody contains {{user}}" },
    { line := 9, raw := "POST http://api.test/notes\n\nhello\n\n[Asserts]\nstatus == 201" }]

theorem undemanding_errands : ∀ p ∈ errands, Undemanding (answering (.response {})).builtins p := by decide +kernel

/-- The start of a run with a user and an empty store. -/
def withUser : RunState :=
  { draws := { seed := 1 }, context := .ofCommandLine [("user".toList, "ann".toList)], store? := some {} }

/-- The errands all at once, where the second comes to its end first. -/
def errandsAtOnce (setup : Setup) : Running Summary :=
  runAtOnce setup { parallel := true, jobs := 2, strict := true } errands errands.reverse []

/-- Two errands report the same and add the same records if the second comes to its end first. -/
theorem plains_in_any_order_errands :
    let setup := echoing ("X-Client".toList, "of {{user}}".toList)
    Steady setup ∧ (∀ p ∈ errands, Undemanding setup.builtins p) ∧
      (∃ results t, Returns (errands.mapM fun p => runPlain setup p true) withUser results t) ∧
      ∃ summary t, Returns (errandsAtOnce setup) withUser summary t ∧
        summary.results.map StepResult.undated = errands.reverse.map (resultAlone setup true withUser) ∧
        t.history = errands.reverse.flatMap (recordsAlone setup true withUser) ∧
        t.history.map (·.url) = ["http://api.test/notes".toList, "http://api.test/ann".toList] := by
  intro setup
  have steady : Steady setup := ⟨fun _ _ _ => rfl, by decide +kernel⟩
  obtain ⟨results, returned⟩ := returns_of_isOk (m := errands.mapM fun p => runPlain setup p true) (s := withUser)
    (by decide +kernel)
  obtain ⟨summary, finished⟩ := returns_of_isOk (m := errandsAtOnce setup) (s := withUser) (by decide +kernel)
  obtain ⟨-, -, atOnce, -⟩ := plains_in_any_order steady (by decide) undemanding_errands rfl returned
    errands.reverse_perm {} 2 false []
  obtain ⟨same, -, logged⟩ := atOnce.returned summary _ finished
  have history : withUser.history = [] := rfl
  have added := logged.history
  rw [history, List.nil_append] at added
  exact ⟨steady, undemanding_errands, ⟨results, _, returned⟩, summary, _, finished, same, added, by decide +kernel⟩

/-- **A header of the settings that names a built-in makes requests depend on their order**: the number that goes out
with a request is recorded with it, and whichever request is first has the first number. -/
theorem errands_share_numbers :
    let setup := echoing ("X-Nonce".toList, "{{$randomInt}}".toList)
    (∀ m n request, setup.service m request = setup.service n request) ∧ (errands.map (·.line)).Nodup ∧
      (∀ p ∈ errands, Undemanding setup.builtins p) ∧
      ∃ results t results' t', Returns (errands.mapM fun p => runPlain setup p true) withUser results t ∧
        Returns (errands.reverse.mapM fun p => runPlain setup p true) withUser results' t' ∧
        ¬ t.history.Perm t'.history := by
  intro setup
  obtain ⟨results, returned⟩ := returns_of_isOk (m := errands.mapM fun p => runPlain setup p true) (s := withUser)
    (by decide +kernel)
  obtain ⟨results', returned'⟩ := returns_of_isOk (m := errands.reverse.mapM fun p => runPlain setup p true)
    (s := withUser) (by decide +kernel)
  refine ⟨fun _ _ _ => rfl, by decide, undemanding_errands, results, _, results', _, returned, returned', ?_⟩
  decide +kernel

end Running

end ApiFlow
